import IdentityDocs.Text.Utf8
import Mathlib.Tactic.IntervalCases

/-!
# Texts are read back from their bytes

The decoder that accepts all bytes settles a character with the last of its bytes, and nothing is
pending then. So it reads an encoded text back character by character, and puts no replacement
character into it. The bounds on the second byte, which keep out what no character encodes, let
through the second byte of every character.
-/

namespace IdentityDocs.Text

theorem toNat_ofNat {n : Nat} (h : n < 256) : (UInt8.ofNat n).toNat = n := by
  rw [UInt8.toNat_ofNat', Nat.mod_eq_of_lt h]

/-! ## Single bytes -/

/-- A byte that starts a character of several bytes makes it pending. -/
theorem decodeFrom_start {n : Nat} {p : Pending} (hn : 0x80 ≤ n) (hbound : n < 256)
    (h : Pending.start? (.ofNat n) = some p) (rest : List UInt8) :
    decodeFrom none (.ofNat n :: rest) = decodeFrom (some p) rest := by
  have hfirst : ¬ (UInt8.ofNat n).toNat < 0x80 := by
    rw [toNat_ofNat hbound]
    omega
  simp only [decodeFrom, readByte, readFirst, if_neg hfirst, h, List.nil_append]

/-- A byte within the bounds continues the pending character. -/
theorem readByte_of_mem {missing bits n : Nat} {low high : UInt8} (hbound : n < 256)
    (hlow : low.toNat ≤ n) (hhigh : n ≤ high.toNat) :
    readByte (.ofNat n) (some ⟨missing, bits, low, high⟩) =
      if missing ≤ 1 then ([Char.ofNat (bits * 64 + (n - 0x80))], none)
      else ([], some ⟨missing - 1, bits * 64 + (n - 0x80), 0x80, 0xbf⟩) := by
  have hmem : (decide (low ≤ UInt8.ofNat n) && decide (UInt8.ofNat n ≤ high)) = true := by
    simp only [Bool.and_eq_true, decide_eq_true_eq, UInt8.le_iff_toNat_le, toNat_ofNat hbound]
    exact ⟨hlow, hhigh⟩
  simp only [readByte, hmem, if_true, toNat_ofNat hbound]

/-- A byte before the last adds its bits. -/
theorem decodeFrom_more (missing bits : Nat) {n : Nat} (low high : UInt8) (hbound : n < 256)
    (hlow : low.toNat ≤ n) (hhigh : n ≤ high.toNat) (rest : List UInt8) :
    decodeFrom (some ⟨missing + 2, bits, low, high⟩) (.ofNat n :: rest) =
      decodeFrom (some ⟨missing + 1, bits * 64 + (n - 0x80), 0x80, 0xbf⟩) rest := by
  simp [decodeFrom, readByte_of_mem hbound hlow hhigh]

/-- The last byte of a pending character settles it. -/
theorem decodeFrom_last (bits : Nat) {n : Nat} (hlow : 0x80 ≤ n) (hhigh : n ≤ 0xbf)
    (rest : List UInt8) :
    decodeFrom (some ⟨1, bits, 0x80, 0xbf⟩) (.ofNat n :: rest) =
      Char.ofNat (bits * 64 + (n - 0x80)) :: decodeFrom none rest := by
  have hbyte : readByte (.ofNat n) (some ⟨1, bits, 0x80, 0xbf⟩) =
      ([Char.ofNat (bits * 64 + (n - 0x80))], none) :=
    readByte_of_mem (by omega) hlow hhigh
  simp [decodeFrom, hbyte]

/-! ## The bytes that start a character -/

theorem start?_two {k : Nat} (hlow : 2 ≤ k) (hhigh : k < 32) :
    Pending.start? (.ofNat (k + 192)) = some ⟨1, k, 0x80, 0xbf⟩ := by
  interval_cases k <;> rfl

/-- The start of a character of three bytes. What may follow is bounded for two of them. -/
theorem start?_three {k : Nat} (hk : k < 16) : ∃ low high,
    Pending.start? (.ofNat (k + 224)) = some ⟨2, k, low, high⟩ ∧
      ∀ n, 0x80 ≤ n → n ≤ 0xbf → (k = 0 → 0xa0 ≤ n) → (k = 13 → n ≤ 0x9f) →
        low.toNat ≤ n ∧ n ≤ high.toNat := by
  by_cases hzero : k = 0
  · subst hzero
    exact ⟨0xa0, 0xbf, rfl, fun n _ hhigh hlow _ => ⟨hlow rfl, hhigh⟩⟩
  · by_cases hsurrogate : k = 13
    · subst hsurrogate
      exact ⟨0x80, 0x9f, rfl, fun n hlow _ _ hhigh => ⟨hlow, hhigh rfl⟩⟩
    · refine ⟨0x80, 0xbf, ?_, fun n hlow hhigh _ _ => ⟨hlow, hhigh⟩⟩
      interval_cases k <;> first | rfl | omega

/-- The start of a character of four bytes. What may follow is bounded for the first and the last of
them. -/
theorem start?_four {k : Nat} (hk : k ≤ 4) : ∃ low high,
    Pending.start? (.ofNat (k + 240)) = some ⟨3, k, low, high⟩ ∧
      ∀ n, 0x80 ≤ n → n ≤ 0xbf → (k = 0 → 0x90 ≤ n) → (k = 4 → n ≤ 0x8f) →
        low.toNat ≤ n ∧ n ≤ high.toNat := by
  by_cases hzero : k = 0
  · subst hzero
    exact ⟨0x90, 0xbf, rfl, fun n _ hhigh hlow _ => ⟨hlow rfl, hhigh⟩⟩
  · by_cases hlast : k = 4
    · subst hlast
      exact ⟨0x80, 0x8f, rfl, fun n hlow _ _ hhigh => ⟨hlow, hhigh rfl⟩⟩
    · refine ⟨0x80, 0xbf, ?_, fun n hlow hhigh _ _ => ⟨hlow, hhigh⟩⟩
      interval_cases k <;> first | rfl | omega

/-! ## Characters and texts -/

/-- An encoded character is read back, whatever follows it. -/
theorem decodeFrom_utf8EncodeChar (c : Char) (rest : List UInt8) :
    decodeFrom none (String.utf8EncodeChar c ++ rest) = c :: decodeFrom none rest := by
  obtain ⟨v, hv⟩ : ∃ v, c.val.toNat = v := ⟨_, rfl⟩
  have hchar : Char.ofNat v = c := by
    rw [← hv]
    exact Char.ofNat_toNat c
  have hvalid : v < 0xd800 ∨ 0xdfff < v ∧ v < 0x110000 := by
    rw [← hv]
    exact c.valid
  have hlast : 0x80 ≤ v % 64 + 128 ∧ v % 64 + 128 ≤ 0xbf := by omega
  have hmiddle : 0x80 ≤ v / 64 % 64 + 128 ∧ v / 64 % 64 + 128 ≤ 0xbf := by omega
  simp only [String.utf8EncodeChar, hv]
  by_cases hone : v ≤ 127
  · rw [if_pos hone]
    have hbyte : (UInt8.ofNat v).toNat = v := toNat_ofNat (by omega)
    have hascii : v < 0x80 := by omega
    simp only [List.singleton_append, decodeFrom, readByte, readFirst, hbyte, if_pos hascii, hchar]
  rw [if_neg hone]
  by_cases htwo : v ≤ 2047
  · rw [if_pos htwo]
    have hstart := start?_two (k := v / 64 % 32) (by omega) (by omega)
    have hbits : v / 64 % 32 * 64 + (v % 64 + 128 - 0x80) = v := by omega
    simp only [List.cons_append, List.nil_append]
    rw [decodeFrom_start (by omega) (by omega) hstart, decodeFrom_last _ hlast.1 hlast.2, hbits,
      hchar]
  rw [if_neg htwo]
  by_cases hthree : v ≤ 65535
  · rw [if_pos hthree]
    obtain ⟨low, high, hstart, hbounds⟩ := start?_three (k := v / 4096 % 16) (by omega)
    obtain ⟨hlow, hhigh⟩ := hbounds (v / 64 % 64 + 128) hmiddle.1 hmiddle.2 (by omega) (by omega)
    have hbits : (v / 4096 % 16 * 64 + (v / 64 % 64 + 128 - 0x80)) * 64 + (v % 64 + 128 - 0x80) =
        v := by omega
    simp only [List.cons_append, List.nil_append]
    rw [decodeFrom_start (by omega) (by omega) hstart,
      decodeFrom_more 0 _ low high (by omega) hlow hhigh,
      decodeFrom_last _ hlast.1 hlast.2, hbits, hchar]
  · rw [if_neg hthree]
    obtain ⟨low, high, hstart, hbounds⟩ := start?_four (k := v / 262144 % 8) (by omega)
    obtain ⟨hlow, hhigh⟩ :=
      hbounds (v / 4096 % 64 + 128) (by omega) (by omega) (by omega) (by omega)
    have hbits : ((v / 262144 % 8 * 64 + (v / 4096 % 64 + 128 - 0x80)) * 64 +
        (v / 64 % 64 + 128 - 0x80)) * 64 + (v % 64 + 128 - 0x80) = v := by omega
    simp only [List.cons_append, List.nil_append]
    rw [decodeFrom_start (by omega) (by omega) hstart,
      decodeFrom_more 1 _ low high (by omega) hlow hhigh,
      decodeFrom_more 0 _ 0x80 0xbf (by omega) hmiddle.1 hmiddle.2,
      decodeFrom_last _ hlast.1 hlast.2, hbits, hchar]

/-- A text is read back from its bytes. -/
theorem decodeLossy_encode (s : String) : decodeLossy (encode s) = s := by
  have hchars : ∀ cs : List Char, decodeFrom none (cs.flatMap String.utf8EncodeChar) = cs := by
    intro cs
    induction cs with
    | nil => rfl
    | cons c cs ih => rw [List.flatMap_cons, decodeFrom_utf8EncodeChar, ih]
  rw [decodeLossy, encode, hchars, String.ofList_toList]

/-- So does the decoder that refuses what is not UTF-8. -/
theorem decode?_encode (s : String) : decode? (encode s) = some s := by
  have hbytes : (⟨(encode s).toArray⟩ : ByteArray) = s.toByteArray := by
    rw [← String.utf8Encode_toList, List.utf8Encode, encode]
    ext1
    simp
  unfold decode? String.fromUTF8?
  rw [hbytes, dif_pos s.isValidUTF8]
  rfl

end IdentityDocs.Text
