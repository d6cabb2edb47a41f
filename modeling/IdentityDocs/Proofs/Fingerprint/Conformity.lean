import Mathlib.Tactic.Linarith
import IdentityDocs.Fingerprint.Sha256
import IdentityDocs.Proofs.Fingerprint.Standard

/-!
# The digest is that of the standard

The bits of a message's digest are those that the standard asks for (`digest?_ofBytes`). The proof
goes through the standard part by part. Words and rotations agree, the constants are computed, and
`Scheduled` is the invariant of a schedule that is being filled: what is there so far is the
standard's recursion. From this follow one block (`registers_compress`), all blocks
(`registers_absorb`, along the recursion of `absorb`), and the padding at every length.
-/

namespace IdentityDocs.Sha256

open Bits Standard

/-! ## Words -/

theorem toBitVec_rotate (x n : UInt32) (hpos : 0 < n.toNat) (hlt : n.toNat < 32) :
    (rotate x n).toBitVec = x.toBitVec.rotateRight n.toNat := by
  have hforth : (n.toBitVec % 32).toNat = n.toNat := by
    simp [BitVec.toNat_umod]
    omega
  have hback : ((32 - n).toBitVec % 32).toNat = 32 - n.toNat := by
    simp [BitVec.toNat_umod]
    omega
  rw [rotate, UInt32.toBitVec_or, UInt32.toBitVec_shiftRight, UInt32.toBitVec_shiftLeft,
    BitVec.ushiftRight_eq', BitVec.shiftLeft_eq', BitVec.rotateRight_def, Nat.mod_eq_of_lt hlt,
    hforth, hback]

theorem toBitVec_bigSigma0 (x : UInt32) :
    (rotate x 2 ^^^ rotate x 13 ^^^ rotate x 22).toBitVec = bigSigma0 x.toBitVec := by
  simp (disch := decide) only [UInt32.toBitVec_xor, toBitVec_rotate]
  rfl

theorem toBitVec_bigSigma1 (x : UInt32) :
    (rotate x 6 ^^^ rotate x 11 ^^^ rotate x 25).toBitVec = bigSigma1 x.toBitVec := by
  simp (disch := decide) only [UInt32.toBitVec_xor, toBitVec_rotate]
  rfl

theorem toBitVec_sigma0 (x : UInt32) :
    (rotate x 7 ^^^ rotate x 18 ^^^ (x >>> 3)).toBitVec = sigma0 x.toBitVec := by
  simp (disch := decide) only [UInt32.toBitVec_xor, UInt32.toBitVec_shiftRight, toBitVec_rotate]
  rfl

theorem toBitVec_sigma1 (x : UInt32) :
    (rotate x 17 ^^^ rotate x 19 ^^^ (x >>> 10)).toBitVec = sigma1 x.toBitVec := by
  simp (disch := decide) only [UInt32.toBitVec_xor, UInt32.toBitVec_shiftRight, toBitVec_rotate]
  rfl

theorem shiftLeft_or (x : Nat) {y : Nat} (hy : y < 2 ^ 8) : x <<< 8 ||| y = x * 2 ^ 8 + y := by
  rw [← Nat.shiftLeft_add_eq_or_of_lt hy, Nat.shiftLeft_eq]

theorem toBitVec_word (a b c d : UInt8) :
    (Sha256.word a b c d).toBitVec = BitVec.ofNat 32 (value (ofBytes [a, b, c, d])) := by
  have hvalue : value (ofBytes [a, b, c, d]) =
      ((a.toNat * 2 ^ 8 + b.toNat) * 2 ^ 8 + c.toNat) * 2 ^ 8 + d.toNat := by
    simp [ofBytes, value_append, value_binary, length_binary]
    ring
  rw [hvalue, ← shiftLeft_or _ d.toNat_lt, ← shiftLeft_or _ c.toNat_lt,
    ← shiftLeft_or _ b.toNat_lt]
  apply BitVec.eq_of_toNat_eq
  simp [Sha256.word, Nat.shiftLeft_or_distrib, ← Nat.shiftLeft_add]

theorem word_zero_succ (bits : List Bool) (t : Nat) :
    Standard.word bits 0 (t + 1) = Standard.word (bits.drop 32) 0 t := by
  rw [Standard.word, Standard.word, List.drop_drop,
    show 32 + (512 * 0 + 32 * t) = 512 * 0 + 32 * (t + 1) by omega]

/-- The words of some bytes are the first ones of their bits. -/
theorem toBitVec_words (n : Nat) {bytes : List UInt8} (h : bytes.length = 4 * n) :
    (words bytes).map UInt32.toBitVec = (List.range n).map (Standard.word (ofBytes bytes) 0) := by
  induction n generalizing bytes with
  | zero =>
    rw [List.eq_nil_of_length_eq_zero h]
    rfl
  | succ n ih =>
    obtain ⟨a, b, c, d, rest, rfl⟩ : ∃ a b c d rest, bytes = a :: b :: c :: d :: rest := by
      match bytes, h with
      | a :: b :: c :: d :: rest, _ => exact ⟨a, b, c, d, rest, rfl⟩
    have hlong : 4 ≤ (a :: b :: c :: d :: rest).length := by simp
    obtain ⟨htake, hdrop⟩ := ofBytes_parts (a :: b :: c :: d :: rest) hlong
    have hrest : rest.length = 4 * n := by
      simp only [List.length_cons] at h
      omega
    have hfirst : (Sha256.word a b c d).toBitVec =
        Standard.word (ofBytes (a :: b :: c :: d :: rest)) 0 0 := by
      rw [toBitVec_word, Standard.word, List.drop_zero, htake]
      rfl
    have hlater : Standard.word (ofBytes rest) 0 =
        Standard.word (ofBytes (a :: b :: c :: d :: rest)) 0 ∘ Nat.succ := by
      funext t
      rw [Function.comp_apply, word_zero_succ, hdrop]
      rfl
    rw [words, List.map_cons, List.range_succ_eq_map, List.map_cons, List.map_map, hfirst,
      ih hrest, hlater]

/-! ## Constants -/

def firstPrimes : List Nat :=
  [2, 3, 5, 7, 11, 13, 17, 19, 23, 29, 31, 37, 41, 43, 47, 53, 59, 61, 67, 71, 73, 79, 83, 89, 97,
   101, 103, 107, 109, 113, 127, 131, 137, 139, 149, 151, 157, 163, 167, 173, 179, 181, 191, 193,
   197, 199, 211, 223, 227, 229, 233, 239, 241, 251, 257, 263, 269, 271, 277, 281, 283, 293, 307,
   311]

/-- Below 18 * 18, primes are told by the primes below 18. -/
theorem prime_iff {n : Nat} (hn : n < 324) :
    n.Prime ↔ 2 ≤ n ∧ ∀ q ∈ [2, 3, 5, 7, 11, 13, 17], q ∣ n → q = n := by
  constructor
  · intro hp
    refine ⟨hp.two_le, fun q hq hdvd => ?_⟩
    rcases (Nat.dvd_prime hp).mp hdvd with rfl | heq
    · exact absurd hq (by decide)
    · exact heq
  · rintro ⟨htwo, hdivs⟩
    by_contra hcomposite
    have hfactor : n.minFac.Prime := Nat.minFac_prime (by omega)
    have hsq : n.minFac ^ 2 ≤ n := Nat.minFac_sq_le_self (by omega) hcomposite
    have hsmall : n.minFac < 18 := by nlinarith
    have hmem : ∀ q < 18, q.Prime → q ∈ [2, 3, 5, 7, 11, 13, 17] := by decide
    have heq : n.minFac = n := hdivs _ (hmem _ hsmall hfactor) n.minFac_dvd
    exact hcomposite (heq ▸ hfactor)

theorem primes_eq : primes = firstPrimes := by
  have htest : primes = (List.range 312).filter fun n =>
      2 ≤ n ∧ ∀ q ∈ [2, 3, 5, 7, 11, 13, 17], q ∣ n → q = n := by
    apply List.filter_congr
    intro n hn
    have hlt := List.mem_range.mp hn
    exact decide_eq_decide.mpr (prime_iff (by omega))
  rw [htest]
  decide +kernel

theorem toBitVec_constants : constants.map UInt32.toBitVec = (List.range 64).map roundConstant := by
  change _ = (List.range 64).map fun t => rootFraction 3 (primes.getD t 0)
  rw [primes_eq]
  decide +kernel

/-! ## The schedule -/

/-- A schedule is filled up to the word `n`. -/
def Scheduled (m : Nat → Word) (n : Nat) (w : Array UInt32) : Prop :=
  w.toList.map UInt32.toBitVec = (List.range n).map (Standard.schedule m)

namespace Scheduled

variable {m : Nat → Word} {n : Nat} {w : Array UInt32}

theorem size_eq (h : Scheduled m n w) : w.size = n := by
  simpa using congrArg List.length h

theorem toBitVec_getD (h : Scheduled m n w) {t : Nat} (ht : t < n) :
    (w.getD t 0).toBitVec = Standard.schedule m t := by
  have hsize : t < w.size := h.size_eq ▸ ht
  have hget : (w.toList.map UInt32.toBitVec)[t]? = some (Standard.schedule m t) := by
    rw [h, List.getElem?_map, List.getElem?_range ht, Option.map_some]
  simpa [hsize] using hget

/-- The next word is the one that the recursion gives. -/
theorem extend (h : Scheduled m n w) (hn : 16 ≤ n) : Scheduled m (n + 1) (extend w) := by
  have hnext : (w.getD (w.size - 16) 0 +
      (rotate (w.getD (w.size - 15) 0) 7 ^^^ rotate (w.getD (w.size - 15) 0) 18 ^^^
        (w.getD (w.size - 15) 0 >>> 3)) + w.getD (w.size - 7) 0 +
      (rotate (w.getD (w.size - 2) 0) 17 ^^^ rotate (w.getD (w.size - 2) 0) 19 ^^^
        (w.getD (w.size - 2) 0 >>> 10))).toBitVec = Standard.schedule m n := by
    rw [Standard.schedule, if_neg (by omega)]
    simp (disch := omega) only [UInt32.toBitVec_add, toBitVec_sigma0, toBitVec_sigma1, h.size_eq,
      h.toBitVec_getD]
    ac_rfl
  rw [Scheduled, Sha256.extend, Array.toList_push, List.map_append, h, List.range_succ,
    List.map_append, List.map_singleton, List.map_singleton, hnext]

theorem foldl_extend (h : Scheduled m n w) (hn : 16 ≤ n) (k : Nat) :
    Scheduled m (n + k) ((List.range k).foldl (fun w _ => Sha256.extend w) w) := by
  induction k with
  | zero => exact h
  | succ k ih =>
    rw [List.range_succ, List.foldl_append]
    exact ih.extend (by omega)

end Scheduled

theorem scheduled_schedule {m : Nat → Word} {block : List UInt8}
    (h : (words block).map UInt32.toBitVec = (List.range 16).map m) :
    Scheduled m 64 (Sha256.schedule block) := by
  have hwords : Scheduled m 16 (words block).toArray := by
    rw [Scheduled, List.toList_toArray, h]
    apply List.map_congr_left
    intro t ht
    rw [Standard.schedule, if_pos (List.mem_range.mp ht)]
  exact hwords.foldl_extend (by decide) 48

/-! ## Blocks -/

/-- The words of a state. -/
def State.registers (s : State) : Registers :=
  ⟨s.a.toBitVec, s.b.toBitVec, s.c.toBitVec, s.d.toBitVec, s.e.toBitVec, s.f.toBitVec,
    s.g.toBitVec, s.h.toBitVec⟩

theorem registers_initial : initial.registers = start := by
  rw [start, primes_eq]
  decide +kernel

theorem registers_round (s : State) (k w : UInt32) :
    (round s k w).registers = s.registers.round k.toBitVec w.toBitVec := by
  simp only [State.registers, round, Registers.round, UInt32.toBitVec_add, toBitVec_bigSigma0,
    toBitVec_bigSigma1]
  rfl

theorem registers_add (s t : State) :
    State.registers ⟨s.a + t.a, s.b + t.b, s.c + t.c, s.d + t.d, s.e + t.e, s.f + t.f, s.g + t.g,
      s.h + t.h⟩ = s.registers.add t.registers := by
  simp only [State.registers, Registers.add, UInt32.toBitVec_add]

theorem registers_compress (s : State) {m : Nat → Word} {block : List UInt8}
    (h : (words block).map UInt32.toBitVec = (List.range 16).map m) :
    (compress s block).registers = s.registers.compress m := by
  have hpairs : (constants.zip (Sha256.schedule block).toList).map
        (Prod.map UInt32.toBitVec UInt32.toBitVec) =
      (List.range 64).map fun t => (roundConstant t, Standard.schedule m t) := by
    rw [← List.zip_map, toBitVec_constants, scheduled_schedule h, List.zip_map']
  have hrounds : ((constants.zip (Sha256.schedule block).toList).foldl
        (fun t p => round t p.1 p.2) s).registers =
      (List.range 64).foldl (fun v t => v.round (roundConstant t) (Standard.schedule m t))
        s.registers :=
    calc ((constants.zip (Sha256.schedule block).toList).foldl
          (fun t p => round t p.1 p.2) s).registers
        = (constants.zip (Sha256.schedule block).toList).foldl
            (fun v p => v.round p.1.toBitVec p.2.toBitVec) s.registers :=
          (List.foldl_hom State.registers fun t p => (registers_round t p.1 p.2).symm).symm
      _ = ((List.range 64).map fun t => (roundConstant t, Standard.schedule m t)).foldl
            (fun v p => v.round p.1 p.2) s.registers := by
          rw [← hpairs, List.foldl_map]
          rfl
      _ = (List.range 64).foldl (fun v t => v.round (roundConstant t) (Standard.schedule m t))
            s.registers := List.foldl_map
  rw [Registers.compress, ← hrounds, compress]
  exact registers_add s _

theorem word_take {bits : List Bool} {t : Nat} (ht : t < 16) :
    Standard.word (bits.take 512) 0 t = Standard.word bits 0 t := by
  rw [Standard.word, Standard.word, List.drop_take, List.take_take, Nat.min_eq_left (by omega)]

theorem word_succ (bits : List Bool) (i : Nat) :
    Standard.word bits (i + 1) = Standard.word (bits.drop 512) i := by
  funext t
  rw [Standard.word, Standard.word, List.drop_drop,
    show 512 + (512 * i + 32 * t) = 512 * (i + 1) + 32 * t by omega]

theorem hash_of_lt (r : Registers) {bits : List Bool} (h : bits.length < 512) :
    r.hash bits = r := by
  rw [Registers.hash, Nat.div_eq_of_lt h, List.range_zero, List.foldl_nil]

theorem hash_of_le (r : Registers) {bits : List Bool} (h : 512 ≤ bits.length) :
    r.hash bits = (r.compress (Standard.word bits 0)).hash (bits.drop 512) := by
  have hblocks : bits.length / 512 = (bits.drop 512).length / 512 + 1 := by
    rw [List.length_drop]
    omega
  rw [Registers.hash, hblocks, List.range_succ_eq_map, List.foldl_cons, List.foldl_map]
  simp only [Nat.succ_eq_add_one, word_succ]
  rfl

theorem registers_absorb (s : State) (bytes : List UInt8) :
    (absorb s bytes).1.registers = s.registers.hash (ofBytes bytes) := by
  induction s, bytes using absorb.induct with
  | case1 s bytes hshort =>
    have hbits : (ofBytes bytes).length < 512 := by
      rw [length_ofBytes]
      simp only [blockSize] at hshort
      omega
    rw [absorb, if_pos hshort, hash_of_lt _ hbits]
  | case2 s bytes hlong ih =>
    have hblock : 64 ≤ bytes.length := Nat.le_of_not_lt hlong
    have hbits : 512 ≤ (ofBytes bytes).length := by
      rw [length_ofBytes]
      omega
    obtain ⟨htake, hdrop⟩ := ofBytes_parts bytes hblock
    have hwords : (words (bytes.take 64)).map UInt32.toBitVec =
        (List.range 16).map (Standard.word (ofBytes bytes) 0) := by
      rw [toBitVec_words 16 (List.length_take_of_le hblock), ← htake]
      apply List.map_congr_left
      intro t ht
      exact word_take (List.mem_range.mp ht)
    rw [absorb, if_neg hlong, ih, blockSize, registers_compress s hwords, hash_of_le _ hbits,
      ← hdrop]

/-! ## Messages -/

theorem ofBytes_lengthBytes (n : Nat) : ofBytes (lengthBytes n) = binary 64 n := by
  have hbytes : lengthBytes n =
      (List.range 8).reverse.map fun i => UInt8.ofNat (n >>> (8 * i)) := rfl
  simp only [ofBytes, hbytes, List.flatMap_map, binary_ofNat, binary_bytes 8]

theorem fill_eight_mul (size : Nat) : fill (8 * size) = 7 + 8 * ((119 - size % 64) % 64) := by
  rw [fill, Nat.find_eq_iff]
  constructor
  · omega
  · intro k hk
    omega

/-- The first byte of the padding is the one and seven zeros. -/
theorem ofBytes_padding (message : List UInt8) :
    ofBytes (message ++ padding message.length) = padded (ofBytes message) := by
  have hone : binary 8 (0x80 : UInt8).toNat = true :: List.replicate 7 false := by decide
  rw [padded, length_ofBytes, fill_eight_mul, ofBytes_append, padding, ofBytes_append,
    ofBytes_cons, ofBytes_lengthBytes, ofBytes_replicate, ← List.replicate_append_replicate, hone]
  simp only [List.append_assoc, List.cons_append]

theorem ofBytes_wordBytes (x : UInt32) : ofBytes (wordBytes x) = binary 32 x.toNat := by
  have hbytes : wordBytes x =
      (List.range 4).reverse.map fun i => UInt8.ofNat (x.toNat >>> (8 * i)) := rfl
  simp only [ofBytes, hbytes, List.flatMap_map, binary_ofNat, binary_bytes 4]

theorem ofBytes_bytes (s : State) : ofBytes s.bytes = s.registers.bits := by
  simp [State.bytes, ofBytes_append, ofBytes_wordBytes, Registers.bits, State.registers]

/-- The digest of a message is that of the standard. -/
theorem ofBytes_digest (message : List UInt8) :
    ofBytes (digest message) = (start.hash (padded (ofBytes message))).bits := by
  rw [digest, ofBytes_bytes, registers_absorb, ofBytes_padding, registers_initial]

/-- A message whose length in bits fits 64 bits has a digest in the standard, and it is this. -/
theorem digest?_ofBytes {message : List UInt8} (h : message.length < 2 ^ 61) :
    digest? (ofBytes message) = some (ofBytes (digest message)) := by
  have hbits : (ofBytes message).length < 2 ^ 64 := by
    rw [length_ofBytes]
    omega
  rw [digest?, if_pos hbits, ofBytes_digest]

end IdentityDocs.Sha256
