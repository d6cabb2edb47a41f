import IdentityDocs.Proofs.Fingerprint.Conformity
import IdentityDocs.Proofs.Fingerprint.Digest

/-!
# Fingerprints of streams

A file is read until a read answers with no bytes, and how many bytes a read answers with is up to
the operating system. `FileReads` are all the ways in which the reads of a file can go, and
`Hasher.takeAll` is the loop over their answers. Whatever the reads, the loop ends with a hasher
that took the content (`FileReads.took`), so the digits are those of the standard's digest of the
whole content.
-/

namespace IdentityDocs

open Bits

/-- Takes what reads answer with, up to the first that answers with no bytes. -/
def Sha256.Hasher.takeAll (h : Hasher) : List (List UInt8) → Hasher
  | [] => h
  | [] :: _ => h
  | piece :: answers => (h.update piece).takeAll answers

theorem Sha256.Hasher.takeAll_append (h : Hasher) {pieces : List (List UInt8)}
    (hpieces : ∀ piece ∈ pieces, 0 < piece.length) (answers : List (List UInt8)) :
    h.takeAll (pieces ++ answers) = (pieces.foldl update h).takeAll answers := by
  induction pieces generalizing h with
  | nil => rfl
  | cons piece pieces ih =>
    obtain ⟨hpiece, hrest⟩ := List.forall_mem_cons.mp hpieces
    cases piece with
    | nil => cases hpiece
    | cons b piece => exact ih (h.update (b :: piece)) hrest

/-- The reads of a file up to its end: what they answer with is not empty, fits the buffer, and is
the content from its beginning to its end. -/
structure FileReads (content : List UInt8) where
  pieces : List (List UInt8)
  flatten_pieces : pieces.flatten = content
  length_pos : ∀ piece ∈ pieces, 0 < piece.length
  length_le : ∀ piece ∈ pieces, piece.length ≤ pieceSize

namespace FileReads

variable {content : List UInt8}

/-- The answers of all reads; the last read finds the end of the file. -/
def answers (reads : FileReads content) : List (List UInt8) := reads.pieces ++ [[]]

/-- The fingerprint of a file that is read so. -/
def fingerprint (reads : FileReads content) : String :=
  hexBytes (Sha256.Hasher.start.takeAll reads.answers).finish

/-- The hasher stands at the end of the content, wherever the reads parted it. -/
theorem took (reads : FileReads content) :
    (Sha256.Hasher.start.takeAll reads.answers).Took content := by
  have hpieces := Sha256.Hasher.took_start.foldl reads.pieces
  rw [reads.flatten_pieces, List.nil_append] at hpieces
  rw [answers, Sha256.Hasher.takeAll_append _ reads.length_pos]
  exact hpieces

theorem fingerprint_eq (reads : FileReads content) :
    reads.fingerprint = hexBytes (Sha256.digest content) := by
  rw [fingerprint, reads.took.finish]

end FileReads

theorem length_of_mem_pieces {bytes piece : List UInt8} (h : piece ∈ pieces bytes) :
    0 < piece.length ∧ piece.length ≤ pieceSize := by
  induction bytes using pieces.induct with
  | case1 => simp [pieces] at h
  | case2 bytes hbytes ih =>
    rw [pieces, if_neg hbytes, List.mem_cons] at h
    rcases h with rfl | hrest
    · have hpos := List.length_pos_iff.mpr hbytes
      rw [List.length_take, pieceSize]
      omega
    · exact ih hrest

/-- Reads that fill the buffer as long as there are bytes. -/
def FileReads.full (content : List UInt8) : FileReads content where
  pieces := IdentityDocs.pieces content
  flatten_pieces := IdentityDocs.flatten_pieces content
  length_pos _ h := (length_of_mem_pieces h).1
  length_le _ h := (length_of_mem_pieces h).2

/-- The fingerprint of a file is that of reads that fill the buffer. -/
theorem fingerprint_eq_full {fs : FileSystem} {p : Path} {content : List UInt8}
    (h : fs.read p = .ok content) : fingerprint fs p = .ok (FileReads.full content).fingerprint := by
  rw [fingerprint_eq, h, FileReads.fingerprint_eq]
  rfl

theorem hexBytes_eq (bytes : List UInt8) :
    hexBytes bytes = String.ofList (hexDigits (ofBytes bytes)) := by
  rw [hexBytes]
  congr 1
  induction bytes with
  | nil => rfl
  | cons b bytes ih =>
    have hb := b.toNat_lt
    have hhigh : value (binary 4 (b.toNat >>> 4)) = b.toNat / 16 := by
      rw [value_binary, Nat.shiftRight_eq_div_pow]
      omega
    have hlow : value (binary 4 b.toNat) = b.toNat % 16 := value_binary 4 b.toNat
    rw [List.flatMap_cons, ih, ofBytes_cons, binary_add 4 4, List.append_assoc,
      hexDigits_append (length_binary 4 _), hexDigits_append (length_binary 4 _), hhigh, hlow]
    rfl

/-- The fingerprint of a file is 64 lower-case hexadecimal digits: the digest that the standard
gives the content as a whole. Reads in any other pieces give it too. -/
theorem fingerprint_of_reads {fs : FileSystem} {p : Path} {content : List UInt8}
    (hread : fs.read p = .ok content) (hsize : content.length < 2 ^ 61) :
    ∃ digest, Sha256.Standard.digest? (ofBytes content) = some digest ∧
      (hexDigits digest).length = 64 ∧
      (∀ c ∈ hexDigits digest, c ∈ "0123456789abcdef".toList) ∧
      fingerprint fs p = .ok (String.ofList (hexDigits digest)) ∧
      ∀ reads : FileReads content, reads.fingerprint = String.ofList (hexDigits digest) := by
  have hdigest := Sha256.digest?_ofBytes hsize
  have hreads (reads : FileReads content) : reads.fingerprint =
      String.ofList (hexDigits (ofBytes (Sha256.digest content))) := by
    rw [reads.fingerprint_eq, hexBytes_eq]
  refine ⟨ofBytes (Sha256.digest content), hdigest, ?_, fun c hc => mem_hexDigits hc, ?_, hreads⟩
  · rw [length_hexDigits, Sha256.Standard.length_of_digest? hdigest]
  · rw [fingerprint_eq_full hread, hreads]

/-- A file of three bytes. -/
def cardFiles : FileSystem := ⟨[([Text.encode "card.jpg"], .file [97, 98, 99] .plain)], []⟩

/-- A read of one byte before a read of two. -/
def cardReads : FileReads [97, 98, 99] :=
  ⟨[[97], [98, 99]], by decide, by decide, by decide⟩

theorem fingerprint_of_reads_card :
    cardFiles.read (.ofText "card.jpg") = .ok [97, 98, 99] ∧
    (∃ digest, Sha256.Standard.digest? (ofBytes [97, 98, 99]) = some digest ∧
      String.ofList (hexDigits digest) =
        "ba7816bf8f01cfea414140de5dae2223b00361a396177a9cb410ff61f20015ad") ∧
    cardReads.fingerprint =
      "ba7816bf8f01cfea414140de5dae2223b00361a396177a9cb410ff61f20015ad" := by
  have hread : cardFiles.read (.ofText "card.jpg") = .ok [97, 98, 99] := by decide +kernel
  obtain ⟨digest, hdigest, -, -, hfile, hreads⟩ := fingerprint_of_reads hread (by decide)
  have hvalue : fingerprint cardFiles (.ofText "card.jpg") =
      .ok "ba7816bf8f01cfea414140de5dae2223b00361a396177a9cb410ff61f20015ad" := by decide +kernel
  have htext : String.ofList (hexDigits digest) =
      "ba7816bf8f01cfea414140de5dae2223b00361a396177a9cb410ff61f20015ad" :=
    Except.ok.inj (hfile.symm.trans hvalue)
  exact ⟨hread, ⟨digest, hdigest, htext⟩, (hreads cardReads).trans htext⟩

end IdentityDocs
