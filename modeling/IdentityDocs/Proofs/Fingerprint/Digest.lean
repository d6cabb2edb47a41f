import IdentityDocs.Fingerprint.File

/-!
# Digests do not depend on the pieces

A file is digested in pieces, and a hasher works whole blocks into its state as soon as they are
there. The digest is nevertheless that of the content as a whole: `fingerprint_eq` gives the
fingerprint of a file as the digest of its bytes. The invariant of a hasher is that it stands where
`absorb` leaves the message that it took so far.
-/

namespace IdentityDocs

namespace Sha256

/-- Bytes that come later are worked in after those that did not fill a block. -/
theorem absorb_append (s : State) (bytes more : List UInt8) :
    absorb s (bytes ++ more) = absorb (absorb s bytes).1 ((absorb s bytes).2 ++ more) := by
  induction s, bytes using absorb.induct with
  | case1 s bytes hshort =>
    have hrest : absorb s bytes = (s, bytes) := by rw [absorb, if_pos hshort]
    rw [hrest]
  | case2 s bytes hlong ih =>
    have hblock : blockSize ≤ bytes.length := Nat.le_of_not_lt hlong
    have hall : absorb s (bytes ++ more) =
        absorb (compress s (bytes.take blockSize)) (bytes.drop blockSize ++ more) := by
      rw [absorb, if_neg (by simp only [List.length_append]; omega),
        List.take_append_of_le_length hblock, List.drop_append_of_le_length hblock]
    have hbytes : absorb s bytes =
        absorb (compress s (bytes.take blockSize)) (bytes.drop blockSize) := by
      rw [absorb, if_neg hlong]
    rw [hall, hbytes]
    exact ih

namespace Hasher

/-- The hasher has taken a message. -/
def Took (h : Hasher) (message : List UInt8) : Prop :=
  (h.state, h.pending) = absorb initial message ∧ h.size = message.length

theorem took_start : start.Took [] := by
  constructor
  · rw [absorb, if_pos (by decide)]
    rfl
  · rfl

theorem Took.update {h : Hasher} {message : List UInt8} (ht : h.Took message)
    (piece : List UInt8) : (h.update piece).Took (message ++ piece) := by
  obtain ⟨hstate, hsize⟩ := ht
  constructor
  · rw [absorb_append, ← hstate]
    rfl
  · simp only [Hasher.update, hsize, List.length_append]

theorem Took.foldl {h : Hasher} {message : List UInt8} (ht : h.Took message)
    (pieces : List (List UInt8)) :
    (pieces.foldl Hasher.update h).Took (message ++ pieces.flatten) := by
  induction pieces generalizing h message with
  | nil => simpa using ht
  | cons piece pieces ih =>
    rw [List.foldl_cons, List.flatten_cons, ← List.append_assoc]
    exact ih (ht.update piece)

theorem Took.finish {h : Hasher} {message : List UInt8} (ht : h.Took message) :
    h.finish = digest message := by
  obtain ⟨hstate, hsize⟩ := ht
  rw [digest, absorb_append, ← hstate, ← hsize]
  rfl

end Hasher

/-- The digest of a message is the same in whatever pieces it comes. -/
theorem digestPieces_eq (pieces : List (List UInt8)) :
    digestPieces pieces = digest pieces.flatten :=
  (Hasher.took_start.foldl pieces).finish

end Sha256

theorem flatten_pieces (bytes : List UInt8) : (pieces bytes).flatten = bytes := by
  induction bytes using pieces.induct with
  | case1 => rw [pieces, if_pos rfl, List.flatten_nil]
  | case2 bytes hbytes ih =>
    rw [pieces, if_neg hbytes, List.flatten_cons, ih, List.take_append_drop]

/-- The fingerprint of a file is the digest of its content in hexadecimal; a file that cannot be
read has none. -/
theorem fingerprint_eq (fs : FileSystem) (p : Path) :
    fingerprint fs p = (fs.read p).map fun bytes => hexBytes (Sha256.digest bytes) := by
  unfold fingerprint
  cases fs.read p with
  | error e => rfl
  | ok bytes => simp only [Sha256.digestPieces_eq, flatten_pieces, Except.map]

end IdentityDocs
