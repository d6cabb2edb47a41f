import IdentityDocs.Fingerprint.Sha256

/-!
# Digests of messages that come in pieces

A hasher takes a message piece by piece. It keeps the state after all whole blocks, the bytes that
do not fill a block yet, and the length of the message so far.
-/

namespace IdentityDocs.Sha256

/-- A digest in the making. -/
structure Hasher where
  state : State
  /-- The bytes that do not fill a block yet. -/
  pending : List UInt8
  /-- The bytes taken so far. -/
  size : Nat

namespace Hasher

/-- The hasher before the first piece. -/
def start : Hasher := ⟨initial, [], 0⟩

/-- Takes the next piece. -/
def update (h : Hasher) (piece : List UInt8) : Hasher :=
  let (state, pending) := absorb h.state (h.pending ++ piece)
  ⟨state, pending, h.size + piece.length⟩

/-- The digest of all pieces taken. -/
def finish (h : Hasher) : List UInt8 :=
  (absorb h.state (h.pending ++ padding h.size)).1.bytes

end Hasher

/-- The digest of a message in pieces. -/
def digestPieces (pieces : List (List UInt8)) : List UInt8 :=
  (pieces.foldl Hasher.update .start).finish

end IdentityDocs.Sha256
