import Mathlib.Data.Nat.Find
import Mathlib.Data.Nat.NthRoot.Defs
import Mathlib.Data.Nat.Prime.Basic
import IdentityDocs.Proofs.Fingerprint.Bits

/-!
# SHA-256 in the words of its standard

The standard defines the digest on bits: a message is any row of bits, is padded to a multiple of
512, and is read as words of 32 bits. The constants are the first bits of the fractions of square
and cube roots of primes, and the schedule of a block is a recursion. Nothing here refers to
`IdentityDocs.Sha256.digest`, which works on bytes, has its constants in a table and fills the
schedule from the left; that both agree is proved in `IdentityDocs.Proofs.Fingerprint.Conformity`.
-/

namespace IdentityDocs.Sha256.Standard

open Bits

abbrev Word := BitVec 32

def choose (x y z : Word) : Word := (x &&& y) ^^^ (~~~x &&& z)

def majority (x y z : Word) : Word := (x &&& y) ^^^ (x &&& z) ^^^ (y &&& z)

def bigSigma0 (x : Word) : Word := x.rotateRight 2 ^^^ x.rotateRight 13 ^^^ x.rotateRight 22

def bigSigma1 (x : Word) : Word := x.rotateRight 6 ^^^ x.rotateRight 11 ^^^ x.rotateRight 25

def sigma0 (x : Word) : Word := x.rotateRight 7 ^^^ x.rotateRight 18 ^^^ (x >>> 3)

def sigma1 (x : Word) : Word := x.rotateRight 17 ^^^ x.rotateRight 19 ^^^ (x >>> 10)

/-! ## Constants -/

/-- The first 64 primes. -/
def primes : List Nat := (List.range 312).filter (·.Prime)

/-- The first 32 bits of the fraction of the `n`th root of a number. -/
def rootFraction (n p : Nat) : Word := BitVec.ofNat 32 (Nat.nthRoot n (p * 2 ^ (32 * n)))

/-- The constant of a round. -/
def roundConstant (t : Nat) : Word := rootFraction 3 (primes.getD t 0)

/-! ## Padding -/

theorem exists_fill (size : Nat) : ∃ k, (size + 1 + k) % 512 = 448 :=
  ⟨(959 - size % 512) % 512, by omega⟩

/-- The fewest zeros that leave room for 64 bits before the next multiple of 512. -/
def fill (size : Nat) : Nat := Nat.find (exists_fill size)

/-- The message, a one, zeros, and the length of the message. -/
def padded (message : List Bool) : List Bool :=
  message ++ true :: List.replicate (fill message.length) false ++ binary 64 message.length

/-- A padded message is made of whole blocks. -/
theorem length_padded_mod (message : List Bool) : (padded message).length % 512 = 0 := by
  have hfill : (message.length + 1 + fill message.length) % 512 = 448 :=
    Nat.find_spec (exists_fill message.length)
  simp only [padded, List.length_append, List.length_cons, List.length_replicate, length_binary]
  omega

/-! ## The digest -/

/-- The word `t` of the block `i`. -/
def word (bits : List Bool) (i t : Nat) : Word :=
  BitVec.ofNat 32 (value ((bits.drop (512 * i + 32 * t)).take 32))

/-- The schedule of a block with the words `m`. -/
def schedule (m : Nat → Word) (t : Nat) : Word :=
  if t < 16 then m t
  else sigma1 (schedule m (t - 2)) + schedule m (t - 7) + sigma0 (schedule m (t - 15)) +
    schedule m (t - 16)
termination_by t
decreasing_by all_goals omega

/-- Eight words: the working variables of a block, or the hash value so far. -/
structure Registers where
  a : Word
  b : Word
  c : Word
  d : Word
  e : Word
  f : Word
  g : Word
  h : Word
  deriving DecidableEq

/-- The hash value before the first block. -/
def start : Registers :=
  let root (t : Nat) := rootFraction 2 (primes.getD t 0)
  ⟨root 0, root 1, root 2, root 3, root 4, root 5, root 6, root 7⟩

namespace Registers

/-- One round, with its constant and its word of the schedule. -/
def round (r : Registers) (k w : Word) : Registers :=
  let t1 := r.h + bigSigma1 r.e + choose r.e r.f r.g + k + w
  let t2 := bigSigma0 r.a + majority r.a r.b r.c
  ⟨t1 + t2, r.a, r.b, r.c, r.d + t1, r.e, r.f, r.g⟩

def add (r s : Registers) : Registers :=
  ⟨r.a + s.a, r.b + s.b, r.c + s.c, r.d + s.d, r.e + s.e, r.f + s.f, r.g + s.g, r.h + s.h⟩

/-- The hash value after a block with the words `m`. -/
def compress (r : Registers) (m : Nat → Word) : Registers :=
  r.add ((List.range 64).foldl (fun v t => v.round (roundConstant t) (schedule m t)) r)

/-- The hash value after all blocks. -/
def hash (r : Registers) (bits : List Bool) : Registers :=
  (List.range (bits.length / 512)).foldl (fun r i => r.compress (word bits i)) r

def bits (r : Registers) : List Bool :=
  [r.a, r.b, r.c, r.d, r.e, r.f, r.g, r.h].flatMap fun x => binary 32 x.toNat

theorem length_bits (r : Registers) : r.bits.length = 256 := by
  simp [bits, length_binary]

end Registers

/-- The digest of a message. There is one if the length fits 64 bits. -/
def digest? (message : List Bool) : Option (List Bool) :=
  if message.length < 2 ^ 64 then some (start.hash (padded message)).bits else none

theorem length_of_digest? {message digest : List Bool} (h : digest? message = some digest) :
    digest.length = 256 := by
  unfold digest? at h
  split at h
  · cases h
    exact Registers.length_bits _
  · cases h

end IdentityDocs.Sha256.Standard
