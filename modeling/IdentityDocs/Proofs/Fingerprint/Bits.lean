import Mathlib.Tactic.Ring

/-!
# Bits of numbers and bytes

Rows of bits, the most significant first: the bits of a number, the number that bits stand for, the
bits of bytes one after the other, and their hexadecimal digits.
-/

namespace IdentityDocs.Bits

/-- The last `width` bits of a number. -/
def binary (width n : Nat) : List Bool :=
  (List.range width).map fun i => n.testBit (width - 1 - i)

/-- The number that bits stand for. -/
def value (bits : List Bool) : Nat :=
  bits.foldl (fun n b => 2 * n + b.toNat) 0

/-- The bits of a row of bytes. -/
def ofBytes (bytes : List UInt8) : List Bool :=
  bytes.flatMap fun b => binary 8 b.toNat

/-- The hexadecimal digits of bits, taken four by four. -/
def hexDigits : List Bool → List Char
  | a :: b :: c :: d :: rest => (value [a, b, c, d]).digitChar :: hexDigits rest
  | _ => []

/-! ## Numbers -/

theorem length_binary (width n : Nat) : (binary width n).length = width := by
  simp [binary]

/-- The last bit stands apart. -/
theorem binary_succ (width n : Nat) :
    binary (width + 1) n = binary width (n / 2) ++ [n.testBit 0] := by
  have hearlier : ∀ i ∈ List.range width,
      n.testBit (width + 1 - 1 - i) = (n / 2).testBit (width - 1 - i) := by
    intro i hi
    rw [List.mem_range] at hi
    rw [Nat.testBit_div_two]
    congr 1
    omega
  simp only [binary, List.range_succ, List.map_append, List.map_cons, List.map_nil]
  rw [List.map_congr_left hearlier, Nat.add_sub_cancel, Nat.sub_self]

theorem binary_add (m k n : Nat) : binary (m + k) n = binary m (n >>> k) ++ binary k n := by
  induction k generalizing n with
  | zero => simp [binary]
  | succ k ih =>
    rw [← Nat.add_assoc, binary_succ, ih, binary_succ, List.append_assoc, Nat.add_comm k 1,
      Nat.shiftRight_add, Nat.shiftRight_one]

theorem binary_mod {m k : Nat} (h : m ≤ k) (n : Nat) : binary m (n % 2 ^ k) = binary m n := by
  rw [binary, binary]
  apply List.map_congr_left
  intro i hi
  rw [List.mem_range] at hi
  rw [Nat.testBit_mod_two_pow, decide_eq_true (by omega), Bool.true_and]

theorem binary_ofNat (n : Nat) : binary 8 (UInt8.ofNat n).toNat = binary 8 n := by
  rw [UInt8.toNat_ofNat', binary_mod le_rfl]

/-- The bits of a number of `k` bytes are those of its bytes. -/
theorem binary_bytes (k n : Nat) :
    binary (8 * k) n = (List.range k).reverse.flatMap fun i => binary 8 (n >>> (8 * i)) := by
  induction k with
  | zero => rfl
  | succ k ih =>
    rw [show 8 * (k + 1) = 8 + 8 * k by omega, binary_add, ih, List.range_succ,
      List.reverse_append, List.reverse_singleton, List.singleton_append, List.flatMap_cons]

theorem value_foldl (n : Nat) (bits : List Bool) :
    bits.foldl (fun n b => 2 * n + b.toNat) n = n * 2 ^ bits.length + value bits := by
  induction bits generalizing n with
  | nil => simp [value]
  | cons b bits ih =>
    rw [value, List.foldl_cons, List.foldl_cons, ih, ih (2 * 0 + b.toNat), List.length_cons,
      Nat.pow_succ]
    ring

theorem value_append (bits more : List Bool) :
    value (bits ++ more) = value bits * 2 ^ more.length + value more := by
  rw [value, List.foldl_append, value_foldl]
  rfl

theorem value_binary (width n : Nat) : value (binary width n) = n % 2 ^ width := by
  induction width generalizing n with
  | zero => simp [binary, value, Nat.mod_one]
  | succ width ih =>
    have hlast : value [n.testBit 0] = n % 2 := by
      rw [Nat.testBit_zero]
      rcases Nat.mod_two_eq_zero_or_one n with h | h <;> simp [value, h]
    have hpow : 2 ^ (width + 1) = 2 * 2 ^ width := Nat.pow_succ'
    rw [binary_succ, value_append, ih, hlast, List.length_singleton, hpow, Nat.mod_mul]
    ring

/-! ## Bytes -/

theorem ofBytes_cons (b : UInt8) (bytes : List UInt8) :
    ofBytes (b :: bytes) = binary 8 b.toNat ++ ofBytes bytes := rfl

theorem ofBytes_append (bytes more : List UInt8) :
    ofBytes (bytes ++ more) = ofBytes bytes ++ ofBytes more := List.flatMap_append

theorem length_ofBytes (bytes : List UInt8) : (ofBytes bytes).length = 8 * bytes.length := by
  induction bytes with
  | nil => rfl
  | cons b bytes ih =>
    rw [ofBytes_cons, List.length_append, length_binary, ih, List.length_cons]
    omega

/-- Bits can be parted wherever bytes can. -/
theorem ofBytes_parts (bytes : List UInt8) {k : Nat} (hk : k ≤ bytes.length) :
    (ofBytes bytes).take (8 * k) = ofBytes (bytes.take k) ∧
      (ofBytes bytes).drop (8 * k) = ofBytes (bytes.drop k) := by
  have hwhole : ofBytes bytes = ofBytes (bytes.take k) ++ ofBytes (bytes.drop k) := by
    rw [← ofBytes_append, List.take_append_drop]
  have hfront : (ofBytes (bytes.take k)).length = 8 * k := by
    rw [length_ofBytes, List.length_take, Nat.min_eq_left hk]
  rw [hwhole]
  exact ⟨List.take_left' hfront, List.drop_left' hfront⟩

theorem ofBytes_replicate (n : Nat) :
    ofBytes (List.replicate n 0) = List.replicate (8 * n) false := by
  induction n with
  | zero => rfl
  | succ n ih =>
    rw [List.replicate_succ, ofBytes_cons, ih, Nat.mul_succ, Nat.add_comm,
      ← List.replicate_append_replicate]
    rfl

/-! ## Digits -/

theorem hexDigits_append {bits : List Bool} (h : bits.length = 4) (more : List Bool) :
    hexDigits (bits ++ more) = (value bits).digitChar :: hexDigits more := by
  match bits, h with
  | [_, _, _, _], _ => rfl

theorem length_hexDigits (bits : List Bool) : (hexDigits bits).length = bits.length / 4 := by
  induction bits using hexDigits.induct with
  | case1 a b c d rest ih => simp only [hexDigits, List.length_cons, ih]; omega
  | case2 bits hshort =>
    match bits with
    | [] | [_] | [_, _] | [_, _, _] => simp [hexDigits]
    | a :: b :: c :: d :: rest => exact absurd rfl (hshort a b c d rest)

/-- All digits are lower-case hexadecimal ones. -/
theorem mem_hexDigits {bits : List Bool} {c : Char} (h : c ∈ hexDigits bits) :
    c ∈ "0123456789abcdef".toList := by
  have hdigit : ∀ a b c d : Bool, (value [a, b, c, d]).digitChar ∈ "0123456789abcdef".toList := by
    decide
  induction bits using hexDigits.induct with
  | case1 a b c' d rest ih =>
    rcases List.mem_cons.mp h with rfl | hrest
    · exact hdigit a b c' d
    · exact ih hrest
  | case2 bits hshort => simp [hexDigits] at h

end IdentityDocs.Bits
