import IdentityDocs.Script.Bytes

/-!
# Numbers in arguments

A number is read from the beginning of a text, and what follows it is left over. White space and a
sign may stand in front of it. Whole numbers have 64 bits; one that is too large becomes the largest
there is.
-/

namespace IdentityDocs.Script

/-- The least whole number. -/
def leastInteger : Int := -9223372036854775808

/-- The greatest whole number. -/
def greatestInteger : Int := 9223372036854775807

/-- A whole number brought between the least and the greatest. -/
def saturated (n : Int) : Int := max leastInteger (min greatestInteger n)

/-- The number in the range of 64 bits that differs by a multiple of their count. -/
def wrapped (n : Int) : Int := (Int64.ofInt n).toInt

/-- What white space and a sign leave: whether the number is below zero, and the rest. -/
def skipSign (cs : Bytes) : Bool × Bytes :=
  match cs.dropWhile isSpace with
  | '-' :: rest => (true, rest)
  | '+' :: rest => (false, rest)
  | rest => (false, rest)

/-- The whole number without bounds that a text begins with, and the rest. If the base is not given,
it shows in the first digits: a zero for octal, and an `x` behind it for hexadecimal. -/
def scanInteger (base : Option Nat) (cs : Bytes) : Option (Int × Bytes) :=
  let (negative, rest) := skipSign cs
  let (base, body) : Nat × Bytes := match base, rest with
    | some base, rest => (base, rest)
    | none, '0' :: x :: c :: more =>
      if (x = 'x' ∨ x = 'X') ∧ isHex c then (16, c :: more) else (8, rest)
    | none, '0' :: _ => (8, rest)
    | none, rest => (10, rest)
  let digits := body.takeWhile fun c => c.isAlphanum && decide (digitValue c < base)
  if digits = [] then none
  else
    let n : Int := valueOf base digits
    some (if negative then -n else n, body.drop digits.length)

/-- The whole number that a text is, up to white space around it. -/
def integer? (base : Option Nat) (cs : Bytes) : Option Int :=
  match scanInteger base cs with
  | some (n, rest) => if rest.all isSpace then some n else none
  | none => none

/-- A whole number in decimal that is not too large, with white space around it. -/
def decimalInteger? (cs : Bytes) : Option Int :=
  (integer? (some 10) cs).filter fun n => leastInteger ≤ n ∧ n ≤ greatestInteger

/-! ## Numbers with fractions -/

/-- The digits of a number with a fraction, how many of them follow the point, and the rest. -/
def scanDigits (isDigit : Char → Bool) (cs : Bytes) : Bytes × Nat × Bytes :=
  let whole := cs.takeWhile isDigit
  match cs.drop whole.length with
  | '.' :: rest =>
    let fraction := rest.takeWhile isDigit
    if whole = [] ∧ fraction = [] then ([], 0, cs)
    else (whole ++ fraction, fraction.length, rest.drop fraction.length)
  | rest => (whole, 0, rest)

/-- The exponent behind one of two letters, and the rest. -/
def scanExponent (lower upper : Char) (cs : Bytes) : Int × Bytes :=
  match cs with
  | c :: rest =>
    if c = lower ∨ c = upper then
      let (negative, body) : Bool × Bytes := match rest with
        | '-' :: body => (true, body)
        | '+' :: body => (false, body)
        | body => (false, body)
      let digits := body.takeWhile Char.isDigit
      if digits = [] then (0, cs)
      else
        let n : Int := min (valueOf 10 digits) 99999
        (if negative then -n else n, body.drop digits.length)
    else (0, cs)
  | [] => (0, [])

/-- The double nearest to a number times a power of two. -/
def scaleByTwo (n : Nat) (exponent : Int) : Float :=
  if exponent < 0 then
    let extra := Nat.log2 n - 63
    let top := n >>> extra
    let top := if top <<< extra = n ∨ top % 2 = 1 then top else top + 1
    Float.scaleB (Float.ofNat top) (exponent + extra)
  else Float.ofNat (n <<< min exponent.natAbs 2000)

/-- A word at the beginning of a text, in small or capital letters, and the rest. -/
def skipWord? (word : String) (cs : Bytes) : Option Bytes :=
  let start := cs.take word.length
  if start.map Char.toLower = word.toList then some (cs.drop word.length) else none

/-- The double that a text begins with, and the rest. -/
def scanDouble (cs : Bytes) : Option (Float × Bytes) :=
  let (negative, rest) := skipSign cs
  let withSign (x : Float) : Float := if negative then -x else x
  match skipWord? "infinity" rest, skipWord? "inf" rest, skipWord? "nan" rest with
  | some rest, _, _ => some (withSign (1.0 / 0.0), rest)
  | none, some rest, _ => some (withSign (1.0 / 0.0), rest)
  | none, none, some rest => some (withSign (0.0 / 0.0), rest)
  | none, none, none =>
    let hex : Option Bytes := match rest with
      | '0' :: x :: body => if x = 'x' ∨ x = 'X' then some body else none
      | _ => none
    match hex.map (scanDigits isHex) with
    | some (d :: ds, places, after) =>
      let (exponent, after) := scanExponent 'p' 'P' after
      some (withSign (scaleByTwo (valueOf 16 (d :: ds)) (exponent - 4 * (places : Int))), after)
    | _ => match scanDigits Char.isDigit rest with
      | ([], _, _) => none
      | (digits, places, after) =>
        let (exponent, after) := scanExponent 'e' 'E' after
        let exponent := exponent - (places : Int)
        some (withSign (Float.ofScientific (valueOf 10 digits) (exponent < 0) exponent.natAbs), after)

end IdentityDocs.Script
