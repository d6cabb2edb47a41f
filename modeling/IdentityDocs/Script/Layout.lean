import IdentityDocs.Script.Number

/-!
# Layouts

A value is laid out in a column: at least so wide, with a sign or without, and with blanks or zeros
in front of it or blanks behind it. Doubles are rounded exactly, half to even.
-/

namespace IdentityDocs.Script

/-- How a value is laid out. -/
structure Layout where
  left : Bool := false
  zeros : Bool := false
  plus : Bool := false
  blank : Bool := false
  /-- Whether the base of a number, or its point, is always shown. -/
  alternate : Bool := false
  width : Nat := 0
  /-- The greatest number of characters, or the least number of digits. -/
  precision : Option Nat := none

namespace Layout

/-- A text in its column. -/
def place (layout : Layout) (cs : Bytes) : Bytes :=
  let missing := List.replicate (layout.width - cs.length) ' '
  if layout.left then cs ++ missing else missing ++ cs

/-- A text, cut to at most as many characters as the layout asks for, in its column. -/
def text (layout : Layout) (cs : Bytes) : Bytes :=
  layout.place (layout.precision.elim cs cs.take)

/-- A number in its column; zeros stand between what comes in front of it and its digits. -/
def number (layout : Layout) (zeros : Bool) (front digits : Bytes) : Bytes :=
  if zeros && !layout.left then
    front ++ List.replicate (layout.width - (front.length + digits.length)) '0' ++ digits
  else layout.place (front ++ digits)

/-- The sign of a number. -/
def sign (layout : Layout) (negative : Bool) : Bytes :=
  if negative then ['-'] else if layout.plus then ['+'] else if layout.blank then [' '] else []

/-- Digits, at least as many as the layout asks for. -/
def padded (layout : Layout) (digits : Bytes) : Bytes :=
  match layout.precision with
  | some n => List.replicate (n - digits.length) '0' ++ digits
  | none => digits

/-- The digits of a number; zero has none if none are asked for. -/
def digitsOf (layout : Layout) (base n : Nat) : Bytes :=
  if n = 0 ∧ layout.precision = some 0 then [] else layout.padded (Nat.toDigits base n)

/-- A whole number in decimal. -/
def integer (layout : Layout) (n : Int) : Bytes :=
  layout.number (layout.zeros && layout.precision.isNone) (layout.sign (decide (n < 0)))
    (layout.digitsOf 10 n.natAbs)

/-- A number in another base. -/
def unsigned (layout : Layout) (base : Nat) (capitals : Bool) (n : Nat) : Bytes :=
  let digits := layout.digitsOf base n
  let digits := if base = 8 ∧ layout.alternate ∧ digits.head? ≠ some '0' then '0' :: digits else digits
  let front : Bytes := if base = 16 ∧ layout.alternate ∧ n ≠ 0 then ['0', 'x'] else []
  let cs := layout.number (layout.zeros && layout.precision.isNone) front digits
  if capitals then cs.map Char.toUpper else cs

/-! ## Doubles -/

/-- The nearest whole number to a fraction, half to even. -/
def roundedDivision (n d : Nat) : Nat :=
  let q := n / d
  let twice := 2 * (n % d)
  if d < twice ∨ (twice = d ∧ q % 2 = 1) then q + 1 else q

/-- A double that is finite and not below zero, as a fraction. -/
def fraction (x : Float) : Nat × Nat :=
  let bits := x.toBits.toNat
  let exponent := (bits >>> 52) % 2048
  let mantissa := bits % (1 <<< 52)
  let (m, e) : Nat × Int :=
    if exponent = 0 then (mantissa, -1074)
    else (mantissa + (1 <<< 52), (exponent : Int) - 1075)
  if e < 0 then (m, 1 <<< e.natAbs) else (m <<< e.natAbs, 1)

/-- A power of ten as a fraction. -/
def powerOfTen (e : Int) : Nat × Nat :=
  if e < 0 then (1, Nat.pow 10 e.natAbs) else (Nat.pow 10 e.natAbs, 1)

/-- A fraction times a power of ten, rounded. -/
def scaledUp (n d : Nat) (e : Int) : Nat :=
  let (a, b) := powerOfTen e
  roundedDivision (n * a) (d * b)

/-- The decimal exponent of a fraction above zero. -/
def exponentOf (n d : Nat) : Int :=
  let guess : Int := ((Nat.toDigits 10 n).length : Int) - (Nat.toDigits 10 d).length
  let (a, b) := powerOfTen guess
  if n * b < d * a then guess - 1 else guess

/-- A fraction with so many digits behind the point. -/
def fixed (layout : Layout) (places n d : Nat) : Bytes :=
  let digits := Nat.toDigits 10 (scaledUp n d places)
  let digits := List.replicate (places + 1 - digits.length) '0' ++ digits
  let whole := digits.take (digits.length - places)
  if places = 0 then if layout.alternate then whole ++ ['.'] else whole
  else whole ++ '.' :: digits.drop (digits.length - places)

/-- The digits of a fraction with one in front of the point, and the exponent. -/
def scientificDigits (places n d : Nat) : Bytes × Int :=
  if n = 0 then (List.replicate (places + 1) '0', 0)
  else
    let e := exponentOf n d
    let digits := Nat.toDigits 10 (scaledUp n d (places - e))
    if places + 1 < digits.length then (digits.take (places + 1), e + 1) else (digits, e)

/-- An exponent of at least two digits. -/
def exponentText (mark : Char) (e : Int) : Bytes :=
  let digits := decimal e.natAbs
  mark :: (if e < 0 then '-' else '+') :: (List.replicate (2 - digits.length) '0' ++ digits)

/-- A point behind the first digit. -/
def pointed (layout : Layout) (digits : Bytes) : Bytes :=
  if digits.length ≤ 1 then if layout.alternate then digits ++ ['.'] else digits
  else digits.take 1 ++ '.' :: digits.drop 1

/-- A fraction with one digit in front of the point and an exponent. -/
def scientific (layout : Layout) (places n d : Nat) : Bytes :=
  let (digits, e) := scientificDigits places n d
  layout.pointed digits ++ exponentText 'e' e

/-- Digits without the zeros behind the point. -/
def trimmed (layout : Layout) (cs : Bytes) : Bytes :=
  if layout.alternate || !cs.contains '.' then cs
  else
    let cs := cs.reverse.dropWhile (· == '0')
    (if cs.head? = some '.' then cs.drop 1 else cs).reverse

/-- A fraction in the shorter of both forms. -/
def general (layout : Layout) (n d : Nat) : Bytes :=
  let places := max (layout.precision.getD 6) 1
  let (digits, e) := scientificDigits (places - 1) n d
  if e < -4 ∨ (places : Int) ≤ e then
    layout.trimmed (layout.pointed digits) ++ exponentText 'e' e
  else layout.trimmed (layout.fixed ((places : Int) - 1 - e).toNat n d)

/-- A double in hexadecimal. -/
def hexadecimal (layout : Layout) (x : Float) : Bytes :=
  let bits := x.toBits.toNat
  let exponent := (bits >>> 52) % 2048
  let mantissa := bits % (1 <<< 52)
  let (lead, e) : Nat × Int :=
    if exponent = 0 then if mantissa = 0 then (0, 0) else (0, -1022)
    else (1, (exponent : Int) - 1023)
  let all := (lead <<< 52) + mantissa
  let (all, places) : Nat × Nat := match layout.precision with
    | some p => if p < 13 then (roundedDivision all (1 <<< (4 * (13 - p))), p) else (all <<< (4 * (p - 13)), p)
    | none => (all, 13)
  let digits := Nat.toDigits 16 (all % (1 <<< (4 * places)))
  let digits := if places = 0 then [] else List.replicate (places - digits.length) '0' ++ digits
  let digits := if layout.precision.isNone then (digits.reverse.dropWhile (· == '0')).reverse else digits
  let first := decimal (all >>> (4 * places))
  first ++ (if digits = [] ∧ !layout.alternate then [] else '.' :: digits) ++
    'p' :: (if e < 0 then '-' else '+') :: decimal e.natAbs

/-- A double, in the form that a letter asks for. -/
def double (layout : Layout) (form : Char) (x : Float) : Bytes :=
  let negative := x.toBits.toNat >>> 63 = 1
  let sign := layout.sign negative
  let cs :=
    if x.isNaN then layout.place (sign ++ ['n', 'a', 'n'])
    else if x.isInf then layout.place (sign ++ ['i', 'n', 'f'])
    else
      let (n, d) := fraction x.abs
      match form.toLower with
      | 'e' => layout.number layout.zeros sign (layout.scientific (layout.precision.getD 6) n d)
      | 'f' => layout.number layout.zeros sign (layout.fixed (layout.precision.getD 6) n d)
      | 'g' => layout.number layout.zeros sign (layout.general n d)
      | _ => layout.number layout.zeros (sign ++ ['0', 'x']) (layout.hexadecimal x.abs)
  if form.isUpper then cs.map Char.toUpper else cs

end Layout

end IdentityDocs.Script
