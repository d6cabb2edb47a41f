import IdentityDocs.Script.Variable

/-!
# Expressions

Whole numbers of 64 bits, variables and assignments, joined by operators. An operator of a lower
rank binds tighter. What does not count, such as the branch of a choice that is not taken, is read
but not carried out.
-/

namespace IdentityDocs.Script

/-- The operators between two numbers. -/
inductive Operator
  | times | divided | remainder | plus | minus | shiftLeft | shiftRight
  | less | lessEqual | greater | greaterEqual | equal | notEqual
  | bitAnd | bitXor | bitOr
  deriving DecidableEq

/-- What an expression is cut into. -/
inductive Term
  | ending
  | number (n : Int)
  | variable (name : Bytes)
  | opening | closing | question | colon | bothHold | oneHolds | not | bitNot
  | operator (o : Operator)
  /-- An assignment, after an operator if there is one. -/
  | assign (o : Option Operator)
  | bad
  deriving DecidableEq

/-- The spellings of terms; longer ones come first. -/
def termSpellings : List (String × Term) :=
  [("<<=", .assign (some .shiftLeft)), (">>=", .assign (some .shiftRight)),
   ("<<", .operator .shiftLeft), (">>", .operator .shiftRight), ("<=", .operator .lessEqual),
   (">=", .operator .greaterEqual), ("==", .operator .equal), ("!=", .operator .notEqual),
   ("&&", .bothHold), ("||", .oneHolds), ("*=", .assign (some .times)),
   ("/=", .assign (some .divided)), ("%=", .assign (some .remainder)),
   ("+=", .assign (some .plus)), ("-=", .assign (some .minus)), ("&=", .assign (some .bitAnd)),
   ("^=", .assign (some .bitXor)), ("|=", .assign (some .bitOr)), ("=", .assign none),
   ("<", .operator .less), (">", .operator .greater), ("+", .operator .plus),
   ("-", .operator .minus), ("*", .operator .times), ("/", .operator .divided),
   ("%", .operator .remainder), ("&", .operator .bitAnd), ("^", .operator .bitXor),
   ("|", .operator .bitOr), ("!", .not), ("~", .bitNot), ("(", .opening), (")", .closing),
   ("?", .question), (":", .colon)]

/-- How loosely an operator binds. -/
def Operator.rank : Operator → Nat
  | times | divided | remainder => 0
  | plus | minus => 1
  | shiftLeft | shiftRight => 2
  | less | lessEqual | greater | greaterEqual => 3
  | equal | notEqual => 4
  | bitAnd => 5
  | bitXor => 6
  | bitOr => 7

/-- The rank above all operators. -/
def Operator.maxRank : Nat := 8

/-- Reads the terms of an expression. -/
def termsOf : (fuel : Nat) → Bytes → List Term
  | 0, _ => [.ending]
  | fuel + 1, cs => match cs with
    | [] => [.ending]
    | c :: rest =>
      if c = ' ' ∨ c = '\t' ∨ c = '\n' then termsOf fuel rest
      else if c.isDigit then
        match scanInteger none cs with
        | some (n, rest) => .number (saturated n) :: termsOf fuel rest
        | none => [.bad]
      else if isNameStart c then
        .variable (cs.takeWhile isNameChar) :: termsOf fuel (cs.dropWhile isNameChar)
      else match termSpellings.find? fun (spelling, _) => spelling.toList.isPrefixOf cs with
        | some (spelling, term) => term :: termsOf fuel (cs.drop spelling.length)
        | none => [.bad]

/-- The truth value as a number. -/
def truth (b : Bool) : Int := if b then 1 else 0

/-- Joins two numbers. Nothing is divided by zero. -/
def Operator.apply (o : Operator) (a b : Int) : Option Int :=
  let x := Int64.ofInt a
  let y := Int64.ofInt b
  match o with
  | times => some (wrapped (a * b))
  | divided => if b = 0 then none else some (wrapped (Int.tdiv a b))
  | remainder => if b = 0 then none else some (wrapped (Int.tmod a b))
  | plus => some (wrapped (a + b))
  | minus => some (wrapped (a - b))
  | shiftLeft => some (x <<< y).toInt
  | shiftRight => some (x >>> y).toInt
  | less => some (truth (decide (a < b)))
  | lessEqual => some (truth (decide (a ≤ b)))
  | greater => some (truth (decide (b < a)))
  | greaterEqual => some (truth (decide (b ≤ a)))
  | equal => some (truth (a == b))
  | notEqual => some (truth (a != b))
  | bitAnd => some (x &&& y).toInt
  | bitXor => some (x ^^^ y).toInt
  | bitOr => some (x ||| y).toInt

/-- The value of a variable as a number; one without a value is zero. -/
def numberOf (name : Bytes) : Exec Int := do
  let cs := (← value? name).getD []
  if cs.all isSpace then return 0
  match integer? none cs with
  | some n => if leastInteger ≤ n ∧ n ≤ greatestInteger then return n else badNumber cs
  | none => badNumber cs

/-- An expression that is being worked out. -/
structure Calculation where
  /-- The whole text, for complaints. -/
  text : Bytes

namespace Calculation

/-- Complains about an expression. -/
def fault {α : Type} (c : Calculation) (message : String) : Exec α :=
  fail (ofText s!"arithmetic expression: {message}: \"" ++ c.text ++ ['"'])

/-- Joins two numbers by an operator. -/
def join (c : Calculation) (o : Operator) (a b : Int) : Exec Int :=
  match o.apply a b with
  | some n => return n
  | none => c.fault "division by zero"

/-- The first term and those after it. -/
def split : List Term → Term × List Term
  | t :: ts => (t, ts)
  | [] => (.ending, [])

mutual

/-- Works out a number, a variable, an expression in parentheses, or one of these behind signs. -/
def primary (c : Calculation) : (fuel : Nat) → (counts : Bool) → List Term → Exec (Int × List Term)
  | 0, _, _ => c.fault "expecting primary"
  | fuel + 1, counts, terms => match split terms with
    | (.opening, rest) => do
      let (n, rest) ← assignment c fuel counts rest
      match split rest with
      | (.closing, rest) => return (n, rest)
      | _ => c.fault "expecting ')'"
    | (.number n, rest) => return (n, rest)
    | (.variable name, rest) => do
      let n ← if counts then numberOf name else pure 0
      return (n, rest)
    | (.operator .plus, rest) => primary c fuel counts rest
    | (.operator .minus, rest) => do
      let (n, rest) ← primary c fuel counts rest
      return (wrapped (-n), rest)
    | (.not, rest) => do
      let (n, rest) ← primary c fuel counts rest
      return (truth (n == 0), rest)
    | (.bitNot, rest) => do
      let (n, rest) ← primary c fuel counts rest
      return (-n - 1, rest)
    | _ => c.fault "expecting primary"

/-- Joins a number with what follows by operators that bind tighter than a rank; `o` is the first of
them. -/
def joined (c : Calculation) :
    (fuel : Nat) → (counts : Bool) → Int → Operator → (rank : Nat) → List Term →
      Exec (Int × List Term)
  | 0, _, _, _, _, _ => c.fault "expecting primary"
  | fuel + 1, counts, a, o, rank, terms => do
    let (b, rest) ← primary c fuel counts terms
    let (b, rest) ← match split rest with
      | (.operator next, after) =>
        if next.rank < o.rank then joined c fuel counts b next o.rank after else pure (b, rest)
      | _ => pure (b, rest)
    let a ← if counts then c.join o a b else pure b
    match split rest with
    | (.operator next, after) =>
      if next.rank < rank then joined c fuel counts a next rank after else return (a, rest)
    | _ => return (a, rest)

/-- Works out numbers joined by operators. -/
def operation (c : Calculation) : (fuel : Nat) → (counts : Bool) → List Term → Exec (Int × List Term)
  | 0, _, _ => c.fault "expecting primary"
  | fuel + 1, counts, terms => do
    let (a, rest) ← primary c fuel counts terms
    match split rest with
    | (.operator o, after) => joined c fuel counts a o Operator.maxRank after
    | _ => return (a, rest)

/-- Works out whether several conditions hold together. -/
def conjunction (c : Calculation) :
    (fuel : Nat) → (counts : Bool) → List Term → Exec (Int × List Term)
  | 0, _, _ => c.fault "expecting primary"
  | fuel + 1, counts, terms => do
    let (a, rest) ← operation c fuel counts terms
    match split rest with
    | (.bothHold, rest) =>
      let (b, rest) ← conjunction c fuel (counts && a != 0) rest
      return (truth (a != 0 && b != 0), rest)
    | _ => return (a, rest)

/-- Works out whether one of several conditions holds. -/
def disjunction (c : Calculation) :
    (fuel : Nat) → (counts : Bool) → List Term → Exec (Int × List Term)
  | 0, _, _ => c.fault "expecting primary"
  | fuel + 1, counts, terms => do
    let (a, rest) ← conjunction c fuel counts terms
    match split rest with
    | (.oneHolds, rest) =>
      let (b, rest) ← disjunction c fuel (counts && a == 0) rest
      return (truth (a != 0 || b != 0), rest)
    | _ => return (a, rest)

/-- Works out a choice between two numbers. -/
def choice (c : Calculation) : (fuel : Nat) → (counts : Bool) → List Term → Exec (Int × List Term)
  | 0, _, _ => c.fault "expecting primary"
  | fuel + 1, counts, terms => do
    let (a, rest) ← disjunction c fuel counts terms
    match split rest with
    | (.question, rest) =>
      let (yes, rest) ← assignment c fuel (counts && a != 0) rest
      match split rest with
      | (.colon, rest) =>
        let (no, rest) ← choice c fuel (counts && a == 0) rest
        return (if a != 0 then yes else no, rest)
      | _ => c.fault "expecting ':'"
    | _ => return (a, rest)

/-- Works out an expression that may be assigned to a variable. -/
def assignment (c : Calculation) :
    (fuel : Nat) → (counts : Bool) → List Term → Exec (Int × List Term)
  | 0, _, _ => c.fault "expecting primary"
  | fuel + 1, counts, terms => match terms with
    | .variable name :: .assign o :: rest => do
      let (n, rest) ← assignment c fuel counts rest
      if counts then
        let n ← match o with
          | some o => c.join o (← numberOf name) n
          | none => pure n
        assign name (signed n)
        return (n, rest)
      else return (n, rest)
    | terms => choice c fuel counts terms

end

end Calculation

/-- The value of an expression. -/
def calculate (cs : Bytes) : Exec Int := do
  let c : Calculation := ⟨cs⟩
  let terms := termsOf (cs.length + 1) cs
  let (n, rest) ← c.assignment (10 * terms.length + 10) true terms
  match rest with
  | .ending :: _ => return n
  | _ => c.fault "expecting EOF"

end IdentityDocs.Script
