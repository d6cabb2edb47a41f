import IdentityDocs.Script.Redirection

/-!
# Conditions

What `test` checks: files, texts and numbers, one by one or joined. An argument that looks like an
operator is one only where it has operands.
-/

namespace IdentityDocs.Script

/-- What is asked of a single operand. -/
inductive Quality
  | empty | filled | terminal
  | present | file | directory | nonEmpty | readable | writable | runnable | device | owned | never
  deriving DecidableEq

/-- What is asked of two operands. -/
inductive Comparison
  | same | different | before | after
  | equal | notEqual | greaterEqual | greater | lessEqual | less
  | newer | older | sameFile
  deriving DecidableEq

/-- The operators of conditions. -/
inductive TestOperator
  | one (q : Quality)
  | two (c : Comparison)
  | not | both | either | opening | closing
  deriving DecidableEq

/-- The spellings of the operators. -/
def testOperators : List (String × TestOperator) :=
  [("-r", .one .readable), ("-w", .one .writable), ("-x", .one .runnable), ("-e", .one .present),
   ("-f", .one .file), ("-d", .one .directory), ("-c", .one .device), ("-b", .one .never),
   ("-p", .one .never), ("-u", .one .never), ("-g", .one .never), ("-k", .one .never),
   ("-s", .one .nonEmpty), ("-t", .one .terminal), ("-z", .one .empty), ("-n", .one .filled),
   ("-h", .one .never), ("-O", .one .owned), ("-G", .one .owned), ("-L", .one .never),
   ("-S", .one .never), ("=", .two .same), ("!=", .two .different), ("<", .two .before),
   (">", .two .after), ("-eq", .two .equal), ("-ne", .two .notEqual), ("-ge", .two .greaterEqual),
   ("-gt", .two .greater), ("-le", .two .lessEqual), ("-lt", .two .less), ("-nt", .two .newer),
   ("-ot", .two .older), ("-ef", .two .sameFile), ("!", .not), ("-a", .both), ("-o", .either),
   ("(", .opening), (")", .closing)]

/-- The operator with the given spelling. -/
def testOperator? (cs : Bytes) : Option TestOperator :=
  (testOperators.find? fun (spelling, _) => spelling.toList = cs).map (·.2)

/-- Whether an argument is an operator between two operands. -/
def isComparison (cs : Bytes) : Bool :=
  match testOperator? cs with
  | some (.two _) => true
  | _ => false

/-- The operator that the first argument is, where it stands. -/
def operatorAt? (args : List Bytes) : Option TestOperator :=
  match args with
  | [] => none
  | arg :: rest => (testOperator? arg).filter fun o => match o, rest with
    | .one _, [] => false
    | .one _, [_] => true
    | .one _, next :: _ :: _ => !isComparison next
    | .opening, [] => false
    | _, _ => true

/-- The device files that can be told from others. -/
def devicePaths : List String := ["/dev/null", "/dev/zero", "/dev/full", "/dev/tty"]

/-- Whether a file has a quality. -/
def Quality.holdsOf (q : Quality) (files : FileSystem) (arg : Bytes) : Bool :=
  let found : Option Node := match files.find (argPath arg) with
    | .ok (_, node) => some node
    | .error _ => none
  match q, found with
  | .empty, _ => arg = []
  | .filled, _ => arg ≠ []
  | .terminal, _ => false
  | .device, _ => devicePaths.any (·.toList = arg)
  | _, none => false
  | .directory, some node => node = .directory
  | .file, some (.file _ kind) => kind ≠ .void
  | .file, some .directory => false
  | .nonEmpty, some (.file bytes _) => !bytes.isEmpty
  | .runnable, some (.file _ kind) => kind.mayRun
  | .never, some _ => false
  | _, some _ => true

/-- The number that an operand is. -/
def operand (cs : Bytes) : Exec Int :=
  match decimalInteger? cs with
  | some n => return n
  | none => badNumber cs

/-- Whether two operands compare so. -/
def Comparison.holdsOf (c : Comparison) (a b : Bytes) : Exec Bool := do
  let numbers (f : Int → Int → Bool) : Exec Bool := do
    let m ← operand a
    return f m (← operand b)
  match c with
  | .same => return a == b
  | .different => return a != b
  | .before => return decide (a < b)
  | .after => return decide (b < a)
  | .equal => numbers fun m n => m == n
  | .notEqual => numbers fun m n => m != n
  | .greaterEqual => numbers fun m n => decide (n ≤ m)
  | .greater => numbers fun m n => decide (n < m)
  | .lessEqual => numbers fun m n => decide (m ≤ n)
  | .less => numbers fun m n => decide (m < n)
  | .newer | .older => return false
  | .sameFile =>
    let files := (← get).machine.files
    match files.find (argPath a), files.find (argPath b) with
    | .ok (x, _), .ok (y, _) => return x == y
    | _, _ => return false

/-- Complains about an argument. -/
def badCondition {α : Type} (arg : Bytes) (why : String) : Exec α :=
  fail (if arg = [] then ofText why else arg ++ ofText (": " ++ why))

mutual

/-- Whether one of several conditions holds, and the last argument that was looked at with those
behind it. -/
def eitherHolds : (fuel : Nat) → List Bytes → (o : Option TestOperator) → Exec (Bool × List Bytes)
  | 0, args, _ => return (false, args)
  | fuel + 1, args, o => do
    let (holds, args) ← bothHold fuel args o
    match operatorAt? (args.drop 1) with
    | some .either =>
      let rest := args.drop 2
      let (more, rest) ← eitherHolds fuel rest (operatorAt? rest)
      return (holds || more, rest)
    | _ => return (holds, args)

/-- Whether all of several conditions hold. -/
def bothHold : (fuel : Nat) → List Bytes → (o : Option TestOperator) → Exec (Bool × List Bytes)
  | 0, args, _ => return (false, args)
  | fuel + 1, args, o => do
    let (holds, args) ← maybeNot fuel args o
    match operatorAt? (args.drop 1) with
    | some .both =>
      let rest := args.drop 2
      let (more, rest) ← bothHold fuel rest (operatorAt? rest)
      return (holds && more, rest)
    | _ => return (holds, args)

/-- Whether a condition behind marks of negation holds. -/
def maybeNot : (fuel : Nat) → List Bytes → (o : Option TestOperator) → Exec (Bool × List Bytes)
  | 0, args, _ => return (false, args)
  | fuel + 1, args, o => do
    match o with
    | some .not =>
      let next := operatorAt? (args.drop 1)
      let rest := if args.length ≤ 1 then args else args.drop 1
      let (holds, rest) ← if args.length ≤ 1 then pure (false, rest) else maybeNot fuel rest next
      return (!holds, rest)
    | o => simpleHolds fuel args o

/-- Whether a condition without joints holds. -/
def simpleHolds : (fuel : Nat) → List Bytes → (o : Option TestOperator) → Exec (Bool × List Bytes)
  | 0, args, _ => return (false, args)
  | fuel + 1, args, o => do
    match args, o with
    | [], _ => return (false, [])
    | _ :: rest, some .opening =>
      match operatorAt? rest with
      | some .closing => return (false, rest)
      | next =>
        let (holds, rest) ← eitherHolds fuel rest next
        match operatorAt? (rest.drop 1) with
        | some .closing => return (holds, rest.drop 1)
        | _ => badCondition [] "closing paren expected"
    | arg :: rest, some (.one q) =>
      match rest with
      | [] => badCondition arg "argument expected"
      | operand :: _ =>
        if q = .terminal then discard (Script.operand operand)
        return (q.holdsOf (← get).machine.files operand, rest)
    | arg :: rest, _ =>
      match operatorAt? rest, rest with
      | some (.two c), _ :: b :: _ => do
        return (← c.holdsOf arg b, rest.drop 1)
      | some (.two _), [spelling] => badCondition spelling "argument expected"
      | _, _ => return (arg != [], args)

end

/-- Whether a condition holds all of whose arguments have to be used; `o` is the operator that the
first one is. -/
def wholeHolds (args : List Bytes) (o : Option TestOperator) : Exec Bool := do
  let (holds, rest) ← eitherHolds (8 * args.length + 8) args o
  match rest with
  | arg :: _ :: _ => badCondition arg "unexpected operator"
  | _ => return holds

/-- Whether a condition holds. Three arguments with a comparison in the middle are that. Of three or
four arguments the first can be a mark of negation, which counts once. -/
def holds (args : List Bytes) : Exec Bool := do
  let whole (args : List Bytes) : Exec Bool := wholeHolds args (operatorAt? args)
  let three (a o b : Bytes) : Exec Bool := do
    if isComparison o then wholeHolds [a, o, b] none
    else if a = ['('] ∧ b = [')'] then whole [o]
    else if a = ['!'] then return !(← whole [o, b])
    else whole [a, o, b]
  match args with
  | [] => return false
  | [a, o, b] => three a o b
  | [a, b, c, d] =>
    if a = ['('] ∧ d = [')'] then whole [b, c]
    else if a = ['!'] then
      if b = ['!'] ∧ !isComparison c then three b c d else return !(← three b c d)
    else whole args
  | args => whole args

/-- Checks a condition, which a bracket has to close if it was opened by one. -/
def test (bracket : Bool) (args : List Bytes) : Exec Nat := do
  let args ← if bracket then
      if args.getLast? = some [']'] then pure args.dropLast else fail (ofText "missing ]")
    else pure args
  return if ← holds args then 0 else 1

end IdentityDocs.Script
