import ProofDesk.Text.Basic
import ProofDesk.Shell.Script

namespace ProofDesk.Shell.Arithmetic

def wrap (n : Int) : Int :=
  Int.bmod n (Nat.pow 2 64)

/-- The operators with two operands. -/
inductive Operator where
  | multiply
  | divide
  | remainder
  | add
  | subtract
  | shiftLeft
  | shiftRight
  | less
  | greater
  | lessEqual
  | greaterEqual
  | equal
  | notEqual
  | bitAnd
  | bitXor
  | bitOr
deriving DecidableEq, Repr

def Operator.strength : Operator → Nat
  | multiply | divide | remainder => 7
  | add | subtract => 6
  | shiftLeft | shiftRight => 5
  | less | greater | lessEqual | greaterEqual => 4
  | equal | notEqual => 3
  | bitAnd => 2
  | bitXor => 1
  | bitOr => 0

/-- A token of an expression. -/
inductive Lexeme where
  | number (n : Int)
  | variable (name : Text)
  | operator (o : Operator)
  /-- An assignment, which may combine the old value with the new one. -/
  | assign (o : Option Operator)
  | both
  | either
  | not
  | complement
  | opening
  | closing
  | question
  | colon
  | bad
deriving DecidableEq, Repr

/-- What is wrong with an expression. -/
inductive Misfit where
  | expectingPrimary
  | expectingEnd
  | expectingClosing
  | expectingColon
  | divisionByZero
  /-- The value of a variable is no number. -/
  | illegalNumber (value : Text)
deriving DecidableEq, Repr

def Misfit.message (expression : Text) : Misfit → Text
  | illegalNumber value => "Illegal number: ".toList ++ value
  | m =>
    let cause := match m with
      | expectingPrimary => "expecting primary"
      | expectingEnd => "expecting EOF"
      | expectingClosing => "expecting ')'"
      | expectingColon => "expecting ':'"
      | _ => "division by zero"
    "arithmetic expression: ".toList ++ cause.toList ++ ": \"".toList ++ expression ++ ['"']

def digitValue? (c : Char) : Option Nat :=
  if c.isDigit then some (c.toNat - 48)
  else if 'a' ≤ c ∧ c ≤ 'f' then some (c.toNat - 87)
  else if 'A' ≤ c ∧ c ≤ 'F' then some (c.toNat - 55)
  else none

def digitsIn (base value : Nat) : Text → Nat × Text
  | [] => (value, [])
  | c :: s =>
    match digitValue? c with
    | some d => if d < base then digitsIn base (value * base + d) s else (value, c :: s)
    | none => (value, c :: s)

def largest : Nat := Nat.pow 2 63 - 1

def numeral (s : Text) : Nat × Text :=
  let (n, rest) : Nat × Text := match s with
    | '0' :: x :: d :: rest =>
      if (x == 'x' || x == 'X') && (digitValue? d).isSome then digitsIn 16 0 (d :: rest)
      else digitsIn 8 0 s
    | '0' :: _ => digitsIn 8 0 s
    | s => digitsIn 10 0 s
  (n, rest)

def readInteger? (s : Text) : Option Int :=
  let isBlank (c : Char) : Bool := c == ' ' || (9 ≤ c.toNat && c.toNat ≤ 13)
  let s := s.dropWhile isBlank
  let (isNegative, digits) : Bool × Text := match s with
    | '-' :: rest => (true, rest)
    | '+' :: rest => (false, rest)
    | s => (false, s)
  match digits with
  | c :: _ =>
    if c.isDigit then
      let (n, rest) := numeral digits
      if rest.all isBlank then
        if isNegative then (if n ≤ largest + 1 then some (-n) else none)
        else if n ≤ largest then some n else none
      else none
    else none
  | [] => none

def operator (s : Text) : Lexeme × Text :=
  match s with
  | '<' :: '<' :: '=' :: r => (.assign (some .shiftLeft), r)
  | '>' :: '>' :: '=' :: r => (.assign (some .shiftRight), r)
  | '<' :: '<' :: r => (.operator .shiftLeft, r)
  | '>' :: '>' :: r => (.operator .shiftRight, r)
  | '<' :: '=' :: r => (.operator .lessEqual, r)
  | '>' :: '=' :: r => (.operator .greaterEqual, r)
  | '=' :: '=' :: r => (.operator .equal, r)
  | '!' :: '=' :: r => (.operator .notEqual, r)
  | '&' :: '&' :: r => (.both, r)
  | '|' :: '|' :: r => (.either, r)
  | '+' :: '=' :: r => (.assign (some .add), r)
  | '-' :: '=' :: r => (.assign (some .subtract), r)
  | '*' :: '=' :: r => (.assign (some .multiply), r)
  | '/' :: '=' :: r => (.assign (some .divide), r)
  | '%' :: '=' :: r => (.assign (some .remainder), r)
  | '&' :: '=' :: r => (.assign (some .bitAnd), r)
  | '|' :: '=' :: r => (.assign (some .bitOr), r)
  | '^' :: '=' :: r => (.assign (some .bitXor), r)
  | '<' :: r => (.operator .less, r)
  | '>' :: r => (.operator .greater, r)
  | '=' :: r => (.assign none, r)
  | '!' :: r => (.not, r)
  | '&' :: r => (.operator .bitAnd, r)
  | '|' :: r => (.operator .bitOr, r)
  | '^' :: r => (.operator .bitXor, r)
  | '+' :: r => (.operator .add, r)
  | '-' :: r => (.operator .subtract, r)
  | '*' :: r => (.operator .multiply, r)
  | '/' :: r => (.operator .divide, r)
  | '%' :: r => (.operator .remainder, r)
  | '~' :: r => (.complement, r)
  | '(' :: r => (.opening, r)
  | ')' :: r => (.closing, r)
  | '?' :: r => (.question, r)
  | ':' :: r => (.colon, r)
  | _ :: r => (.bad, r)
  | [] => (.bad, [])

def lexemes : (fuel : Nat) → Text → List Lexeme
  | 0, _ => []
  | _, [] => []
  | fuel + 1, c :: s =>
    if c = ' ' ∨ c = '\t' ∨ c = '\n' then lexemes fuel s
    else if c.isDigit then
      let (n, rest) := numeral (c :: s)
      .number (min n largest) :: lexemes fuel rest
    else if isNameStart c then
      .variable ((c :: s).takeWhile isNameChar) :: lexemes fuel ((c :: s).dropWhile isNameChar)
    else
      let (t, rest) := operator (c :: s)
      t :: lexemes fuel rest

/-- An expression that is being computed: its tokens, and the variables it has set. -/
structure Progress where
  rest : List Lexeme
  assigned : List (Text × Int) := []
deriving Repr

abbrev Computation := StateT Progress (Except Misfit)

def peek : Computation (Option Lexeme) := do
  return (← get).rest.head?

def advance : Computation Unit :=
  modify fun p => { p with rest := p.rest.drop 1 }

def compute (o : Operator) (a b : Int) : Computation Int :=
  let truth (b : Bool) : Int := if b then 1 else 0
  let bits (f : Nat → Nat → Nat) : Int :=
    wrap (f (a % Nat.pow 2 64).toNat (b % Nat.pow 2 64).toNat)
  let places := (b % 64).toNat
  match o with
  | .multiply => return wrap (a * b)
  | .divide => if b = 0 then throw .divisionByZero else return wrap (a.tdiv b)
  | .remainder => if b = 0 then throw .divisionByZero else return wrap (a.tmod b)
  | .add => return wrap (a + b)
  | .subtract => return wrap (a - b)
  | .shiftLeft => return wrap (a * Nat.pow 2 places)
  | .shiftRight => return a.fdiv (Nat.pow 2 places)
  | .less => return truth (a < b)
  | .greater => return truth (a > b)
  | .lessEqual => return truth (a ≤ b)
  | .greaterEqual => return truth (a ≥ b)
  | .equal => return truth (a = b)
  | .notEqual => return truth (a ≠ b)
  | .bitAnd => return bits Nat.land
  | .bitXor => return bits Nat.xor
  | .bitOr => return bits Nat.lor

section Grammar

variable (lookup : Text → Option Text)

def variableValue (name : Text) : Computation Int := do
  match (← get).assigned.find? fun e => e.1 == name with
  | some e => return e.2
  | none =>
    match lookup name with
    | none => return 0
    | some value =>
      if value.all (· == ' ') then return 0
      match readInteger? value with
      | some n => return n
      | none => throw (.illegalNumber value)

variable (assignment : (counts : Bool) → Computation Int)

def primary (counts : Bool) : (fuel : Nat) → Computation Int
  | 0 => throw .expectingPrimary
  | fuel + 1 => do
    match ← peek with
    | some (.number n) => advance; return n
    | some (.variable name) =>
      advance
      if counts then variableValue lookup name else return 0
    | some .opening =>
      advance
      let n ← assignment counts
      if (← peek) ≠ some .closing then throw .expectingClosing
      advance
      return n
    | some (.operator .add) => advance; primary counts fuel
    | some (.operator .subtract) => advance; return wrap (-(← primary counts fuel))
    | some .not => advance; return if (← primary counts fuel) = 0 then 1 else 0
    | some .complement => advance; return -(← primary counts fuel) - 1
    | _ => throw .expectingPrimary

def operations (counts : Bool) : (fuel : Nat) → (strength : Nat) → Int → Computation Int
  | 0, _, a => return a
  | fuel + 1, strength, a => do
    match ← peek with
    | some (.operator o) =>
      if o.strength < strength then return a
      advance
      let b ← primary lookup assignment counts (fuel + 1)
      let b ← operations counts fuel (o.strength + 1) b
      let value ← if counts then compute o a b else pure 0
      operations counts fuel strength value
    | _ => return a

def operand (counts : Bool) : Computation Int := do
  let fuel := (← get).rest.length + 1
  let a ← primary lookup assignment counts fuel
  operations lookup assignment counts fuel 0 a

def conjunction (counts : Bool) : (fuel : Nat) → Computation Int
  | 0 => throw .expectingPrimary
  | fuel + 1 => do
    let a ← operand lookup assignment counts
    if (← peek) ≠ some .both then return a
    advance
    let b ← conjunction (counts && a != 0) fuel
    return if a ≠ 0 ∧ b ≠ 0 then 1 else 0

def disjunction (counts : Bool) : (fuel : Nat) → Computation Int
  | 0 => throw .expectingPrimary
  | fuel + 1 => do
    let a ← conjunction lookup assignment counts ((← get).rest.length + 1)
    if (← peek) ≠ some .either then return a
    advance
    let b ← disjunction (counts && a == 0) fuel
    return if a ≠ 0 ∨ b ≠ 0 then 1 else 0

def choice (counts : Bool) : (fuel : Nat) → Computation Int
  | 0 => throw .expectingPrimary
  | fuel + 1 => do
    let a ← disjunction lookup assignment counts ((← get).rest.length + 1)
    if (← peek) ≠ some .question then return a
    advance
    let b ← assignment (counts && a != 0)
    if (← peek) ≠ some .colon then throw .expectingColon
    advance
    let c ← choice (counts && a == 0) fuel
    return if a ≠ 0 then b else c

end Grammar

def assignment (lookup : Text → Option Text) : (fuel : Nat) → (counts : Bool) → Computation Int
  | 0, _ => throw .expectingPrimary
  | fuel + 1, counts => do
    match (← get).rest with
    | .variable name :: .assign o :: rest =>
      modify fun p => { p with rest }
      let b ← assignment lookup fuel counts
      if !counts then return b
      let value ← match o with
        | none => pure b
        | some o => do compute o (← variableValue lookup name) b
      modify fun p => { p with assigned := (name, value) :: p.assigned }
      return value
    | rest => choice lookup (assignment lookup fuel) counts (rest.length + 1)

def evaluate (lookup : Text → Option Text) (expression : Text) :
    Except Misfit (Int × List (Text × Int)) :=
  let tokens := lexemes (expression.length + 1) expression
  let all : Computation Int := do
    let n ← assignment lookup (tokens.length + 1) true
    if (← get).rest ≠ [] then throw .expectingEnd
    return n
  match all.run { rest := tokens } with
  | .ok (n, p) => .ok (n, p.assigned.reverse)
  | .error m => .error m

end ProofDesk.Shell.Arithmetic
