import ProofDesk.Files.Basic
import ProofDesk.Shell.Arithmetic

namespace ProofDesk.Shell

/-- What is wrong with a condition. -/
inductive BadCondition where
  | unexpectedOperator (argument : Text)
  | missingArgument (operator : Text)
  | openParenthesis
  | illegalNumber (argument : Text)
deriving DecidableEq, Repr

def BadCondition.message : BadCondition → Text
  | unexpectedOperator a =>
    if a = [] then "unexpected operator".toList else a ++ ": unexpected operator".toList
  | missingArgument o => o ++ ": argument expected".toList
  | openParenthesis => "closing paren expected".toList
  | illegalNumber a => "Illegal number: ".toList ++ a

namespace Condition

def binary : List Text :=
  ["=", "!=", "<", ">", "-eq", "-ne", "-gt", "-ge", "-lt", "-le", "-nt", "-ot", "-ef"].map
    String.toList

def unary : List Text :=
  ["-r", "-w", "-x", "-e", "-f", "-d", "-c", "-b", "-p", "-u", "-g", "-k", "-s", "-t", "-z", "-n",
    "-h", "-O", "-G", "-L", "-S"].map String.toList

/-- The kinds of arguments. -/
inductive Kind where
  | stop
  | operand
  | unary
  | binary
  | not
  | both
  | either
  | opening
  | closing
deriving DecidableEq, Repr

def kind : List Text → Kind
  | [] => .stop
  | s :: rest =>
    if s = ['!'] then .not
    else if s = "-a".toList then .both
    else if s = "-o".toList then .either
    else if s = ['('] then (if rest = [] then .operand else .opening)
    else if s = [')'] then .closing
    else if binary.contains s then .binary
    else if unary.contains s then
      match rest with
      | [] => .operand
      | [_] => .unary
      | _ :: o :: _ => if binary.contains o then .operand else .unary
    else .operand

abbrev Check := StateT (List Text) (Except BadCondition)

def ask (entry : Text → Option FileEntry) (isCommand isTerminal : Text → Bool)
    (operator argument : Text) : Bool :=
  let found := entry argument
  match String.ofList operator with
  | "-z" => argument.isEmpty
  | "-n" => !argument.isEmpty
  | "-t" => isTerminal argument
  | "-d" => found == some .directory
  | "-f" => match found with
    | some (.file _) => true
    | _ => false
  | "-c" => found == some .sink
  | "-s" => match found with
    | some (.file text) => !text.isEmpty
    | some .directory => true
    | _ => false
  | "-x" => found == some .directory || isCommand argument
  | "-e" | "-r" | "-w" | "-O" | "-G" => found.isSome
  | _ => false

def integer (s : Text) : Check Int :=
  let t := s.dropWhile fun c => c == ' ' || (9 ≤ c.toNat && c.toNat ≤ 13)
  let (isNegative, digits) : Bool × Text := match t with
    | '-' :: r => (true, r)
    | '+' :: r => (false, r)
    | t => (false, t)
  let rest := (digits.dropWhile Char.isDigit).dropWhile fun c =>
    c == ' ' || (9 ≤ c.toNat && c.toNat ≤ 13)
  match Text.digits? (digits.takeWhile Char.isDigit) with
  | some n => if rest = [] then return (if isNegative then -n else n) else throw (.illegalNumber s)
  | none => throw (.illegalNumber s)

def compare (operator a b : Text) : Check Bool := do
  match String.ofList operator with
  | "=" => return a == b
  | "!=" => return a != b
  | "<" => return decide (a < b)
  | ">" => return decide (b < a)
  | "-eq" => return (← integer a) == (← integer b)
  | "-ne" => return (← integer a) != (← integer b)
  | "-gt" => return decide ((← integer a) > (← integer b))
  | "-ge" => return decide ((← integer a) ≥ (← integer b))
  | "-lt" => return decide ((← integer a) < (← integer b))
  | "-le" => return decide ((← integer a) ≤ (← integer b))
  | _ => return false

section Grammar

variable (entry : Text → Option FileEntry) (isCommand isTerminal : Text → Bool)

mutual

/-- A condition without joints. Arguments are taken as far as they belong to it. -/
def primary : (fuel : Nat) → Check Bool
  | 0 => return false
  | fuel + 1 => do
    match ← get with
    | [] => return false
    | s :: rest =>
      match kind (s :: rest) with
      | .opening =>
        set rest
        if kind rest = .closing then
          set (rest.drop 1)
          return false
        let b ← disjunction fuel
        match ← get with
        | [')'] :: after =>
          set after
          return b
        | _ => throw .openParenthesis
      | .unary =>
        match rest with
        | a :: after =>
          set after
          return ask entry isCommand isTerminal s a
        | [] => throw (.missingArgument s)
      | _ =>
        if kind rest = .binary then
          match rest with
          | o :: b :: after =>
            set after
            compare o s b
          | o :: _ => throw (.missingArgument o)
          | [] => return true
        else
          set rest
          return !s.isEmpty

def negation : (fuel : Nat) → Check Bool
  | 0 => return false
  | fuel + 1 => do
    let s ← get
    if kind s = .not then
      set (s.drop 1)
      return !(← negation fuel)
    else primary fuel

def conjunction : (fuel : Nat) → Check Bool
  | 0 => return false
  | fuel + 1 => do
    let a ← negation fuel
    let s ← get
    if kind s = .both then
      set (s.drop 1)
      let b ← conjunction fuel
      return a && b
    else return a

def disjunction : (fuel : Nat) → Check Bool
  | 0 => return false
  | fuel + 1 => do
    let a ← conjunction fuel
    let s ← get
    if kind s = .either then
      set (s.drop 1)
      let b ← disjunction fuel
      return a || b
    else return a

end

/-- The value of a condition; where arguments are left over, the one before them is at fault. Three
arguments with an operator in the middle are a comparison, and parentheses or a negation around up
to three arguments count before any other reading. -/
def evaluate : (fuel : Nat) → List Text → Except BadCondition Bool
  | 0, _ => .ok false
  | fuel + 1, arguments =>
    let whole : Except BadCondition Bool :=
      match (disjunction entry isCommand isTerminal (2 * arguments.length + 8)).run arguments with
      | .error e => .error e
      | .ok (b, []) => .ok b
      | .ok (_, rest) =>
        .error (.unexpectedOperator ((arguments[arguments.length - rest.length - 1]?).getD []))
    match arguments with
    | [] => .ok false
    | [a, o, b] =>
      if binary.contains o then
        match (compare o a b).run [] with
        | .ok (r, _) => .ok r
        | .error e => .error e
      else if a = ['('] ∧ b = [')'] then evaluate fuel [o]
      else if a = ['!'] then (evaluate fuel [o, b]).map not
      else whole
    | [a, b, c, d] =>
      if a = ['('] ∧ d = [')'] then evaluate fuel [b, c]
      else if a = ['!'] then (evaluate fuel [b, c, d]).map not
      else whole
    | _ => whole

end Grammar

end Condition

end ProofDesk.Shell
