import ProofDesk.Regex.Basic

namespace ProofDesk.Regex

open Shell (SetMember CharKind)

/-- What is wrong with an expression. -/
inductive Misreading where
  | openGroup
  | closedGroup
  | openBracket
  | openBrace
  | badBrace
  | badRange
  | badClass
  | noOperand
  | badReference
  | lastBackslash
  | bareBracket
deriving DecidableEq, Repr

def Misreading.wording : Misreading → String
  | openGroup => "Unmatched ( or \\("
  | closedGroup => "Unmatched ) or \\)"
  | openBracket => "Unmatched [, [^, [:, [., or [="
  | openBrace => "Unmatched \\\x7b"
  | badBrace => "Invalid content of \\\x7b\\\x7d"
  | badRange => "Invalid range end"
  | badClass => "Invalid character class name"
  | noOperand => "Invalid preceding regular expression"
  | badReference => "Invalid back reference"
  | lastBackslash => "Trailing backslash"
  | bareBracket => "Invalid regular expression"

/-- An expression that is being read. -/
structure Source where
  rest : Text
  isExtended : Bool
  /-- Operators without an operand, and a parenthesis that closes nothing, are refused. -/
  isStrict : Bool
  groups : Nat := 0
  depth : Nat := 0
  /-- Nothing has been read since the start, a parenthesis or a bar. -/
  atStart : Bool := true

abbrev Reader := StateT Source (Except Misreading)

def members : (fuel : Nat) → (isFirst : Bool) → Text → Except Misreading (List SetMember × Text)
  | 0, _, _ => .error .openBracket
  | fuel + 1, isFirst, s =>
    let goOn (m : SetMember) (rest : Text) : Except Misreading (List SetMember × Text) :=
      (members fuel false rest).map fun r => (m :: r.1, r.2)
    match s with
    | [] => .error (if isFirst then .bareBracket else .openBracket)
    | '[' :: ':' :: r =>
      match Text.find? ":]".toList r with
      | some (name, rest) =>
        match CharKind.ofName? name with
        | some k => goOn (.kind k) rest
        | none => .error .badClass
      | none => .error .openBracket
    | '[' :: '=' :: c :: '=' :: ']' :: rest => goOn (.range c c) rest
    | '[' :: '.' :: c :: '.' :: ']' :: rest => goOn (.range c c) rest
    | '\\' :: 'n' :: rest => goOn (.range '\n' '\n') rest
    | '\\' :: 't' :: rest => goOn (.range '\t' '\t') rest
    | '\\' :: ']' :: rest =>
      goOn (.range '\\' '\\') (']' :: rest)
    | c :: rest =>
      if c = ']' ∧ ¬ isFirst then .ok ([], rest)
      else match rest with
        | '-' :: d :: after =>
          if d = ']' then goOn (.range c c) rest
          else if d < c then .error .badRange
          else goOn (.range c d) after
        | _ => goOn (.range c c) rest

def bounds (isExtended : Bool) (s : Text) : Except Misreading (Nat × Option Nat × Text) := do
  let close (r : Text) : Except Misreading Text :=
    match isExtended, r with
    | true, '\x7d' :: r => .ok r
    | false, '\\' :: '\x7d' :: r => .ok r
    | true, _ | false, [] => .error .openBrace
    | false, _ => .error .badBrace
  let digits := s.takeWhile Char.isDigit
  let least := Text.digits? digits
  match s.drop digits.length with
  | ',' :: r =>
    let digits := r.takeWhile Char.isDigit
    let rest ← close (r.drop digits.length)
    return (least.getD 0, Text.digits? digits, rest)
  | r =>
    let rest ← close r
    match least with
    | some n => return (n, some n, rest)
    | none => throw (if isExtended then .openBrace else .badBrace)

def repetition? (isExtended isStrict : Bool) (s : Text) :
    Option (Except Misreading (Nat × Option Nat × Text)) :=
  match isExtended, s with
  | _, '*' :: r => some (.ok (0, none, r))
  | true, '+' :: r | false, '\\' :: '+' :: r => some (.ok (1, none, r))
  | true, '?' :: r | false, '\\' :: '?' :: r => some (.ok (0, some 1, r))
  | true, '\x7b' :: r =>
    match bounds true r with
    | .ok b => some (.ok b)
    | .error e => if isStrict then some (.error e) else none
  | false, '\\' :: '\x7b' :: r => some (bounds false r)
  | _, _ => none

def repetitions : (fuel : Nat) → Regex → Reader Regex
  | 0, r => return r
  | fuel + 1, r => do
    let s ← get
    match repetition? s.isExtended s.isStrict s.rest with
    | none => return r
    | some (.error e) => throw e
    | some (.ok (least, most, rest)) =>
      set { s with rest }
      match r with
      | .repeated .. => if s.isStrict ∧ ¬ s.isExtended then throw .noOperand
      | _ => pure ()
      repetitions fuel (.repeated r least most)

def wordSet (isNegated : Bool) : Regex :=
  .oneOf isNegated [.kind .alnum, .range '_' '_']

def spaceSet (isNegated : Bool) : Regex :=
  .oneOf isNegated [.kind .space]

def escaped (c : Char) : Regex :=
  match c with
  | 'w' => wordSet false
  | 'W' => wordSet true
  | 's' => spaceSet false
  | 'S' => spaceSet true
  | 'b' => .wordEdge false
  | 'B' => .wordEdge true
  | '<' => .wordStart
  | '>' => .wordEnd
  | '\x60' => .textStart
  | '\'' => .textEnd
  | 'n' => .char '\n'
  | 't' => .char '\t'
  | c => .char c

mutual

def branches : (fuel : Nat) → Reader Regex
  | 0 => throw .openGroup
  | fuel + 1 => do
    modify fun s => { s with atStart := true }
    let first ← branch fuel .empty
    let s ← get
    match s.isExtended, s.rest with
    | true, '|' :: rest | false, '\\' :: '|' :: rest =>
      set { s with rest }
      return .either first (← branches fuel)
    | _, _ => return first

def branch : (fuel : Nat) → Regex → Reader Regex
  | 0, _ => throw .openGroup
  | fuel + 1, done => do
    let s ← get
    let one (r : Regex) (rest : Text) : Reader Regex := do
      set { s with rest, atStart := false }
      let r ← repetitions (rest.length + 1) r
      branch fuel (if done = .empty then r else .both done r)
    let assertion (r : Regex) (rest : Text) (stays : Bool) : Reader Regex := do
      set { s with rest, atStart := stays }
      branch fuel (if done = .empty then r else .both done r)
    let lone (c : Char) (rest : Text) : Reader Regex := do
      if !s.atStart then one (.char c) rest
      else if s.isStrict then throw .noOperand
      else assertion .empty rest true
    let group (rest : Text) : Reader Regex := do
      let n := s.groups + 1
      set { s with rest, groups := n, depth := s.depth + 1 }
      let inner ← branches fuel
      let t ← get
      match t.isExtended, t.rest with
      | true, ')' :: rest | false, '\\' :: ')' :: rest =>
        set { t with rest, depth := s.depth, atStart := false }
        let r ← repetitions (rest.length + 1) (.group n inner)
        branch fuel (if done = .empty then r else .both done r)
      | _, _ => throw .openGroup
    match s.isExtended, s.rest with
    | _, [] => return done
    | true, '|' :: _ | false, '\\' :: '|' :: _ => return done
    | true, ')' :: rest =>
      if 0 < s.depth then return done
      else if s.isStrict then throw .closedGroup
      else one (.char ')') rest
    | false, '\\' :: ')' :: _ => if 0 < s.depth then return done else throw .closedGroup
    | true, '(' :: rest | false, '\\' :: '(' :: rest => group rest
    | true, '^' :: rest => assertion .lineStart rest true
    | true, '$' :: rest => assertion .lineEnd rest false
    | false, '^' :: rest => if s.atStart then assertion .lineStart rest true else one (.char '^') rest
    | false, '$' :: rest =>
      let isLast := rest.isEmpty || Text.startsWith rest "\\)".toList ||
        Text.startsWith rest "\\|".toList
      if isLast then assertion .lineEnd rest false else one (.char '$') rest
    | _, '.' :: rest => one .any rest
    | _, '[' :: '^' :: rest =>
      match members (rest.length + 1) true rest with
      | .ok (m, rest) => one (.oneOf true m) rest
      | .error e => throw e
    | _, '[' :: rest =>
      match members (rest.length + 1) true rest with
      | .ok (m, rest) => one (.oneOf false m) rest
      | .error e => throw e
    | true, '*' :: rest => lone '*' rest
    | true, '+' :: rest => lone '+' rest
    | true, '?' :: rest => lone '?' rest
    | _, '\\' :: [] => throw .lastBackslash
    | _, '\\' :: c :: rest =>
      if '1' ≤ c ∧ c ≤ '9' then
        let n := c.toNat - '0'.toNat
        if s.groups < n then throw .badReference
        one (.back n) rest
      else one (escaped c) rest
    | _, c :: rest => one (.char c) rest

end

def groupCount : Regex → Nat
  | .both a b | .either a b => max (groupCount a) (groupCount b)
  | .repeated a _ _ => groupCount a
  | .group n a => max n (groupCount a)
  | _ => 0

/-- The set has colons at its ends, and something between them, as the name of a kind of character
has inside a set. -/
def looksLikeKind (members : List SetMember) : Bool :=
  let single? (m : SetMember) : Option Char := match m with
    | .range a b => if a = b then some a else none
    | _ => none
  match members.mapM single? with
  | some cs => cs.head? == some ':' && cs.getLast? == some ':' && cs.any (· != ':')
  | none => false

def hasBareKind : Regex → Bool
  | .both a b | .either a b => hasBareKind a || hasBareKind b
  | .repeated a _ _ | .group _ a => hasBareKind a
  | .oneOf _ members => looksLikeKind members
  | _ => false

def bareKindWording : String :=
  "character class syntax is [[:space:]], not [:space:]"

def read (isExtended isStrict : Bool) (s : Text) : Except Misreading Regex :=
  match (branches (2 * s.length + 4)).run { rest := s, isExtended, isStrict } with
  | .error e => .error e
  | .ok (r, _) => .ok r

end ProofDesk.Regex
