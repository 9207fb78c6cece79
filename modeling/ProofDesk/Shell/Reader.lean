import ProofDesk.Shell.Token

namespace ProofDesk.Shell

/-- A text in the script whose lines are still to come, and how they end. -/
structure AwaitedDocument where
  number : Nat
  delimiter : Text
  isVerbatim : Bool
  dropsTabs : Bool
deriving DecidableEq, Repr

/-- An alias that stands replaced in a script. -/
structure Replacement where
  name : Text
  restLength : Nat
  endsBlank : Bool

/-- A script that is being read. -/
structure Source where
  rest : Text
  line : Nat := 1
  last : Token := .stop
  isHeld : Bool := false
  awaited : List AwaitedDocument := []
  documents : List (Nat × Word) := []
  nextDocument : Nat := 0
  aliases : List (Text × Text) := []
  replaced : List Replacement := []

/-- A complaint about a script, with the line that it is about. -/
structure Fault where
  line : Nat
  cause : Misreading
deriving DecidableEq, Repr

abbrev Reader := StateT Source (Except Fault)

namespace Reader

/-- What is wanted of a list of commands. -/
inductive Extent where
  | line
  | some
  | any
  | enclosed
deriving DecidableEq, Repr

inductive Manner where
  | bare
  | bracedBare
  | quoted
  | bracedQuoted
  | document
  | arithmetic
deriving DecidableEq, Repr

namespace Manner

def isQuoted : Manner → Bool
  | bare | bracedBare => false
  | _ => true

def ofArgument (m : Manner) (t : Treatment) : Manner :=
  match t with
  | .trimmed _ _ => bracedBare
  | _ => if m.isQuoted then bracedQuoted else bracedBare

def escapes (m : Manner) (c : Char) : Bool :=
  c == '$' || c == '\\' || c == '\x60' ||
    match m with
    | quoted => c == '"'
    | bracedQuoted => c == '"' || c == '\x7d'
    | _ => false

def atEnd : Manner → Option Misreading
  | bare | document => none
  | bracedBare => Option.some .openBrace
  | quoted | bracedQuoted => Option.some .openQuote
  | arithmetic => Option.some .openArithmetic

end Manner

def fail {α : Type} (cause : Misreading) : Reader α := do
  throw ⟨(← get).line, cause⟩

def joinLines : Reader Unit := do
  let s ← get
  let (rest, lines) := go s.rest 0
  set { s with rest, line := s.line + lines }
where
  go : Text → Nat → Text × Nat
    | '\\' :: '\n' :: rest, n => go rest (n + 1)
    | rest, n => (rest, n)

def peek : Reader (Option Char) := do
  joinLines
  return (← get).rest.head?

def advance : Reader Unit :=
  modify fun s =>
    match s.rest with
    | [] => s
    | c :: rest => { s with rest, line := if c = '\n' then s.line + 1 else s.line }

def take? (c : Char) : Reader Bool := do
  if (← peek) = some c then
    advance
    return true
  return false

def takeWhile (p : Char → Bool) : (fuel : Nat) → Reader Text
  | 0 => return []
  | fuel + 1 => do
    match ← peek with
    | some c =>
      if p c then
        advance
        return c :: (← takeWhile p fuel)
      return []
    | none => return []

def addChar (c : Char) (quoted : Bool) : Word → Word
  | .text s q :: rest => if q == quoted then .text (s ++ [c]) q :: rest
    else .text [c] quoted :: .text s q :: rest
  | parts => .text [c] quoted :: parts

def endsWord (c : Char) : Bool :=
  " \t\n&|;<>()".toList.any (· == c)

def treatment : Reader Treatment := do
  let fallback (orEmpty : Bool) (c : Option Char) : Option Treatment :=
    match c with
    | some '-' => some (.fallback .default orEmpty)
    | some '=' => some (.fallback .assign orEmpty)
    | some '?' => some (.fallback .complain orEmpty)
    | some '+' => some (.fallback .presence orEmpty)
    | _ => none
  match ← peek with
  | some ':' =>
    advance
    if ← take? '\x7d' then return .plain
    match fallback true (← peek) with
    | some t => advance; return t
    | none => return .unknown
  | some '#' =>
    advance
    return .trimmed false (← take? '#')
  | some '%' =>
    advance
    return .trimmed true (← take? '%')
  | c =>
    match fallback false c with
    | some t => advance; return t
    | none => return .unknown

def bracedName : Reader (Option (Text × Bool)) := do
  let rest := (← get).rest.length + 1
  match ← peek with
  | none => return none
  | some c =>
    if isNameStart c then return some (← takeWhile isNameChar rest, false)
    else if c.isDigit then return some (← takeWhile Char.isDigit rest, false)
    else if c = '#' then
      advance
      match ← peek with
      | none => return some (['#'], false)
      | some d =>
        if isNameStart d then return some (← takeWhile isNameChar rest, true)
        else if d.isDigit then return some (← takeWhile Char.isDigit rest, true)
        else if d != '\x7d' && (← get).rest[1]? == some '\x7d' then
          if isSpecial d then
            advance
            return some ([d], true)
          return none
        else return some (['#'], false)
    else if isSpecial c then
      advance
      return some ([c], false)
    else return none

def quotedText : Reader Text := do
  let s ← get
  let text := s.rest.takeWhile (· != '\'')
  let line := s.line + text.count '\n'
  match s.rest.drop text.length with
  | _ :: rest => set { s with rest, line }
  | [] =>
    set { s with rest := [], line }
    fail .openQuote
  return text

/-- The text up to the next backquote; a backslash keeps a dollar sign, a backquote or a backslash
from their meaning. -/
def backquotedText (quoted : Bool) : (fuel : Nat) → Reader Text
  | 0 => fail .tooDeep
  | fuel + 1 => do
    match (← get).rest with
    | [] => fail .openBackquote
    | '\x60' :: _ =>
      advance
      return []
    | '\\' :: '\n' :: _ =>
      advance
      advance
      backquotedText quoted fuel
    | '\\' :: c :: _ =>
      advance
      advance
      let bare := c == '\\' || c == '\x60' || c == '$' || (quoted && c == '"')
      let rest ← backquotedText quoted fuel
      return if bare then c :: rest else '\\' :: c :: rest
    | c :: _ =>
      advance
      return c :: (← backquotedText quoted fuel)

section Words

variable (list : Extent → Reader Command)

def inside {α : Type} (r : Reader α) : Reader α := do
  let outer ← get
  set { outer with isHeld := false, awaited := [] }
  let a ← r
  modify fun s => { s with last := outer.last, isHeld := outer.isHeld, awaited := outer.awaited }
  return a

def backquoted (quoted : Bool) : Reader Part := do
  let text ← backquotedText quoted ((← get).rest.length + 1)
  let outer ← get
  set { outer with rest := text, line := 1, isHeld := false, awaited := [], replaced := [] }
  let c ← list .any
  let inner ← get
  set { outer with documents := inner.documents, nextDocument := inner.nextDocument }
  return .output c quoted

/-- What the next characters of a word are. -/
inductive Turn where
  | finish
  | proceed (parts : Word) (depth : Nat) (isInner : Bool)
  | quotation
  | expression
  | argument (name : Text) (treatment : Treatment)

def dollar (m : Manner) : Reader (Option Turn) := do
  let part (p : Part) : Option Turn := some (.proceed [p] 0 false)
  match ← peek with
  | none => return none
  | some '(' =>
    advance
    if ← take? '(' then return some .expression
    return part (.output (← inside (list .enclosed)) m.isQuoted)
  | some '\x7b' =>
    advance
    match ← bracedName with
    | none => return some (.argument [] .unknown)
    | some (name, wantsLength) =>
      if (← peek) = some '\x7d' then
        return some (.argument name (if wantsLength then .length else .plain))
      else if wantsLength then return some (.argument name .unknown)
      else return some (.argument name (← treatment))
  | some c =>
    if isNameStart c then
      let name ← takeWhile isNameChar ((← get).rest.length + 1)
      return part (.value name .plain [] m.isQuoted)
    else if isSpecial c then
      advance
      return part (.value [c] .plain [] m.isQuoted)
    else return none

def bareChar (depth : Nat) (isInner : Bool) (acc : Word) (c : Char) : Reader Turn := do
  advance
  if c = '\'' then return .proceed (.text (← quotedText) true :: acc) depth isInner
  else if c = '"' then return .quotation
  else return .proceed (addChar c false acc) depth isInner

def plainChar (m : Manner) (depth : Nat) (isInner : Bool) (acc : Word) (c : Char) :
    Reader Turn := do
  match m with
  | .bare =>
    if endsWord c then return .finish
    else bareChar depth isInner acc c
  | .bracedBare =>
    if c = '\x7d' then
      advance
      return .finish
    else bareChar depth isInner acc c
  | .quoted =>
    advance
    if c = '"' then return .finish
    else return .proceed (addChar c true acc) depth isInner
  | .bracedQuoted =>
    advance
    if c = '"' then return .proceed (.text [] true :: acc) depth (!isInner)
    else if c = '\x7d' && !isInner then return .finish
    else return .proceed (addChar c true acc) depth isInner
  | .document =>
    advance
    return .proceed (addChar c true acc) depth isInner
  | .arithmetic =>
    advance
    if c = '(' then return .proceed (addChar c true acc) (depth + 1) isInner
    else if c = ')' then
      if depth = 0 then
        if ← take? ')' then return .finish
        else return .proceed (addChar c true acc) depth isInner
      else return .proceed (addChar c true acc) (depth - 1) isInner
    else return .proceed (addChar c true acc) depth isInner

def turn (m : Manner) (depth : Nat) (isInner : Bool) (acc : Word) : Reader Turn := do
  match (← get).rest with
  | [] =>
    match m.atEnd with
    | some cause => fail cause
    | none => return .finish
  | '\\' :: [] =>
    advance
    return .proceed (addChar '\\' true acc) depth isInner
  | '\\' :: '\n' :: _ =>
    advance
    advance
    return .proceed acc depth isInner
  | '\\' :: c :: _ =>
    advance
    if !m.isQuoted || m.escapes c then
      advance
      return .proceed (addChar c true acc) depth isInner
    else return .proceed (addChar '\\' true acc) depth isInner
  | '$' :: _ =>
    advance
    match ← dollar list m with
    | none => return .proceed (addChar '$' m.isQuoted acc) depth isInner
    | some (.proceed part _ _) => return .proceed (part ++ acc) depth isInner
    | some other => return other
  | '\x60' :: _ =>
    advance
    return .proceed ((← backquoted list m.isQuoted) :: acc) depth isInner
  | c :: _ => plainChar m depth isInner acc c

/-- The parts of a word up to its end, last first. `depth` counts open parentheses of an expression,
and `isInner` tells that a quote inside braces is open. -/
def parts : (fuel : Nat) → Manner → (depth : Nat) → (isInner : Bool) → Word →
    Reader Word
  | 0, _, _, _, _ => fail .tooDeep
  | fuel + 1, m, depth, isInner, acc => do
    match ← turn list m depth isInner acc with
    | .finish => return acc
    | .proceed acc depth isInner => parts fuel m depth isInner acc
    | .quotation =>
      let inner ← parts fuel .quoted 0 false []
      parts fuel m depth isInner ((if inner.isEmpty then [.text [] true] else inner) ++ acc)
    | .expression =>
      let e ← parts fuel .arithmetic 0 false []
      parts fuel m depth isInner (.number e.reverse m.isQuoted :: acc)
    | .argument name treatment =>
      let argument ← parts fuel (m.ofArgument treatment) 0 false []
      parts fuel m depth isInner (.value name treatment argument.reverse m.isQuoted :: acc)

def redirectionSign (c : Char) : Reader RedirectionSign := do
  if c = '>' then
    if ← take? '>' then return .file .append
    if ← take? '|' then return .file .overwrite
    if ← take? '&' then return .copy
    return .file .write
  else
    if ← take? '<' then return .document (← take? '-')
    if ← take? '&' then return .copy
    if ← take? '>' then return .file .readWrite
    return .file .read

def skipBlanks : (fuel : Nat) → Reader Unit
  | 0 => return
  | fuel + 1 => do
    match ← peek with
    | some ' ' | some '\t' =>
      advance
      skipBlanks fuel
    | some '#' => modify fun s => { s with rest := s.rest.dropWhile (· != '\n') }
    | _ => return

def rawToken : Reader Token := do
  skipBlanks ((← get).rest.length + 1)
  match ← peek with
  | none => return .stop
  | some '\n' => advance; return .newline
  | some ';' =>
    advance
    return if ← take? ';' then .caseEnd else .semicolon
  | some '&' =>
    advance
    return if ← take? '&' then .both else .ampersand
  | some '|' =>
    advance
    return if ← take? '|' then .either else .pipe
  | some '(' => advance; return .opening
  | some ')' => advance; return .closing
  | some _ =>
    let word := (← parts list ((← get).rest.length + 1) .bare 0 false []).reverse
    match word, (← get).rest.head? with
    | [], some c =>
      advance
      return .redirection (if c = '>' then 1 else 0) (← redirectionSign c)
    | [.text [d] false], some c =>
      if d.isDigit && (c == '<' || c == '>') then
        advance
        return .redirection (d.toNat - '0'.toNat) (← redirectionSign c)
      return .word word
    | _, _ => return .word word

end Words

end Reader

end ProofDesk.Shell
