import ProofDesk.Shell.Escape
import ProofDesk.Tool.Substitute
import ProofDesk.Tool.Basic

namespace ProofDesk.Tool

/-- The lines that a command is for. -/
inductive LineAddress where
  | number (n : Nat)
  | last
  | matching (r : Option Regex) (mode : Regex.Mode)
  | step (first by' : Nat)
deriving DecidableEq, Repr

/-- Where a range of lines ends. -/
inductive RangeEnd where
  | address (a : LineAddress)
  | count (n : Nat)
  | multiple (n : Nat)
deriving DecidableEq, Repr

/-- What is done with a line. Places are those of commands in the script. -/
inductive EditAction where
  | opening (stop : Nat)
  | closing
  | label (name : Text)
  | substitute (r : Option Regex) (mode : Regex.Mode) (parts : List ReplacementPart)
      (which : Replacing) (prints : Bool) (path : Option Text)
  | translate (source target : Text)
  | print
  | printFirst
  | delete
  | deleteFirst
  | next
  | appendNext
  | hold
  | appendHold
  | get
  | appendGet
  | exchange
  | lineNumber
  | list
  | quit (silent : Bool) (status : Nat)
  | jump (label : Text)
  | jumpIf (label : Text)
  | jumpUnless (label : Text)
  | append (s : Text)
  | insert (s : Text)
  | change (s : Text)
  | readFile (path : Text)
  | readFileLine (path : Text)
  | writeFile (path : Text) (firstOnly : Bool)
  | clear
  | nothing
deriving DecidableEq, Repr

/-- A command of a script. -/
structure EditCommand where
  first : Option LineAddress := none
  last : Option RangeEnd := none
  isNegated : Bool := false
  action : EditAction
deriving DecidableEq, Repr

/-- What is wrong with a script. -/
inductive EditFault where
  | unknownCommand (c : Char)
  | missingCommand
  | extraCharacters
  | openSubstitution
  | openTranslation
  | unequalTranslation
  | openAddress
  | unknownFlag
  | doubleFlag (c : Char)
  | openBlock
  | closedBlock
  | missingText
  | missingLabel
  | missingPath
  | noAddress (c : Char)
  | oneAddress
  | noPrevious
  | noSuchLabel (name : Text)
  | badReference (n : Nat)
  | zeroAddress
  | expression (m : Regex.Misreading)
  | bareKind
deriving DecidableEq, Repr

def EditFault.message : EditFault → Text
  | unknownCommand c => "unknown command: \x60".toList ++ [c, '\'']
  | missingCommand => "missing command".toList
  | extraCharacters => "extra characters after command".toList
  | openSubstitution => "unterminated \x60s' command".toList
  | openTranslation => "unterminated \x60y' command".toList
  | unequalTranslation => "strings for \x60y' command are different lengths".toList
  | openAddress => "unterminated address regex".toList
  | unknownFlag => "unknown option to \x60s'".toList
  | doubleFlag c => "multiple \x60".toList ++ [c] ++ "' options to \x60s' command".toList
  | openBlock => "unmatched \x60\x7b'".toList
  | closedBlock => "unexpected \x60\x7d'".toList
  | missingText => "expected \\ after \x60a', \x60c' or \x60i'".toList
  | missingLabel => "\":\" lacks a label".toList
  | missingPath => "missing filename in r/R/w/W commands".toList
  | noAddress c => [c] ++ " doesn't want any addresses".toList
  | oneAddress => "command only uses one address".toList
  | noPrevious => "no previous regular expression".toList
  | noSuchLabel name => "can't find label for jump to \x60".toList ++ name ++ ['\'']
  | badReference n => "invalid reference \\".toList ++ Text.ofNat n ++ " on \x60s' command's RHS".toList
  | zeroAddress => "invalid usage of line address 0".toList
  | expression m => m.wording.toList
  | bareKind => Regex.bareKindWording.toList

def EditFault.isLocated : EditFault → Bool
  | noSuchLabel _ | bareKind => false
  | _ => true

def EditFault.status : EditFault → Nat
  | bareKind => 4
  | _ => 1

namespace EditScript

/-- A script that is being read. -/
structure Source where
  rest : Text
  place : Nat := 0
  isExtended : Bool
  commands : List EditCommand := []
  blocks : List (Nat × Nat) := []

abbrev Reader := StateT Source (Except (Nat × EditFault))

def fail {α : Type} (f : EditFault) : Reader α := do
  throw ((← get).place, f)

def peek : Reader (Option Char) := do
  return (← get).rest.head?

def advance : Reader Unit :=
  modify fun s => { s with rest := s.rest.drop 1, place := s.place + min 1 s.rest.length }

def skipWhile (p : Char → Bool) : Reader Text := do
  let s ← get
  let t := s.rest.takeWhile p
  set { s with rest := s.rest.drop t.length, place := s.place + t.length }
  return t

def skipBlanks : Reader Unit := do
  let _ ← skipWhile fun c => c == ' ' || c == '\t'

def number? : Reader (Option Nat) := do
  return Text.digits? (← skipWhile Char.isDigit)

def bracketed : (fuel : Nat) → (isFirst : Bool) → Text → Option (Text × Text)
  | 0, _, _ => none
  | _, _, [] => none
  | fuel + 1, _, '[' :: c :: rest =>
    if c = ':' ∨ c = '.' ∨ c = '=' then
      match Text.find? [c, ']'] rest with
      | some (name, rest) =>
        (bracketed fuel false rest).map fun r => ('[' :: c :: name ++ c :: ']' :: r.1, r.2)
      | none => none
    else (bracketed fuel false (c :: rest)).map fun r => ('[' :: r.1, r.2)
  | fuel + 1, isFirst, c :: rest =>
    if c = ']' ∧ ¬ isFirst then some ([c], rest)
    else (bracketed fuel (isFirst && c == '^') rest).map fun r => (c :: r.1, r.2)

/-- The text up to a delimiter that is neither escaped nor, in an expression, in brackets. In an
expression an escaped delimiter stands for itself. -/
def delimited (delimiter : Char) (isExpression : Bool) : (fuel : Nat) → Text →
    Option (Text × Text)
  | 0, _ => none
  | _, [] => none
  | fuel + 1, '\\' :: c :: rest =>
    (delimited delimiter isExpression fuel rest).map fun r =>
      (if c = delimiter ∧ isExpression then c :: r.1 else '\\' :: c :: r.1, r.2)
  | fuel + 1, c :: rest =>
    if c = delimiter then some ([], rest)
    else if c = '\n' ∧ isExpression then none
    else if c = '[' ∧ isExpression then
      match bracketed (rest.length + 1) true rest with
      | some (set, rest) =>
        (delimited delimiter isExpression fuel rest).map fun r => (c :: set ++ r.1, r.2)
      | none => none
    else (delimited delimiter isExpression fuel rest).map fun r => (c :: r.1, r.2)

def takeDelimited (delimiter : Char) (isExpression : Bool) (f : EditFault) : Reader Text := do
  let s ← get
  match delimited delimiter isExpression (s.rest.length + 1) s.rest with
  | some (t, rest) =>
    set { s with rest, place := s.place + (s.rest.length - rest.length) }
    return t
  | none =>
    set { s with rest := [], place := s.place + s.rest.length }
    fail f

def expression (t : Text) : Reader (Option Regex) := do
  if t = [] then return none
  match Regex.read (← get).isExtended true t with
  | .ok r =>
    if r.hasBareKind then fail .bareKind
    return some r
  | .error m => fail (.expression m)

def replacement : (fuel : Nat) → Text → List ReplacementPart
  | 0, _ => []
  | _, [] => []
  | fuel + 1, '&' :: s => .group 0 :: replacement fuel s
  | fuel + 1, '\\' :: c :: s =>
    let part : ReplacementPart :=
      if c.isDigit then .group (c.toNat - '0'.toNat)
      else match c with
        | 'n' => .text ['\n']
        | 't' => .text ['\t']
        | 'r' => .text ['\r']
        | 'a' => .text [Char.ofNat 7]
        | 'f' => .text [Char.ofNat 12]
        | 'v' => .text [Char.ofNat 11]
        | 'U' => .case .upper
        | 'L' => .case .lower
        | 'E' => .case .asGiven
        | 'u' => .case .nextUpper
        | 'l' => .case .nextLower
        | c => .text [c]
    part :: replacement fuel s
  | fuel + 1, c :: s => .text [c] :: replacement fuel s

def address? : Reader (Option LineAddress) := do
  let flags (t : Text) : Reader (Option LineAddress) := do
    let letters ← skipWhile fun c => c == 'I' || c == 'M'
    let mode : Regex.Mode :=
      { foldsCase := letters.any (· == 'I'), hasLines := letters.any (· == 'M') }
    return some (.matching (← expression t) mode)
  match ← peek with
  | some '$' => advance; return some .last
  | some '/' =>
    advance
    flags (← takeDelimited '/' true .openAddress)
  | some '\\' =>
    advance
    match ← peek with
    | some d =>
      advance
      flags (← takeDelimited d true .openAddress)
    | none => fail .openAddress
  | some c =>
    if c.isDigit then
      let n ← number?
      if (← peek) = some '~' then
        advance
        return some (.step (n.getD 0) ((← number?).getD 0))
      return some (.number (n.getD 0))
    return none
  | none => return none

def rangeEnd : Reader RangeEnd := do
  match ← peek with
  | some '+' => advance; return .count ((← number?).getD 0)
  | some '~' => advance; return .multiple ((← number?).getD 0)
  | _ =>
    match ← address? with
    | some a => return .address a
    | none => fail (.unknownCommand ',')

def endCommand : Reader Unit := do
  skipBlanks
  match ← peek with
  | none => return
  | some c =>
    if c = '\x7d' ∨ c = '#' then return
    advance
    if c ≠ ';' ∧ c ≠ '\n' then fail .extraCharacters

/-- The text that is appended, inserted or put in the place of lines. A backslash keeps a line end
in it, and blanks at its start. -/
def textArgument : Reader Text := do
  skipBlanks
  if (← peek) = none then fail .missingText
  if (← peek) = some '\\' then
    advance
    if (← peek) = some '\n' then advance
    else if (← peek) = none then fail .missingText
  let s ← get
  let (t, rest) := go (s.rest.length + 1) s.rest
  set { s with rest, place := s.place + (s.rest.length - rest.length) }
  return t
where
  go : (fuel : Nat) → Text → Text × Text
    | 0, s => ([], s)
    | _, [] => (['\n'], [])
    | _, ['\\'] => (['\n'], [])
    | fuel + 1, '\\' :: c :: s =>
      let (t, rest) := go fuel s
      let meant := match c with
        | 'a' => Char.ofNat 7
        | 'f' => Char.ofNat 12
        | 'n' => '\n'
        | 'r' => '\r'
        | 't' => '\t'
        | 'v' => Char.ofNat 11
        | c => c
      (meant :: t, rest)
    | fuel + 1, c :: s =>
      if c = '\n' then (['\n'], s)
      else
        let (t, rest) := go fuel s
        (c :: t, rest)

def wordArgument (endsAtSemicolon : Bool) : Reader Text := do
  skipBlanks
  skipWhile fun c => c != '\n' && !(endsAtSemicolon && (c == ';' || c == ' '))

/-- The flags of a substitution. -/
structure Flags where
  which : Replacing := {}
  hasNumber : Bool := false
  prints : Bool := false
  mode : Regex.Mode := {}
  path : Option Text := none

def flags : (fuel : Nat) → Flags → Reader Flags
  | 0, f => return f
  | fuel + 1, f => do
    match ← peek with
    | some 'g' =>
      advance
      if f.which.isGlobal then fail (.doubleFlag 'g')
      flags fuel { f with which := { f.which with isGlobal := true } }
    | some 'p' =>
      advance
      if f.prints then fail (.doubleFlag 'p')
      flags fuel { f with prints := true }
    | some 'i' | some 'I' =>
      advance
      flags fuel { f with mode := { f.mode with foldsCase := true } }
    | some 'm' | some 'M' =>
      advance
      flags fuel { f with mode := { f.mode with hasLines := true } }
    | some 'e' =>
      advance
      flags fuel f
    | some 'w' =>
      advance
      return { f with path := some (← wordArgument false) }
    | some c =>
      if c.isDigit then
        let n := (← number?).getD 0
        flags fuel { f with which := { f.which with first := n }, hasNumber := true }
      else if c = '\x7d' ∨ c = '#' then return f
      else if c = '\n' ∨ c = ';' then
        advance
        return f
      else if c = ' ' ∨ c = '\t' then
        advance
        flags fuel f
      else
        advance
        fail .unknownFlag
    | none => return f

def exchangeSet : Text → Text
  | '\\' :: 'n' :: s => '\n' :: exchangeSet s
  | '\\' :: 't' :: s => '\t' :: exchangeSet s
  | '\\' :: c :: s => c :: exchangeSet s
  | c :: s => c :: exchangeSet s
  | [] => []

def action (c : Char) : Reader EditAction := do
  let plain (a : EditAction) : Reader EditAction := do
    endCommand
    return a
  match c with
  | 's' =>
    let some d ← peek | fail .openSubstitution
    advance
    let t ← takeDelimited d true .openSubstitution
    let u ← takeDelimited d false .openSubstitution
    let u := unescapeDelimiter d u
    let f ← flags ((← get).rest.length + 1) {}
    let r ← expression t
    let parts := replacement (u.length + 1) u
    let most := parts.foldl (fun n p => match p with
      | .group k => max n k
      | _ => n) 0
    if (r.map Regex.groupCount).getD 9 < most then fail (.badReference most)
    return .substitute r f.mode parts f.which f.prints f.path
  | 'y' =>
    let some d ← peek | fail .openTranslation
    advance
    let a ← takeDelimited d false .openTranslation
    let b ← takeDelimited d false .openTranslation
    let a := exchangeSet a
    let b := exchangeSet b
    if a.length ≠ b.length then fail .unequalTranslation
    plain (.translate a b)
  | 'p' => plain .print
  | 'P' => plain .printFirst
  | 'd' => plain .delete
  | 'D' => plain .deleteFirst
  | 'n' => plain .next
  | 'N' => plain .appendNext
  | 'h' => plain .hold
  | 'H' => plain .appendHold
  | 'g' => plain .get
  | 'G' => plain .appendGet
  | 'x' => plain .exchange
  | '=' => plain .lineNumber
  | 'z' => plain .clear
  | 'l' =>
    skipBlanks
    let _ ← number?
    plain .list
  | 'q' | 'Q' =>
    skipBlanks
    let n ← number?
    plain (.quit (c == 'Q') (n.getD 0))
  | 'b' => return .jump (← labelArgument)
  | 't' => return .jumpIf (← labelArgument)
  | 'T' => return .jumpUnless (← labelArgument)
  | ':' =>
    let name ← wordArgument true
    if name = [] then fail .missingLabel
    plain (.label name)
  | 'a' => return .append (← textArgument)
  | 'i' => return .insert (← textArgument)
  | 'c' => return .change (← textArgument)
  | 'r' | 'R' =>
    let path ← wordArgument false
    if path = [] then fail .missingPath
    return if c = 'r' then .readFile path else .readFileLine path
  | 'w' | 'W' =>
    let path ← wordArgument false
    if path = [] then fail .missingPath
    return .writeFile path (c == 'W')
  | '#' =>
    let _ ← skipWhile (· != '\n')
    return .nothing
  | c => fail (.unknownCommand c)
where
  unescapeDelimiter (d : Char) : Text → Text
    | '\\' :: c :: s =>
      if c = d ∧ c ≠ '&' ∧ c ≠ 'n' ∧ ¬ c.isDigit then c :: unescapeDelimiter d s
      else '\\' :: c :: unescapeDelimiter d s
    | c :: s => c :: unescapeDelimiter d s
    | [] => []
  labelArgument : Reader Text := do
    skipBlanks
    let name ← skipWhile fun c => c != '\n' && c != ';' && c != '\x7d' && c != ' '
    endCommand
    return name

def push (c : EditCommand) : Reader Unit :=
  modify fun s => { s with commands := s.commands ++ [c] }

def commands : (fuel : Nat) → Reader Unit
  | 0 => return
  | fuel + 1 => do
    let _ ← skipWhile fun c => c == ' ' || c == '\t' || c == '\n' || c == ';'
    if (← peek) = none then
      if let (_, place) :: _ := (← get).blocks then throw (0 * place, .openBlock)
      return
    let first ← address?
    skipBlanks
    let last ← if first.isSome ∧ (← peek) = some ',' then do
        advance
        skipBlanks
        some <$> rangeEnd
      else pure none
    skipBlanks
    let isNegated := (← peek) == some '!'
    if isNegated then
      let _ ← skipWhile fun c => c == '!' || c == ' '
    match first, last with
    | some (.number 0), some (.address (.matching _ _)) => pure ()
    | some (.number 0), _ => fail .zeroAddress
    | _, _ => pure ()
    let make (a : EditAction) : EditCommand := { first, last, isNegated, action := a }
    match ← peek with
    | none => fail .missingCommand
    | some '\x7b' =>
      advance
      let s ← get
      set { s with blocks := (s.commands.length, s.place) :: s.blocks }
      push (make (.opening 0))
    | some '\x7d' =>
      advance
      if first.isSome then fail (.noAddress '\x7d')
      let s ← get
      match s.blocks with
      | [] => fail .closedBlock
      | (start, _) :: blocks =>
        let stop := s.commands.length
        set { s with
          blocks
          commands := s.commands.modify start fun c => { c with action := .opening stop } }
        push (make .closing)
        endCommand
    | some c =>
      advance
      if c = ':' ∧ first.isSome then fail (.noAddress ':')
      push (make (← action c))
    commands fuel

def checkLabels (all : List EditCommand) : Except (Nat × EditFault) Unit :=
  let labels := all.filterMap fun c =>
    match c.action with
    | .label name => some name
    | _ => none
  all.forM fun c =>
    match c.action with
    | .jump name | .jumpIf name | .jumpUnless name =>
      if name = [] ∨ labels.contains name then .ok () else .error (0, .noSuchLabel name)
    | _ => .ok ()

def read (isExtended : Bool) (script : Text) : Except (Nat × EditFault) (List EditCommand) := do
  let (_, s) ← (commands (script.length + 1)).run { rest := script, isExtended }
  checkLabels s.commands
  return s.commands

end EditScript

end ProofDesk.Tool
