import ProofDesk.Regex.Reader
import ProofDesk.Tool.Basic

namespace ProofDesk.Tool

open Job

def literalPattern (s : Text) : Text :=
  s.flatMap fun c => if "\\.[]*^$".toList.any (· == c) then ['\\', c] else [c]

def withDigitSets : Text → Text
  | '\\' :: 'd' :: s => "[0-9]".toList ++ withDigitSets s
  | '\\' :: 'D' :: s => "[^0-9]".toList ++ withDigitSets s
  | '\\' :: c :: s => '\\' :: c :: withDigitSets s
  | c :: s => c :: withDigitSets s
  | [] => []

structure Query where
  expressions : List Regex
  mode : Regex.Mode
  wholeWords : Bool
  wholeLines : Bool

namespace Query

/-- The first match of an expression that is asked for, from a place on. With whole words, a match
must not touch a further character of a word. -/
def matchFrom (q : Query) (r : Regex) : (steps : Nat) → Regex.Spot → Option Regex.Match
  | 0, _ => none
  | steps + 1, s =>
    match Regex.searchFrom q.mode r (s.rest.length + 1) s with
    | none => none
    | some m =>
      let before := if m.start = s.place then s.before else s.rest[m.start - s.place - 1]?
      let touches := Regex.isInWord before || Regex.isInWord m.stop.rest.head?
      if q.wholeLines ∧ (m.start ≠ 0 ∨ m.stop.rest ≠ []) then none
      else if q.wholeWords && touches then matchFrom q r steps (s.skip (m.start + 1 - s.place))
      else some m

/-- The first of the matches of all expressions from a place on; of those that start there, the
longest. -/
def first? (q : Query) (s : Regex.Spot) : Option Regex.Match :=
  (q.expressions.filterMap fun r => q.matchFrom r (s.rest.length + 1) s).foldl (fun best m =>
    match best with
    | none => some m
    | some b =>
      if m.start < b.start ∨ (m.start = b.start ∧ b.stop.place < m.stop.place) then some m
      else some b) none

def all (q : Query) : (steps : Nat) → Regex.Spot → List Text
  | 0, _ => []
  | steps + 1, s =>
    match q.first? s with
    | none => []
    | some m =>
      let length := m.stop.place - m.start
      if length = 0 then
        if m.stop.rest.isEmpty then [] else all q steps (m.stop.skip 1)
      else
        (s.rest.drop (m.start - s.place)).take length :: all q steps { m.stop with groups := [] }

end Query

/-- How the lines that are found are shown. -/
structure Listing where
  isInverted : Bool := false
  countsOnly : Bool := false
  numbers : Bool := false
  matchesOnly : Bool := false
  isQuiet : Bool := false
  namesWith : Bool := false
  namesWithout : Bool := false
  hasNames : Bool := false
  limit : Option Nat := none
  before : Nat := 0
  after : Nat := 0
  hasBytes : Bool := false

/-- The lines that are found, and those around them, in order: the place of each, and whether it is
itself found. -/
def withContext (before after : Nat) (found : List Bool) : List (Nat × Bool) :=
  let marked := found.zipIdx
  marked.filterMap fun (isFound, i) =>
    if isFound then some (i, true)
    else if marked.any fun (f, j) => f && ((i < j && j ≤ i + before) || (j < i && i ≤ j + after)) then
      some (i, false)
    else none

def grep : Job Unit :=
  let choices : List Choice := [⟨'E', "extended-regexp", false, false⟩,
    ⟨'F', "fixed-strings", false, false⟩, ⟨'G', "basic-regexp", false, false⟩,
    ⟨'P', "perl-regexp", false, false⟩, ⟨'e', "regexp", true, false⟩, ⟨'f', "file", true, false⟩,
    ⟨'i', "ignore-case", false, false⟩, ⟨'y', "", false, false⟩,
    ⟨'v', "invert-match", false, false⟩, ⟨'w', "word-regexp", false, false⟩,
    ⟨'x', "line-regexp", false, false⟩, ⟨'c', "count", false, false⟩,
    ⟨'l', "files-with-matches", false, false⟩, ⟨'L', "files-without-match", false, false⟩,
    ⟨'n', "line-number", false, false⟩, ⟨'o', "only-matching", false, false⟩,
    ⟨'q', "quiet", false, false⟩, ⟨'q', "silent", false, false⟩,
    ⟨'s', "no-messages", false, false⟩, ⟨'h', "no-filename", false, false⟩,
    ⟨'H', "with-filename", false, false⟩, ⟨'m', "max-count", true, false⟩,
    ⟨'A', "after-context", true, false⟩, ⟨'B', "before-context", true, false⟩,
    ⟨'C', "context", true, false⟩, ⟨'a', "text", false, false⟩, ⟨'b', "byte-offset", false, false⟩,
    ⟨'z', "null-data", false, false⟩,
    ⟨'!', "color", true, true⟩, ⟨'!', "colour", true, true⟩]
  let hint : Text := "Usage: grep [OPTION]... PATTERNS [FILE]...\n".toList ++
    "Try 'grep --help' for more information.\n".toList
  do
    match Options.readFrom choices false {} (← read).arguments with
    | .error message =>
      warn message
      note hint
      setStatus 2
    | .ok o =>
      let inFiles ← (o.values 'f').mapM fun path => do
        let complain (f : FileFailure) : Job Unit := fail 2 (path ++ ": ".toList ++ wording f)
        return (← openOr? path complain).getD []
      let isGiven := o.has 'e' || o.has 'f'
      if !isGiven && o.operands.isEmpty then
        note hint
        setStatus 2
      else
        let given := if isGiven then o.values 'e' ++ inFiles.map fun s => body s
          else o.operands.take 1
        let paths := if isGiven then o.operands else o.operands.drop 1
        let patterns := given.flatMap (Text.split '\n')
        let isExtended := o.has 'E' || o.has 'P'
        let parsed := patterns.mapM fun p =>
          if o.has 'F' then Regex.read false false (literalPattern p)
          else Regex.read isExtended false (if o.has 'P' then withDigitSets p else p)
        match parsed with
        | .error e => fail 2 e.wording.toList
        | .ok expressions =>
          if expressions.any Regex.hasBareKind then
            return ← fail 2 Regex.bareKindWording.toList
          let delimiter := if o.has 'z' then '\x00' else '\n'
          let printLine (s : Text) : Job Unit := print (s ++ [delimiter])
          let q : Query := {
            expressions, mode := { foldsCase := o.has 'i' || o.has 'y' }
            wholeWords := o.has 'w', wholeLines := o.has 'x' }
          let number (c : Char) : Option Nat := (o.value? c).bind Text.digits?
          let l : Listing := {
            isInverted := o.has 'v', countsOnly := o.has 'c', numbers := o.has 'n'
            matchesOnly := o.has 'o', isQuiet := o.has 'q', namesWith := o.has 'l'
            namesWithout := o.has 'L'
            hasNames := o.has 'H' || (1 < paths.length && !o.has 'h')
            limit := number 'm'
            before := ((number 'B').or (number 'C')).getD 0
            after := ((number 'A').or (number 'C')).getD 0
            hasBytes := o.has 'b' }
          let mut hasFound := false
          for path in if paths.isEmpty then [['-']] else paths do
            let complain (f : FileFailure) : Job Unit := do
              if !o.has 's' then warn (path ++ ": ".toList ++ wording f)
              setStatus 2
            if let some s ← openOr? path complain then
              let lines := bodiesBy delimiter s
              let name := if path = ['-'] then "(standard input)".toList else path
              let found := lines.map fun line =>
                (q.first? ⟨0, none, line, []⟩).isSome != l.isInverted
              let found := match l.limit with
                | some n => (found.foldl (fun (r : List Bool × Nat) b =>
                    if b && r.2 < n then (true :: r.1, r.2 + 1) else (false :: r.1, r.2))
                    ([], 0)).1.reverse
                | none => found
              let count := found.count true
              if 0 < count then hasFound := true
              let label (mark : Char) (i : Nat) : Text :=
                (if l.hasNames then name ++ [mark] else []) ++
                (if l.numbers then Text.ofNat (i + 1) ++ [mark] else []) ++
                (if l.hasBytes then Text.ofNat (((linesBy delimiter s).take i).flatten.length) ++ [mark]
                  else [])
              if l.isQuiet then pure ()
              else if l.namesWith then
                if 0 < count then printLine name
              else if l.namesWithout then
                if count = 0 then printLine name
              else if l.countsOnly then
                printLine ((if l.hasNames then name ++ [':'] else []) ++ Text.ofNat count)
              else if s.any (· == '\x00') && !o.has 'a' && !o.has 'z' then
                if 0 < count then warn (name ++ ": binary file matches".toList)
              else if l.matchesOnly then
                for (line, i) in lines.zipIdx do
                  if (found[i]?).getD false && !l.isInverted then
                    for m in q.all (line.length + 1) ⟨0, none, line, []⟩ do
                      printLine (label ':' i ++ m)
              else
                let mut last : Option Nat := none
                for (i, isFound) in withContext l.before l.after found do
                  if 0 < l.before + l.after then
                    if let some j := last then
                      if j + 1 < i then printLine "--".toList
                  last := some i
                  printLine (label (if isFound then ':' else '-') i ++ (lines[i]?).getD [])
          if (← get).status = 0 || (l.isQuiet && hasFound) then setStatus (if hasFound then 0 else 1)

end ProofDesk.Tool
