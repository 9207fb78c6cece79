import ProofDesk.Tool.EditScript

namespace ProofDesk.Tool

open Job

/-- An edit at work. -/
structure Editor where
  /-- The lines that are still to come, each with its end. -/
  lines : List Text
  number : Nat := 0
  pattern : Text := []
  isEnded : Bool := true
  held : Text := []
  isHeldEnded : Bool := true
  pending : List Text := []
  /-- What has been written, last first, and whether it stops in a line. -/
  written : Text := []
  isOpen : Bool := false
  hasChanged : Bool := false
  /-- For each command, the line with which its range ends; zero for none known yet. -/
  ranges : List (Nat × Option Nat) := []
  lastExpression : Option (Regex × Regex.Mode) := none
  complaint : Option EditFault := none
  status : Nat := 0
  paths : List (Text × Text) := []
  /-- What has been written to files that are where all else is written stops in a line. -/
  isAsideOpen : Bool := false
  linesRead : List (Text × Nat) := []
  delimiter : Char := '\n'

namespace Editor

/-- Writes a text, on a new line if what was written before stops in a line; an empty text ends that
line too. -/
def write (e : Editor) (s : Text) : Editor :=
  let before := if e.isOpen then e.delimiter :: e.written else e.written
  { e with written := s.foldl (fun w c => c :: w) before, isOpen := false }

def ended (e : Editor) (s : Text) : Text :=
  if e.isEnded then s ++ [e.delimiter] else s

def writeLine (e : Editor) (s : Text) : Editor :=
  let before := if e.isOpen then e.delimiter :: e.written else e.written
  { e with
    written := (e.ended s).foldl (fun w c => c :: w) before, isOpen := !e.isEnded }

def writeTo (e : Editor) (path s : Text) : Editor :=
  if path = "/dev/stdout".toList then
    let before := if e.isAsideOpen then e.delimiter :: e.written else e.written
    { e with written := (e.ended s).foldl (fun w c => c :: w) before, isAsideOpen := !e.isEnded }
  else { e with paths := e.paths ++ [(path, e.ended s)] }

def nextLineOf (e : Editor) (path text : Text) : Option Text × Editor :=
  let n := ((e.linesRead.find? fun r => r.1 == path).map Prod.snd).getD 0
  match (linesBy e.delimiter text)[n]? with
  | none => (none, e)
  | some line =>
    let others := e.linesRead.filter fun r => r.1 != path
    (some (bodyBy e.delimiter line ++ [e.delimiter]), { e with linesRead := (path, n + 1) :: others })

def flush (e : Editor) : Editor :=
  { e.pending.foldl write e with pending := [] }

def readLine? (e : Editor) : Option Editor :=
  match e.lines with
  | [] => none
  | l :: rest => some { e with
      lines := rest, number := e.number + 1
      pattern := if l.getLast? = some e.delimiter then l.dropLast else l
      isEnded := l.getLast? = some e.delimiter }

def isLast (e : Editor) : Bool :=
  e.lines.isEmpty

def meant (e : Editor) (r : Option Regex) (mode : Regex.Mode) :
    Option (Regex × Regex.Mode) × Editor :=
  match r with
  | some r => (some (r, mode), { e with lastExpression := some (r, mode) })
  | none => (e.lastExpression, e)

def fits (e : Editor) : LineAddress → Bool × Editor
  | .number n => (e.number == n, e)
  | .last => (e.isLast, e)
  | .step first by' =>
    (if by' = 0 then e.number == first
      else first ≤ e.number && (e.number - first) % by' == 0, e)
  | .matching r mode =>
    match e.meant r mode with
    | (some (r, mode), e) => ((Regex.search mode r e.pattern).isSome, e)
    | (none, e) => (false, { e with complaint := some .noPrevious })

def selects (e : Editor) (place : Nat) (c : EditCommand) : Bool × Editor :=
  let setRange (e : Editor) (last : Option (Option Nat)) : Editor :=
    let others := e.ranges.filter fun r => r.1 != place
    { e with ranges := match last with
      | some l => (place, l) :: others
      | none => others }
  let (isSelected, e) : Bool × Editor := match c.first, c.last with
    | none, _ => (true, e)
    | some a, none => e.fits a
    | some a, some stop =>
      match (e.ranges.find? fun r => r.1 == place).map Prod.snd with
      | some (some n) =>
        /- The range is open up to a line. -/
        if e.number < n then (true, e)
        else if e.number = n then (true, setRange e none)
        else
          /- The range has ended before; it may start anew. -/
          let e := setRange e none
          match e.fits a with
          | (true, e) => begin' e setRange stop
          | (false, e) => (false, e)
      | some none =>
        match stop with
        | .address b =>
          match e.fits b with
          | (true, e) => (true, setRange e none)
          | (false, e) => (true, e)
        | _ => (true, e)
      | none =>
        if a = .number 0 ∧ e.number = 1 then
          match stop with
          | .address b =>
            match e.fits b with
            | (true, e) => (true, e)
            | (false, e) => (true, setRange e (some none))
          | _ => (true, e)
        else
          match e.fits a with
          | (true, e) => begin' e setRange stop
          | (false, e) => (false, e)
  (isSelected != c.isNegated, e)
where
  begin' (e : Editor) (setRange : Editor → Option (Option Nat) → Editor) (stop : RangeEnd) :
      Bool × Editor :=
    match stop with
    | .address (.number n) => (true, if n ≤ e.number then e else setRange e (some (some n)))
    | .count n => (true, if n = 0 then e else setRange e (some (some (e.number + n))))
    | .multiple n =>
      let last := if n = 0 then e.number else (e.number / n + 1) * n
      (true, if last ≤ e.number then e else setRange e (some (some last)))
    | .address _ => (true, setRange e (some none))

/-- How the script goes on. -/
inductive Flow where
  | next
  | jump (place : Nat)
  | done (prints : Bool)
  | again
  | quit (prints : Bool)
deriving DecidableEq, Repr

def listing (s : Text) : Text :=
  let shown : List Text := s.map fun c =>
    let n := c.toNat
    if c = '\\' then ['\\', '\\']
    else if n = 7 then ['\\', 'a'] else if n = 8 then ['\\', 'b']
    else if n = 12 then ['\\', 'f'] else if n = 10 then ['\\', 'n']
    else if n = 13 then ['\\', 'r'] else if n = 9 then ['\\', 't']
    else if n = 11 then ['\\', 'v']
    else if 32 ≤ n ∧ n < 127 then [c]
    else
      let digits := Nat.toDigits 8 n
      '\\' :: (List.replicate (3 - digits.length) '0' ++ digits)
  let (lines, line) := shown.foldl (fun (r : Text × Text) piece =>
    if 69 < r.2.length + piece.length then (r.1 ++ r.2 ++ ['\\', '\n'], piece)
    else (r.1, r.2 ++ piece)) ([], [])
  lines ++ line ++ ['$', '\n']

def firstLine? (e : Editor) : Option Text :=
  if e.pattern.any (· == e.delimiter) then some (e.pattern.takeWhile (· != e.delimiter)) else none

def perform (script : List EditCommand) (quiet : Bool) (place : Nat) (c : EditCommand)
    (readFile : Text → Option Text) (e : Editor) : Flow × Editor :=
  let jump (name : Text) : Flow :=
    if name = [] then .done true
    else match script.findIdx? fun d => d.action == .label name with
      | some n => .jump n
      | none => .done true
  match c.action with
  | .opening _ | .closing | .label _ | .nothing => (.next, e)
  | .substitute r mode parts which prints path =>
    match e.meant r mode with
    | (none, e) => (.quit false, { e with complaint := some .noPrevious })
    | (some (r, mode), e) =>
      match replace? mode r parts which e.pattern with
      | none => (.next, e)
      | some s =>
        let e := { e with pattern := s, hasChanged := true }
        let e := if prints then e.writeLine s else e
        (.next, match path with
          | some path => e.writeTo path s
          | none => e)
  | .translate source target =>
    (.next, { e with pattern := e.pattern.map fun d =>
      match source.idxOf? d with
      | some i => (target[i]?).getD d
      | none => d })
  | .print => (.next, e.writeLine e.pattern)
  | .printFirst =>
    (.next, match e.firstLine? with
      | some line => e.write (line ++ [e.delimiter])
      | none => e.writeLine e.pattern)
  | .delete => (.done false, e)
  | .deleteFirst =>
    match e.firstLine? with
    | some line => (.again, { e with pattern := e.pattern.drop (line.length + 1) })
    | none => (.done false, e)
  | .next =>
    if e.isLast then (.quit (!quiet), e)
    else
      let e := if quiet then e else e.writeLine e.pattern
      (.next, e.flush.readLine?.getD e)
  | .appendNext =>
    if e.isLast then (.quit (!quiet), e)
    else
      let before := e.pattern
      match e.flush.readLine? with
      | some e => (.next, { e with pattern := before ++ e.delimiter :: e.pattern })
      | none => (.next, e)
  | .hold => (.next, { e with held := e.pattern, isHeldEnded := e.isEnded })
  | .appendHold =>
    (.next, { e with held := e.held ++ e.delimiter :: e.pattern, isHeldEnded := e.isEnded })
  | .get => (.next, { e with pattern := e.held, isEnded := e.isHeldEnded })
  | .appendGet =>
    (.next, { e with pattern := e.pattern ++ e.delimiter :: e.held, isEnded := e.isHeldEnded })
  | .exchange =>
    (.next, { e with
      pattern := e.held, held := e.pattern, isEnded := e.isHeldEnded, isHeldEnded := e.isEnded })
  | .lineNumber => (.next, e.write (Text.ofNat e.number ++ ['\n']))
  | .list => (.next, e.write (listing e.pattern))
  | .quit silent status => (.quit (!silent && !quiet), { e with status })
  | .jump name => (jump name, e)
  | .jumpIf name =>
    if e.hasChanged then (jump name, { e with hasChanged := false }) else (.next, e)
  | .jumpUnless name =>
    if e.hasChanged then (.next, { e with hasChanged := false }) else (jump name, e)
  | .append s => (.next, { e with pending := e.pending ++ [s] })
  | .insert s => (.next, e.write s)
  | .change s =>
    let isOpen := (e.ranges.any fun r => r.1 == place) && !c.isNegated && c.last.isSome
    (.done false, if isOpen then e else e.write s)
  | .readFile path =>
    (.next, { e with pending := e.pending ++ [(readFile path).getD []] })
  | .readFileLine path =>
    let (line, e) := e.nextLineOf path ((readFile path).getD [])
    (.next, { e with pending := e.pending ++ line.toList })
  | .writeFile path firstOnly =>
    (.next, e.writeTo path (if firstOnly then e.firstLine?.getD e.pattern else e.pattern))
  | .clear => (.next, { e with pattern := [] })

def runLine (script : List EditCommand) (quiet : Bool) (readFile : Text → Option Text) :
    (fuel : Nat) → (place : Nat) → Editor → Flow × Editor
  | 0, _, e => (.done true, e)
  | fuel + 1, place, e =>
    match script[place]? with
    | none => (.done true, e)
    | some c =>
      match e.selects place c with
      | (false, e) =>
        match c.action with
        | .opening stop => runLine script quiet readFile fuel (stop + 1) e
        | _ => runLine script quiet readFile fuel (place + 1) e
      | (true, e) =>
        match perform script quiet place c readFile e with
        | (.next, e) => runLine script quiet readFile fuel (place + 1) e
        | (.jump n, e) => runLine script quiet readFile fuel n e
        | (flow, e) => (flow, e)

def runLines (script : List EditCommand) (quiet : Bool) (readFile : Text → Option Text) :
    (fuel : Nat) → (isAgain : Bool) → Editor → Editor
  | 0, _, e => e
  | fuel + 1, isAgain, e =>
    match if isAgain then some e else e.readLine? with
    | none => e
    | some e =>
      let (flow, e) := runLine script quiet readFile 100000 0 { e with hasChanged := false }
      let printed (prints : Bool) (e : Editor) : Editor :=
        (if prints then e.writeLine e.pattern else e).flush
      match flow with
      | .again => runLines script quiet readFile fuel true (printed false e)
      | .quit prints => printed prints e
      | .done prints => runLines script quiet readFile fuel false (printed (prints && !quiet) e)
      | _ => runLines script quiet readFile fuel false (printed (!quiet) e)

end Editor

def editUsage : Text :=
  ("Usage: sed [OPTION]... \x7bscript-only-if-no-other-script\x7d [input-file]...\n" ++
  "\n").toList

def sed : Job Unit :=
  let choices : List Choice := [⟨'n', "quiet", false, false⟩, ⟨'n', "silent", false, false⟩,
    ⟨'e', "expression", true, false⟩, ⟨'f', "file", true, false⟩,
    ⟨'E', "regexp-extended", false, false⟩, ⟨'r', "", false, false⟩,
    ⟨'s', "separate", false, false⟩, ⟨'u', "unbuffered", false, false⟩,
    ⟨'i', "in-place", true, true⟩, ⟨'z', "null-data", false, false⟩,
    ⟨'l', "line-length", true, false⟩]
  do
    match Options.readFrom choices false {} (← read).arguments with
    | .error message =>
      warn message
      note editUsage
      setStatus 1
    | .ok o =>
      let isGiven := o.has 'e' || o.has 'f'
      let inFiles ← (o.values 'f').mapM fun path => do
        let complain (f : FileFailure) : Job Unit :=
          fail 1 ("couldn't open file ".toList ++ path ++ ": ".toList ++ wording f)
        return body ((← openOr? path complain).getD [])
      if (← get).status ≠ 0 then return
      if !isGiven && o.operands.isEmpty then
        note editUsage
        setStatus 1
      else
        let given := if isGiven then o.values 'e' ++ inFiles else o.operands.take 1
        let paths := if isGiven then o.operands else o.operands.drop 1
        match EditScript.read (o.has 'E' || o.has 'r') (Text.join ['\n'] given) with
        | .error (place, f) =>
          let where' := "-e expression #1, char ".toList ++ Text.ofNat place ++ ": ".toList
          fail f.status ((if f.isLocated then where' else []) ++ f.message)
        | .ok script =>
          let quiet := o.has 'n'
          let call ← read
          let files := (← get).files
          let readFile (path : Text) : Option Text :=
            (files.read (Text.joinPath call.directory path)).toOption
          let run (s : Text) : Editor :=
            let delimiter := if o.has 'z' then '\x00' else '\n'
            Editor.runLines script quiet readFile (2 * s.length + 100000) false
              { lines := linesBy delimiter s, delimiter }
          let complain (path : Text) (f : FileFailure) : Job Unit :=
            if f = .isDirectory then
              fail 2 ("couldn't edit ".toList ++ path ++ ": not a regular file".toList)
            else fail 2 ("can't read ".toList ++ path ++ ": ".toList ++ wording f)
          let finish (e : Editor) : Job Unit := do
            if let some f := e.complaint then fail 1 f.message
            if e.status ≠ 0 then setStatus e.status
            let targets := (e.paths.map Prod.fst).eraseDups
            for path in targets do
              let _ ← writeFile path
                ((e.paths.filter fun p => p.1 == path).flatMap Prod.snd) false
          if o.has 'i' then
            if paths.isEmpty then fail 1 "no input files".toList
            for path in paths do
              if let some s ← openOr? path (complain path) then
                let e := run s
                let _ ← writeFile path e.written.reverse false
                finish e
          else
            let texts ← openAll paths complain
            /- A line end is missing only at the end of the last text. -/
            let whole := texts.foldl (fun s t =>
              if s = [] ∨ s.getLast? = some '\n' then s ++ t.2 else s ++ '\n' :: t.2) []
            let e := run whole
            print e.written.reverse
            finish e

end ProofDesk.Tool
