import ProofDesk.Tool.Basic

namespace ProofDesk.Tool

open Job

def visible (c : Char) : Text :=
  let n := c.toNat
  let low (n : Nat) : Text :=
    if n < 32 then ['^', Char.ofNat (n + 64)] else if n = 127 then ['^', '?'] else [Char.ofNat n]
  if n < 128 then low n else "M-".toList ++ low (n - 128)

/-- How `cat` shows its lines. -/
structure Display where
  numbers : Bool := false
  numbersFilled : Bool := false
  squeezes : Bool := false
  showsEnds : Bool := false
  showsTabs : Bool := false
  showsControls : Bool := false
deriving DecidableEq, Repr

namespace Display

def char (d : Display) (c : Char) : Text :=
  if c = '\t' then (if d.showsTabs then "^I".toList else [c])
  else if d.showsControls then visible c
  else [c]

/-- The lines as they are shown; `number` is that of the next line, and `wasEmpty` tells that the
line before was empty. -/
def lines (d : Display) : (number : Nat) → (wasEmpty : Bool) → List Text → List Text
  | _, _, [] => []
  | number, wasEmpty, line :: rest =>
    let shown := body line
    let isEmpty := shown = []
    if d.squeezes ∧ wasEmpty ∧ isEmpty then lines d number true rest
    else
      let isNumbered := if d.numbersFilled then !isEmpty else d.numbers
      let label := if isNumbered then padLeft 6 (Text.ofNat number) ++ ['\t'] else []
      let ending := if line.length = shown.length then []
        else if d.showsEnds then "$\n".toList else ['\n']
      (label ++ shown.flatMap d.char ++ ending) ::
        lines d (if isNumbered then number + 1 else number) isEmpty rest

end Display

def cat : Job Unit :=
  let choices : List Choice := [⟨'A', "show-all", false, false⟩,
    ⟨'b', "number-nonblank", false, false⟩, ⟨'e', "", false, false⟩,
    ⟨'E', "show-ends", false, false⟩, ⟨'n', "number", false, false⟩,
    ⟨'s', "squeeze-blank", false, false⟩, ⟨'t', "", false, false⟩,
    ⟨'T', "show-tabs", false, false⟩, ⟨'u', "", false, false⟩,
    ⟨'v', "show-nonprinting", false, false⟩]
  withOptions choices 1 fun o => do
    let d : Display := {
      numbers := o.has 'n', numbersFilled := o.has 'b', squeezes := o.has 's'
      showsEnds := o.has 'A' || o.has 'E' || o.has 'e'
      showsTabs := o.has 'A' || o.has 'T' || o.has 't'
      showsControls := o.has 'A' || o.has 'v' || o.has 'e' || o.has 't' }
    let texts ← if d = {} then do
        for path in if o.operands.isEmpty then [['-']] else o.operands do
          if let some s ← openOr? path (blame path) then print s
        pure []
      else openAll o.operands blame
    if !texts.isEmpty then
      print (d.lines 1 false (linesOf (texts.flatMap Prod.snd))).flatten

def tac : Job Unit :=
  withOptions [] 1 fun o => do
    for path in if o.operands.isEmpty then [['-']] else o.operands do
      let complain (f : FileFailure) : Job Unit :=
        fail 1 ("failed to open ".toList ++ quote path ++ " for reading: ".toList ++ wording f)
      if let some s ← openOr? path complain then print (linesOf s).reverse.flatten

def rev : Job Unit :=
  withOptions [] 1 fun o => do
    let complain (path : Text) (f : FileFailure) : Job Unit :=
      fail 1 ("cannot open ".toList ++ path ++ ": ".toList ++ wording f)
    for (path, s) in ← openAll o.operands complain do
      for line in linesOf s do
        if line.any fun c => 128 ≤ c.toNat then
          let shown := if path = ['-'] then "stdin".toList else path
          fail 1 (shown ++ ": Invalid or incomplete multibyte or wide character".toList)
          break
        print ((body line).reverse ++ line.drop (body line).length)

/-- A count of lines or bytes, with a sign that asks for another end or all but some. -/
structure Extent where
  sign : Option Char := none
  count : Nat := 10
deriving DecidableEq, Repr

def factor? : Text → Option Nat
  | [] => some 1
  | ['b'] => some 512
  | ['k'] | ['K'] => some 1024
  | ['m'] | ['M'] => some (1024 * 1024)
  | ['k', 'B'] | ['K', 'B'] => some 1000
  | _ => none

def Extent.read? (s : Text) : Option Extent :=
  let (sign, s) : Option Char × Text := match s with
    | '+' :: r => (some '+', r)
    | '-' :: r => (some '-', r)
    | s => (none, s)
  match Text.digits? (s.takeWhile Char.isDigit), factor? (s.dropWhile Char.isDigit) with
  | some n, some f => some ⟨sign, n * f⟩
  | _, _ => none

def splitLines : (lines : Nat) → Text → Text × Text
  | 0, s => ([], s)
  | _, [] => ([], [])
  | n + 1, c :: s =>
    let (before, after) := if c = '\n' then splitLines n s else splitLines (n + 1) s
    (c :: before, after)

def start (inBytes : Bool) (e : Extent) (s : Text) : Text × Text :=
  match e.sign, inBytes with
  | some '-', true => s.splitAt (s.length - e.count)
  | some '-', false =>
    let lines := linesOf s
    ((lines.take (lines.length - e.count)).flatten, (lines.drop (lines.length - e.count)).flatten)
  | _, true => s.splitAt e.count
  | _, false => splitLines e.count s

def ending (inBytes : Bool) (e : Extent) (s : Text) : Text :=
  match e.sign, inBytes with
  | some '+', true => s.drop (e.count - 1)
  | some '+', false => ((linesOf s).drop (e.count - 1)).flatten
  | _, true => s.drop (s.length - e.count)
  | _, false =>
    let lines := linesOf s
    (lines.drop (lines.length - e.count)).flatten

/-- The option of an argument such as `-5`, which is a count with letters after it. -/
def countOption : List Text → List Text
  | [] => []
  | ('-' :: s) :: rest =>
    let digits := s.takeWhile Char.isDigit
    if digits = [] then ('-' :: s) :: rest
    else
      let letters := s.drop digits.length
      if letters.any (· == 'c') then ("-c".toList ++ digits) :: rest
      else ("-n".toList ++ digits) :: rest
  | all => all

def showParts (part : Bool → Extent → Text → Text × Text) : Job Unit := do
  let choices : List Choice := [⟨'c', "bytes", true, false⟩, ⟨'n', "lines", true, false⟩,
    ⟨'q', "quiet", false, false⟩, ⟨'v', "verbose", false, false⟩, ⟨'q', "silent", false, false⟩,
    ⟨'z', "zero-terminated", false, false⟩]
  withReader (fun c => { c with arguments := countOption c.arguments }) <|
    withOptions choices 1 fun o => do
      let counts := o.given.filter fun g => g.1 = 'c' ∨ g.1 = 'n'
      let (unit, given) := counts.getLastD ('n', "10".toList)
      match Extent.read? given with
      | none =>
        let what := if unit = 'c' then "bytes" else "lines"
        fail 1 ("invalid number of ".toList ++ what.toList ++ ": ".toList ++ quote given)
      | some e =>
        let paths := if o.operands.isEmpty then [['-']] else o.operands
        let hasHeadings := o.has 'v' || (1 < paths.length && !o.has 'q')
        let mut isFirst := true
        for path in paths do
          let complain (f : FileFailure) : Job Unit :=
            fail 1 ("cannot open ".toList ++ quote path ++ " for reading: ".toList ++ wording f)
          if let some s ← openOr? path complain then
            if hasHeadings then
              let name := if path = ['-'] then "standard input".toList else path
              print ((if isFirst then [] else ['\n']) ++ "==> ".toList ++ name ++ " <==\n".toList)
            isFirst := false
            let (shown, rest) := part (unit = 'c') e s
            print shown
            if path = ['-'] then giveBack rest

def head : Job Unit :=
  showParts start

def tail : Job Unit :=
  showParts fun inBytes e s => (ending inBytes e s, [])

def tee : Job Unit :=
  withOptions [⟨'a', "append", false, false⟩, ⟨'i', "ignore-interrupts", false, false⟩] 1
    fun o => do
      let s ← takeInput
      print s
      for path in o.operands do
        if let some f ← writeFile path s (o.has 'a') then blame path f

def nl : Job Unit :=
  let choices : List Choice := [⟨'b', "body-numbering", true, false⟩,
    ⟨'w', "number-width", true, false⟩, ⟨'s', "number-separator", true, false⟩,
    ⟨'v', "starting-line-number", true, false⟩, ⟨'i', "line-increment", true, false⟩,
    ⟨'n', "number-format", true, false⟩]
  withOptions choices 1 fun o => do
    let number (c : Char) (default : Nat) : Nat := ((o.value? c).bind Text.digits?).getD default
    let style := (o.value? 'b').getD ['t']
    let width := number 'w' 6
    let separator := (o.value? 's').getD ['\t']
    let mut n := number 'v' 1
    for (_, s) in ← openAll o.operands blame do
      for line in bodies s do
        if style = ['a'] ∨ (style = ['t'] ∧ line ≠ []) then
          let shown := Text.ofNat n
          let label := match o.value? 'n' with
            | some ['l', 'n'] => shown ++ List.replicate (width - shown.length) ' '
            | some ['r', 'z'] => List.replicate (width - shown.length) '0' ++ shown
            | _ => padLeft width shown
          printLine (label ++ separator ++ line)
          n := n + number 'i' 1
        else printLine (List.replicate (width + separator.length) ' ' ++ line)

/-- The pieces of a line that are no longer than a width, each behind a blank if possible. -/
def foldLine (width : Nat) (atBlanks : Bool) : (fuel : Nat) → Text → List Text
  | 0, s => [s]
  | fuel + 1, s =>
    if s.length ≤ width then [s]
    else
      let piece := s.take width
      let word := (piece.reverse.takeWhile (· != ' ')).length
      let n := if atBlanks ∧ word < piece.length then piece.length - word else piece.length
      if n = 0 then [s] else s.take n :: foldLine width atBlanks fuel (s.drop n)

def fold : Job Unit :=
  let choices : List Choice := [⟨'w', "width", true, false⟩, ⟨'s', "spaces", false, false⟩,
    ⟨'b', "bytes", false, false⟩]
  withReader (fun c => { c with arguments := match c.arguments with
    | ('-' :: d :: s) :: rest =>
      if d.isDigit then ("-w".toList ++ d :: s) :: rest else c.arguments
    | all => all }) <|
    withOptions choices 1 fun o => do
      let width := ((o.value? 'w').bind Text.digits?).getD 80
      if width = 0 then
        fail 1 ("invalid number of columns: ".toList ++ quote ((o.value? 'w').getD []))
      else
        for (_, s) in ← openAll o.operands blame do
          for line in linesOf s do
            let pieces := foldLine width (o.has 's') (line.length + 1) (body line)
            print (Text.join ['\n'] pieces ++ line.drop (body line).length)

/-- The characters of a list of delimiters, in which escapes are read. -/
def delimiters : Text → List Text
  | '\\' :: 'n' :: s => ['\n'] :: delimiters s
  | '\\' :: 't' :: s => ['\t'] :: delimiters s
  | '\\' :: '0' :: s => [] :: delimiters s
  | '\\' :: c :: s => [c] :: delimiters s
  | c :: s => [c] :: delimiters s
  | [] => []

def interleave (delimiters : List Text) (fields : List Text) : Text :=
  match fields with
  | [] => []
  | first :: rest =>
    first ++ ((rest.zipIdx.map fun (s, i) =>
      (delimiters[i % delimiters.length]?).getD [] ++ s)).flatten

def paste : Job Unit :=
  withOptions [⟨'d', "delimiters", true, false⟩, ⟨'s', "serial", false, false⟩] 1 fun o => do
    let marks := match o.value? 'd' with
      | some [] => [[]]
      | some d => delimiters d
      | none => [['\t']]
    let texts : List (Text × Text) ← openAll o.operands blame
    if o.has 's' then
      for (_, s) in texts do
        printLine (interleave marks (bodies s))
    else
      let columns : List (Text × List Text) := match texts with
        | [(p, s)] => [(p, bodies s)]
        | several =>
          let isInput (p : Text) : Bool := p == ['-']
          if several.all fun t => isInput t.1 then
            let all := bodies (several.flatMap Prod.snd)
            several.zipIdx.map fun (t, i) =>
              (t.1, all.zipIdx.filterMap fun (line, j) =>
                if j % several.length = i then some line else none)
          else several.map fun (p, s) => (p, bodies s)
      let height := columns.foldl (fun n c => max n c.2.length) 0
      for i in List.range height do
        printLine (interleave marks (columns.map fun c => (c.2[i]?).getD []))

def expandTabs (size : Nat) : (column : Nat) → Text → Text
  | _, [] => []
  | column, c :: s =>
    if c = '\t' then
      let n := size - column % size
      List.replicate n ' ' ++ expandTabs size (column + n) s
    else c :: expandTabs size (if c = '\n' then 0 else column + 1) s

def expand : Job Unit :=
  withOptions [⟨'t', "tabs", true, false⟩, ⟨'i', "initial", false, false⟩] 1 fun o => do
    let size := ((o.value? 't').bind Text.digits?).getD 8
    for (_, s) in ← openAll o.operands blame do
      print (if size = 0 then s else expandTabs size 0 s)

end ProofDesk.Tool
