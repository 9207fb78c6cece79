import ProofDesk.Tool.Basic

namespace ProofDesk.Tool

open Job

/-- What is counted in a text. -/
structure Tally where
  lines : Nat := 0
  words : Nat := 0
  bytes : Nat := 0
  /-- The width of the longest line. -/
  longest : Nat := 0
deriving DecidableEq, Repr

namespace Tally

def isVisible (c : Char) : Bool :=
  33 ≤ c.toNat && c.toNat ≤ 126

def isSpace (c : Char) : Bool :=
  c == ' ' || (9 ≤ c.toNat && c.toNat ≤ 13)

def countWords : (isInside : Bool) → Text → Nat
  | isInside, [] => if isInside then 1 else 0
  | isInside, c :: s =>
    if isSpace c then (if isInside then 1 else 0) + countWords false s
    else countWords (isInside || isVisible c) s

def widest : (column : Nat) → (longest : Nat) → Text → Nat
  | column, longest, [] => max column longest
  | column, longest, c :: s =>
    if c = '\n' ∨ c = '\r' ∨ c.toNat = 12 then widest 0 (max column longest) s
    else if c = '\t' then widest (column + 8 - column % 8) longest s
    else if c = ' ' ∨ isVisible c then widest (column + 1) longest s
    else widest column longest s

def ofText (s : Text) : Tally :=
  { lines := s.count '\n', words := countWords false s, bytes := s.length, longest := widest 0 0 s }

def add (a b : Tally) : Tally :=
  ⟨a.lines + b.lines, a.words + b.words, a.bytes + b.bytes, max a.longest b.longest⟩

end Tally

def wc : Job Unit :=
  let choices : List Choice := [⟨'l', "lines", false, false⟩, ⟨'w', "words", false, false⟩,
    ⟨'c', "bytes", false, false⟩, ⟨'m', "chars", false, false⟩,
    ⟨'L', "max-line-length", false, false⟩]
  withOptions choices 1 fun o => do
    let isPlain := o.given.isEmpty
    let columns (t : Tally) : List Nat :=
      (if isPlain || o.has 'l' then [t.lines] else []) ++
      (if isPlain || o.has 'w' then [t.words] else []) ++
      (if o.has 'm' then [t.bytes] else []) ++
      (if isPlain || o.has 'c' then [t.bytes] else []) ++
      (if o.has 'L' then [t.longest] else [])
    let paths := if o.operands.isEmpty then [['-']] else o.operands
    let isSingle := paths.length = 1 ∧ (columns {}).length = 1
    let mut tallies : List (Text × Tally) := []
    let mut rows : List (Text × Except FileFailure Tally) := []
    for path in paths do
      match ← open? path with
      | .ok s =>
        tallies := tallies ++ [(path, .ofText s)]
        rows := rows ++ [(path, .ok (.ofText s))]
      | .error f => rows := rows ++ [(path, .error f)]
    let total := tallies.foldl (fun t e => t.add e.2) {}
    let hasInput := paths.any fun p => p == ['-']
    let digits := (Text.ofNat total.bytes).length
    let readsFile := (← read).readsFile
    let width := if isSingle then 1 else if hasInput && !readsFile then max 7 digits else digits
    let show' (t : Tally) : Text :=
      Text.join [' '] ((columns t).map fun n => padLeft width (Text.ofNat n))
    for (path, row) in rows do
      match row with
      | .ok t =>
        let name := if o.operands.isEmpty then [] else ' ' :: path
        printLine (show' t ++ name)
      | .error f =>
        blame path f
        if f = .isDirectory then printLine (show' {} ++ ' ' :: path)
    if 1 < paths.length then printLine (show' total ++ " total".toList)

end ProofDesk.Tool
