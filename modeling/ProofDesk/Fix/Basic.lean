import ProofDesk.Fix.Tag
import ProofDesk.Text.Lines

namespace ProofDesk

/-- A problem that may be mended: its tag, the payload that says how, and its range. -/
structure Problem where
  tag : Tag
  payload : Text
  range : Range
deriving DecidableEq, Repr

/-- How inserted text is laid out: the line terminator, and the spaces of an indentation level. -/
structure Layout where
  terminator : Text := ['\n']
  indentSize : Nat := 4
deriving DecidableEq, Repr

namespace Layout

/-- One level of indentation. More than eight spaces are taken for a mistake, and four stand in
for them. -/
def indent (f : Layout) : Text :=
  List.replicate (if f.indentSize ≤ 8 then f.indentSize else 4) ' '

end Layout

structure Edit where
  range : Range
  newText : Text
deriving DecidableEq, Repr

structure Fix where
  title : Text
  edits : List Edit
deriving DecidableEq, Repr

namespace Edit

def apply (s : Text) (e : Edit) : Text :=
  let start := s.offsetAt e.range.start
  Text.takeBytes start s ++ e.newText
    ++ Text.dropBytes (max (s.offsetAt e.range.stop) start) s

end Edit

namespace Fix

def single (title : Text) (range : Range) (newText : Text) : Fix :=
  ⟨title, [⟨range, newText⟩]⟩

end Fix

/-- The line of a text that a problem is on, the problem's payload, and the layout for a fix. -/
structure Site where
  document : Text
  line : Nat
  lineText : Text
  payload : Text
  layout : Layout

namespace Site

def entries (p : Site) : List Text :=
  (Text.split '\n' p.payload).map Text.dropReturn

def first (p : Site) : Text :=
  p.entries.headD []

def second? (p : Site) : Option Text :=
  p.entries[1]?

def margin (p : Site) : Text :=
  Text.indentation p.lineText

/-- The first occurrence of a text in the problem's line, or else the whole line when the two are
equal up to the white space around them. -/
def locate? (p : Site) (needle : Text) : Option Range :=
  if needle = [] then none
  else
    match Text.find? needle p.lineText with
    | some (before, _) => some (Text.spanAfter p.line before needle)
    | none =>
      if needle.trim = Text.trim p.lineText then some (Text.spanAfter p.line [] p.lineText)
      else none

def wholeLine (p : Site) : Range :=
  ⟨⟨p.line, 0⟩, ⟨p.line, Text.units p.lineText⟩⟩

def insertAfter (p : Site) (body : Text) : Edit :=
  if p.document.isLastLine p.line then
    ⟨.point ⟨p.line, Text.units p.lineText⟩,
      p.layout.terminator ++ Text.dropEnding p.layout.terminator body⟩
  else ⟨.point ⟨p.line + 1, 0⟩, body⟩

end Site

end ProofDesk
