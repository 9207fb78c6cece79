import ProofDesk.Text.Range

namespace ProofDesk.Text

/-- The pieces between line feeds, each with the carriage return that may end it. -/
def rawLines (s : Text) : List Text :=
  split '\n' s

def lineCount (s : Text) : Nat :=
  (rawLines s).length

def isLastLine (s : Text) (line : Nat) : Bool :=
  lineCount s ≤ line + 1

def lineText? (s : Text) (line : Nat) : Option Text :=
  (rawLines s)[line]?.map dropReturn

def lineStart? (s : Text) (line : Nat) : Option Nat :=
  if line < lineCount s then some (((rawLines s).take line).foldr (fun l n => bytes l + 1 + n) 0)
  else none

def lineEnd? (s : Text) (line : Nat) : Option Position :=
  (lineText? s line).map fun l => ⟨line, units l⟩

/-- The position of an offset in the given lines, the first of which has number `line`. An offset
past the end counts as the end, one inside a character as column zero. -/
def positionFrom (line : Nat) : List Text → Nat → Position
  | [], _ => ⟨line, 0⟩
  | l :: rest, offset =>
    if bytes l < offset && !rest.isEmpty then positionFrom (line + 1) rest (offset - (bytes l + 1))
    else
      let offset := min offset (bytes l)
      ⟨line, if isBoundary l offset then units (takeBytes offset l) else 0⟩

def positionAt (s : Text) (offset : Nat) : Position :=
  positionFrom 0 (rawLines s) offset

/-- The byte offset of a line and column in the given lines; a column past the end of a line's text
counts as its end. -/
def offsetFrom : List Text → Nat → Nat → Nat
  | [], _, _ => 0
  | l :: _, 0, column => bytes (takeUnits column (dropReturn l))
  | l :: rest, line + 1, column =>
    bytes l + (if rest.isEmpty then 0 else 1) + offsetFrom rest line column

/-- The byte offset of a position. A column past the end of a line's text counts as its end, a line
past the last as the end of the text. -/
def offsetAt (s : Text) (p : Position) : Nat :=
  offsetFrom (rawLines s) p.line p.character

def slice (s : Text) (start stop : Nat) : Text :=
  takeBytes (stop - start) (dropBytes start s)

def textIn (s : Text) (r : Range) : Text :=
  let start := offsetAt s r.start
  slice s start (max (offsetAt s r.stop) start)

theorem join_rawLines (s : Text) : join ['\n'] (rawLines s) = s :=
  join_split '\n' s

theorem lineCount_eq (s : Text) : lineCount s = s.count '\n' + 1 :=
  length_split '\n' s

theorem lineText?_eq_none_iff {s : Text} {line : Nat} :
    lineText? s line = none ↔ lineCount s ≤ line := by
  simp [lineText?, lineCount]

theorem slice_bytes_append (before part after : Text) :
    slice (before ++ part ++ after) before.bytes (before ++ part).bytes = part := by
  have hlength : (before ++ part).bytes - before.bytes = part.bytes := by
    rw [bytes_append]
    omega
  rw [slice, hlength, List.append_assoc, dropBytes_bytes_append, takeBytes_bytes_append]

theorem lineStart?_eq_none_iff {s : Text} {line : Nat} :
    lineStart? s line = none ↔ lineCount s ≤ line := by
  simp [lineStart?]

end ProofDesk.Text
