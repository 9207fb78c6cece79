import ProofDesk.Text.Basic

namespace ProofDesk

namespace Text

def hexNumber (s : Text) : Nat :=
  s.foldl (fun n c => 16 * n + (if c.isDigit then c.toNat - '0'.toNat
    else c.toNat - 'a'.toNat + 10)) 0

/-- The entries of a table, which stand between blanks and line ends. -/
def entries (table : String) : List Text :=
  (split ' ' (table.toList.map fun c => if c = '\n' then ' ' else c)).filter (!·.isEmpty)

end Text

/-- A closed range of code points. -/
structure CodeRange where
  first : Nat
  last : Nat
deriving DecidableEq, Repr

namespace CodeRange

def contains (r : CodeRange) (n : Nat) : Bool :=
  r.first ≤ n && n ≤ r.last

def ofText (s : Text) : CodeRange :=
  match Text.cut? '-' s with
  | some (a, b) => ⟨Text.hexNumber a, Text.hexNumber b⟩
  | none => ⟨Text.hexNumber s, Text.hexNumber s⟩

def list (table : String) : List CodeRange :=
  (Text.entries table).map ofText

end CodeRange

end ProofDesk
