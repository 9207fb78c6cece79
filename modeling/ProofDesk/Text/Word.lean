import ProofDesk.Text.Lines
import ProofDesk.Text.Alphanumeric

namespace ProofDesk

/-- Letters, numbers, underscore, hyphen, apostrophe, and the dot that qualifies a name. -/
def isIdentifierChar (c : Char) : Bool :=
  isAlphanumeric c || c == '_' || c == '-' || c == '\'' || c == '.'

namespace Text

/-- The run of identifier characters around the place between `before` and `after`. -/
def runAround (before after : Text) : Text :=
  (before.reverse.takeWhile isIdentifierChar).reverse ++ after.takeWhile isIdentifierChar

def wordAt? (s : Text) (p : Position) : Option Text := do
  let line ← lineText? s p.line
  let before := takeUnits p.character line
  let word := trimOf '.' (runAround before (line.drop before.length))
  if word = [] then none else some word

end Text

end ProofDesk
