import ProofDesk.Report.Lookup
import ProofDesk.Text.Range

namespace ProofDesk

/-- Where a name is declared: in the unit itself or in one of its modules. -/
structure Declaration where
  module : Option Module
  range : Range

namespace CompilationUnit

def nameRange (line column : Nat) (name : Text) : Range :=
  let start := Position.ofOneBased line column
  ⟨start, start.advance name.units⟩

def declaredAt? (u : CompilationUnit) (name : Text) : Option Range :=
  match u.findTheorem? name with
  | some t => some (nameRange t.line t.column t.name)
  | none =>
    (u.inFileRules.find? fun r => r.name == name).map fun r => nameRange r.line r.column r.name

/-- The declaration of a word. A word with a dot names a module, and a theorem or rule of the unit
inside it. -/
def definition? (u : CompilationUnit) (word : Text) : Option Declaration :=
  match Text.cut? '.' word with
  | some (moduleName, name) => do
    let m ← u.findModule? moduleName
    let range ← (← m.unit).declaredAt? name
    return ⟨some m, range⟩
  | none => (u.declaredAt? word).map fun range => ⟨none, range⟩

end CompilationUnit

end ProofDesk
