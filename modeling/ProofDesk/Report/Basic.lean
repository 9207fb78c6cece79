import ProofDesk.Text.Basic

namespace ProofDesk

inductive Severity where
  | error
  | warning
  | info
deriving DecidableEq, Repr

/-- A problem that the checker found, with the place it holds for. A problem that an editor may be
able to mend also has a tag and a payload that depends on the tag. -/
structure Finding where
  severity : Severity := .error
  tag : Option Text := none
  payload : Option Text := none
  message : Text := []
  beginLine : Nat := 0
  beginColumn : Nat := 0
  endLine : Nat := 0
  endColumn : Nat := 0
deriving DecidableEq, Repr

/-- A theorem or lemma: `kind` is the word that declares it, `foralls` are its premises. -/
structure TheoremDecl where
  name : Text := []
  column : Nat := 0
  line : Nat := 0
  kind : Text := []
  foralls : List Text := []
  conclusion : Text := []
deriving DecidableEq, Repr

structure NamedPlace where
  name : Text := []
  column : Nat := 0
  line : Nat := 0
deriving DecidableEq, Repr

structure GrammarDecl where
  name : Text := []
  column : Nat := 0
  line : Nat := 0
  clauses : List NamedPlace := []
deriving DecidableEq, Repr

/-- The grammar of a unit: nonterminals, and abbreviations for terms. -/
structure Grammar where
  declarations : List GrammarDecl := []
  sugars : List NamedPlace := []
deriving DecidableEq, Repr

/-- An inference rule; `inFile` tells whether the unit itself declares it. -/
structure Rule where
  premises : List Text := []
  name : Text := []
  conclusion : Text := []
  inFile : Bool := false
  column : Nat := 0
  line : Nat := 0
  file : Text := []
deriving DecidableEq, Repr

structure Judgment where
  name : Text := []
  column : Nat := 0
  line : Nat := 0
  form : Text := []
  rules : List Rule := []
deriving DecidableEq, Repr

/-- A module that a unit imports: its name, which may be the composite `Name: path`, the place of
the import, and for a module outside the workspace its text. `U` is the type of compilation
units. -/
structure ImportedModule (U : Type) where
  name : Text := []
  beginColumn : Nat := 0
  endColumn : Nat := 0
  beginLine : Nat := 0
  endLine : Nat := 0
  file : Text := []
  unit : Option U := none
  text : Option Text := none
deriving Repr

structure CompilationUnit where
  name : Text := []
  theorems : List TheoremDecl := []
  modules : List (ImportedModule CompilationUnit) := []
  grammar : Grammar := {}
  judgments : List Judgment := []
deriving Repr

abbrev Module := ImportedModule CompilationUnit

structure Report where
  findings : List Finding := []
  unit : CompilationUnit := {}
deriving Repr

end ProofDesk
