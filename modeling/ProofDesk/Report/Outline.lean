import ProofDesk.Report.Lookup
import ProofDesk.Text.Range

namespace ProofDesk

inductive SymbolKind where
  | module
  | grammar
  | clause
  | theoremDecl
  | lemmaDecl
  | judgment
  | rule
deriving DecidableEq, Repr

namespace SymbolKind

def code : SymbolKind → Nat
  | module => 2
  | grammar => 15
  | clause => 20
  | theoremDecl => 5
  | lemmaDecl => 23
  | judgment => 13
  | rule => 7

end SymbolKind

/-- An entry of the outline, without what lies below it. -/
structure Symbol where
  name : Text
  detail : Option Text
  kind : SymbolKind
  range : Range
deriving DecidableEq, Repr

/-- An entry of the outline with the entries below it. -/
structure OutlineItem where
  symbol : Symbol
  children : List Symbol
deriving DecidableEq, Repr

namespace Symbol

/-- The first line of a name: up to the first line feed, without the carriage return before it. -/
def firstLine (name : Text) : Text :=
  (Text.listing name).headD []

/-- An entry for a name at a line and column counted from one; the name's first line is its
range. -/
def ofName (kind : SymbolKind) (name : Text) (line column : Nat) (detail : Option Text := none) :
    Symbol :=
  let start := Position.ofOneBased line column
  ⟨name, detail, kind, ⟨start, start.advance (firstLine name).units⟩⟩

def quantified (premises : List Text) (conclusion : Text) : Text :=
  premises.flatMap ('∀' :: ·) ++ '∃' :: conclusion

def ofModule (m : Module) : Symbol :=
  ⟨m.shortName, if m.path.isEmpty then none else some m.path, .module,
    ⟨.ofOneBased m.beginLine m.beginColumn, .ofOneBased m.endLine m.endColumn⟩⟩

def ofClause (c : NamedPlace) : Symbol :=
  ofName .clause c.name c.line c.column

def ofSugar (s : NamedPlace) : Symbol :=
  ofName .grammar (Text.dropReturn (Text.dropLast? '\n' s.name)) s.line s.column

def ofTheorem (t : TheoremDecl) : Symbol :=
  ofName (if t.isLemma then .lemmaDecl else .theoremDecl) t.name t.line t.column
    (some (quantified t.foralls t.conclusion))

def ofRule (r : Rule) : Symbol :=
  ofName .rule r.name r.line r.column (some (quantified r.premises r.conclusion))

end Symbol

namespace CompilationUnit

def outline (u : CompilationUnit) : List OutlineItem :=
  ((u.modules.filter fun m => !m.name.isEmpty).map fun m => ⟨.ofModule m, []⟩)
  ++ (u.grammar.declarations.map fun d =>
    ⟨.ofName .grammar d.name d.line d.column, d.clauses.map .ofClause⟩)
  ++ (u.grammar.sugars.map fun s => ⟨.ofSugar s, []⟩)
  ++ (u.theorems.map fun t => ⟨.ofTheorem t, []⟩)
  ++ (u.judgments.map fun j =>
    ⟨.ofName .judgment j.name j.line j.column (some j.form),
      (j.rules.filter Rule.inFile).map .ofRule⟩)

end CompilationUnit

end ProofDesk
