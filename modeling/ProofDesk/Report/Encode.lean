import ProofDesk.Json.Basic
import ProofDesk.Report.Decode

namespace ProofDesk

namespace Severity

def encode (v : Severity) : Json :=
  .text v.word

end Severity

namespace Finding

def encode (f : Finding) : Json :=
  .record [
    ("severity", f.severity.encode),
    ("error_type", .option .text f.tag),
    ("error_info", .option .text f.payload),
    ("error_message", .text f.message),
    ("begin_line", .nat f.beginLine),
    ("begin_column", .nat f.beginColumn),
    ("end_line", .nat f.endLine),
    ("end_column", .nat f.endColumn)]

end Finding

namespace TheoremDecl

def encode (t : TheoremDecl) : Json :=
  .record [
    ("name", .text t.name),
    ("column", .nat t.column),
    ("line", .nat t.line),
    ("kind", .text t.kind),
    ("foralls", .list .text t.foralls),
    ("conclusion", .text t.conclusion)]

end TheoremDecl

namespace NamedPlace

def encode (p : NamedPlace) : Json :=
  .record [("name", .text p.name), ("column", .nat p.column), ("line", .nat p.line)]

end NamedPlace

namespace GrammarDecl

def encode (d : GrammarDecl) : Json :=
  .record [
    ("name", .text d.name),
    ("column", .nat d.column),
    ("line", .nat d.line),
    ("clauses", .list NamedPlace.encode d.clauses)]

end GrammarDecl

namespace Grammar

def encode (g : Grammar) : Json :=
  .record [
    ("syntax_declarations", .list GrammarDecl.encode g.declarations),
    ("sugars", .list NamedPlace.encode g.sugars)]

end Grammar

namespace Rule

def encode (r : Rule) : Json :=
  .record [
    ("premises", .list .text r.premises),
    ("name", .text r.name),
    ("conclusion", .text r.conclusion),
    ("in_file", .bool r.inFile),
    ("column", .nat r.column),
    ("line", .nat r.line),
    ("file", .text r.file)]

end Rule

namespace Judgment

def encode (j : Judgment) : Json :=
  .record [
    ("name", .text j.name),
    ("column", .nat j.column),
    ("line", .nat j.line),
    ("form", .text j.form),
    ("rules", .list Rule.encode j.rules)]

end Judgment

namespace CompilationUnit

/-- The members that a module has in a report, given the JSON of the unit inside it. -/
def moduleMembers {U : Type} (m : ImportedModule U) (unit : Json) : List (String × Json) := [
  ("name", .text m.name),
  ("begin_column", .nat m.beginColumn),
  ("end_column", .nat m.endColumn),
  ("begin_line", .nat m.beginLine),
  ("end_line", .nat m.endLine),
  ("file", .text m.file),
  ("ast", unit)] ++ m.text.toList.map fun text => ("text", .text text)

mutual

def encode : CompilationUnit → Json
  | ⟨name, theorems, modules, grammar, judgments⟩ =>
    .record [
      ("name", .text name),
      ("theorems", .list TheoremDecl.encode theorems),
      ("modules", .array (encodeModules modules)),
      ("syntax", grammar.encode),
      ("judgments", .list Judgment.encode judgments)]

def encodeModules : List (ImportedModule CompilationUnit) → List Json
  | [] => []
  | m :: rest => encodeModule m :: encodeModules rest

def encodeModule : ImportedModule CompilationUnit → Json
  | ⟨name, beginColumn, endColumn, beginLine, endLine, file, unit, text⟩ =>
    .record (moduleMembers
      (⟨name, beginColumn, endColumn, beginLine, endLine, file, unit, text⟩ : Module)
      (encodeNested unit))

def encodeNested : Option CompilationUnit → Json
  | none => .null
  | some u => encode u

end

end CompilationUnit

namespace Report

def encode (r : Report) : Json :=
  .record [
    ("quickfixes", .list Finding.encode r.findings),
    ("ast", r.unit.encode)]

end Report

end ProofDesk
