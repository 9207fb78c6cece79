import ProofDesk.Json.Decoder
import ProofDesk.Json.Settled
import ProofDesk.Report.Basic

namespace ProofDesk

open RecordFields (open?)

/-- Why a checker's output is no report. -/
inductive ReportError where
  | empty
  | malformed
deriving DecidableEq, Repr

namespace ReportError

/-- The wording of the error. -/
def message : ReportError → Text
  | empty => "checker produced no output".toList
  | malformed => "checker output is not valid JSON".toList

end ReportError

namespace Severity

def word : Severity → Text
  | error => "error".toList
  | warning => "warning".toList
  | info => "info".toList

def ofWord? (s : Text) : Option Severity :=
  [error, warning, info].find? fun v => v.word == s

/-- A severity is its word, or an object with that name alone and the value null. -/
def decode : Decoder Severity
  | _, .text s => ofWord? s
  | _ + 1, .object [(s, .null)] => ofWord? s
  | _, _ => none

end Severity

namespace Finding

def decode : Decoder Finding := fun levels j => do
  let r ← open? 8 levels j
  return {
    severity := ← r.get 0 ["severity"] Severity.decode .error
    tag := ← r.get 1 ["error_type"] (.optional .text) none
    payload := ← r.get 2 ["error_info"] (.optional .text) none
    message := ← r.get 3 ["error_message"] .text []
    beginLine := ← r.get 4 ["begin_line"] .count 0
    beginColumn := ← r.get 5 ["begin_column"] .count 0
    endLine := ← r.get 6 ["end_line"] .count 0
    endColumn := ← r.get 7 ["end_column"] .count 0 }

end Finding

namespace TheoremDecl

def decode : Decoder TheoremDecl := fun levels j => do
  let r ← open? 6 levels j
  return {
    name := ← r.get 0 ["name", "Name"] .text []
    column := ← r.get 1 ["column", "Column"] .count 0
    line := ← r.get 2 ["line", "Line"] .count 0
    kind := ← r.get 3 ["kind", "Kind"] .text []
    foralls := ← r.get 4 ["foralls", "Foralls"] (.list .text) []
    conclusion := ← r.get 5 ["conclusion", "Conclusion"] .text [] }

end TheoremDecl

namespace NamedPlace

def decode : Decoder NamedPlace := fun levels j => do
  let r ← open? 3 levels j
  return {
    name := ← r.get 0 ["name", "Name"] .text []
    column := ← r.get 1 ["column", "Column"] .count 0
    line := ← r.get 2 ["line", "Line"] .count 0 }

end NamedPlace

namespace GrammarDecl

def decode : Decoder GrammarDecl := fun levels j => do
  let r ← open? 4 levels j
  return {
    name := ← r.get 0 ["name", "Name"] .text []
    column := ← r.get 1 ["column", "Column"] .count 0
    line := ← r.get 2 ["line", "Line"] .count 0
    clauses := ← r.get 3 ["clauses", "Clauses"] (.list NamedPlace.decode) [] }

end GrammarDecl

namespace Grammar

def decode : Decoder Grammar := fun levels j => do
  let r ← open? 2 levels j
  return {
    declarations :=
      ← r.get 0 ["syntax_declarations", "Syntax Declarations"] (.list GrammarDecl.decode) []
    sugars := ← r.get 1 ["sugars", "Sugars"] (.list NamedPlace.decode) [] }

end Grammar

namespace Rule

def decode : Decoder Rule := fun levels j => do
  let r ← open? 7 levels j
  return {
    premises := ← r.get 0 ["premises", "Premises"] (.list .text) []
    name := ← r.get 1 ["name", "Name"] .text []
    conclusion := ← r.get 2 ["conclusion", "Conclusion"] .text []
    inFile := ← r.get 3 ["in_file", "In File"] .bool false
    column := ← r.get 4 ["column", "Column"] .count 0
    line := ← r.get 5 ["line", "Line"] .count 0
    file := ← r.get 6 ["file", "File"] .text [] }

end Rule

namespace Judgment

def decode : Decoder Judgment := fun levels j => do
  let r ← open? 5 levels j
  return {
    name := ← r.get 0 ["name", "Name"] .text []
    column := ← r.get 1 ["column", "Column"] .count 0
    line := ← r.get 2 ["line", "Line"] .count 0
    form := ← r.get 3 ["form", "Form"] .text []
    rules := ← r.get 4 ["rules", "Rules"] (.list Rule.decode) [] }

end Judgment

namespace ImportedModule

/-- A module, given the decoder for the unit inside it. -/
def decodeWith {U : Type} (unit : Decoder U) : Decoder (ImportedModule U) := fun levels j => do
  let r ← open? 8 levels j
  return {
    name := ← r.get 0 ["name", "Name"] .text []
    beginColumn := ← r.get 1 ["begin_column", "Begin Column"] .count 0
    endColumn := ← r.get 2 ["end_column", "End Column"] .count 0
    beginLine := ← r.get 3 ["begin_line", "Begin Line"] .count 0
    endLine := ← r.get 4 ["end_line", "End Line"] .count 0
    file := ← r.get 5 ["file", "File"] .text []
    unit := ← r.get 6 ["ast", "AST"] (.optional unit) none
    text := ← r.get 7 ["text"] (.optional .text) none }

end ImportedModule

namespace CompilationUnit

/-- The modules of a unit: the single module, unless its name is empty, before the listed ones. -/
def allModules (single : Option Module) (listed : List Module) : List Module :=
  match single with
  | some m => if m.name.isEmpty then listed else m :: listed
  | none => listed

/-- A unit with at most `nesting` units inside one another. -/
def decodeNested : (nesting : Nat) → Decoder CompilationUnit
  | 0, _, _ => none
  | nesting + 1, levels, j => do
    let r ← open? 6 levels j
    let module := ImportedModule.decodeWith (decodeNested nesting)
    let name ← r.get 0 ["name", "Name"] .text []
    let theorems ← r.get 1 ["theorems", "Theorems"] (.list TheoremDecl.decode) []
    let listed ← r.get 2 ["modules", "Modules"] (.list module) []
    let grammar ← r.get 3 ["syntax", "Syntax"] Grammar.decode {}
    let judgments ← r.get 4 ["judgments", "Judgments"] (.list Judgment.decode) []
    let single ← r.get 5 ["Module"] (.optional module) none
    return ⟨name, theorems, allModules single listed, grammar, judgments⟩

/-- A unit. Every unit inside another one takes at least one level, so the levels bound the
nesting. -/
def decode : Decoder CompilationUnit := fun levels j =>
  decodeNested levels levels j

end CompilationUnit

namespace ImportedModule

def decode : Decoder Module := fun levels j =>
  decodeWith CompilationUnit.decode levels j

end ImportedModule

namespace Report

def decode : Decoder Report := fun levels j => do
  let r ← open? 2 levels j
  return {
    findings := ← r.get 0 ["quickfixes", "Quickfixes"] (.list Finding.decode) []
    unit := ← r.get 1 ["ast", "AST"] CompilationUnit.decode {} }

/-- The report that a checker's output is, white space around it apart. -/
def ofText (output : Text) : Except ReportError Report :=
  let trimmed := output.trim
  if trimmed.isEmpty then .error .empty
  else
    match (Json.read? trimmed).bind (decode Json.maxLevels) with
    | some report => .ok report
    | none => .error .malformed

end Report

end ProofDesk
