import ProofDesk.Editor.Json
import ProofDesk.Fix.Propose
import ProofDesk.Report.Definition
import ProofDesk.Server.Basic
import ProofDesk.Text.Word
import ProofDesk.Uri.Module

namespace ProofDesk

/-- A fix offered for a diagnostic. -/
structure CodeAction where
  uri : Uri
  diagnostic : Diagnostic
  fix : Fix

namespace CodeAction

def encode (a : CodeAction) : Json :=
  .record [
    ("title", .text a.fix.title),
    ("kind", .str "quickfix"),
    ("diagnostics", .list Diagnostic.encode [a.diagnostic]),
    ("edit", .record [("changes", .object [(a.uri.render, .list Edit.encode a.fix.edits)])])]

end CodeAction

namespace Server

def capabilities : Json :=
  .record [
    ("capabilities", .record [
      ("textDocumentSync", .nat 1),
      ("documentSymbolProvider", .bool true),
      ("definitionProvider", .bool true),
      ("codeActionProvider", .bool true)]),
    ("serverInfo", .record [("name", .str "sasylf-lsp"), ("version", .str "0.1.0")])]

def outline? (s : Server) (uri : Uri) : Option (List OutlineItem) :=
  (s.analysis? uri).map fun a => a.unit.outline

/-- The declaration of the word at a position: its URI, its range, and the server after the source
of the module that holds it has been written to the scratch directory. -/
def definition? (s : Server) (scratch : Text) (uri : Uri) (p : Position) :
    Option (Uri × Range) × Server :=
  match s.document? uri with
  | none => (none, s)
  | some d =>
    match d.analysis, d.text.wordAt? p with
    | some a, some word =>
      match a.unit.definition? word with
      | none => (none, s)
      | some target =>
        match target.module with
        | none => (some (uri, target.range), s)
        | some m =>
          let (found, files) := m.locate uri scratch s.files
          (found.toOption.join.map fun u => (u, target.range), { s with files })
    | _, _ => (none, s)

/-- The layout for inserted text. What the client says comes first, then the settings, then the
terminators that the document uses. -/
def layout (s : Server) (client : Option (List Json)) (text : Text) : Layout :=
  let said := client.getD []
  let detected : Text := if Text.contains text ['\r', '\n'] then ['\r', '\n'] else ['\n']
  { terminator :=
      ((((said[0]?).bind Json.text?).bind Settings.terminatorOf?).or s.settings.terminator).getD
        detected
    indentSize := ((said[1]?).bind Settings.indent?).getD s.settings.indentSize }

/-- The fixes for some diagnostics of a document. Only diagnostics of this server count; without
one, and without an analysis, the client is not asked for its format settings. -/
def codeActions (s : Server) (client : Option (List Json)) (uri : Uri)
    (diagnostics : List Diagnostic) : List CodeAction × Server :=
  match s.document? uri with
  | none => ([], s)
  | some d =>
    match d.analysis with
    | none => ([], s)
    | some a =>
      let own := diagnostics.filter Diagnostic.isOwn
      if own.isEmpty then ([], s)
      else
        let layout := s.layout client d.text
        (own.flatMap fun x =>
          match a.diagnosis.problemFor? x with
          | none => []
          | some q => (q.fixes d.text (some a.unit) layout).map fun fix => ⟨uri, x, fix⟩,
          s.note (.askedFormat uri))

end Server

end ProofDesk
