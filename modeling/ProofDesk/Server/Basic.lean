import ProofDesk.Checker.Launch
import ProofDesk.Files.Basic
import ProofDesk.Report.Decode
import ProofDesk.Report.Diagnostic
import ProofDesk.Settings
import ProofDesk.Uri.Basic

namespace ProofDesk

/-- What a check of a document gave. -/
structure Analysis where
  unit : CompilationUnit
  diagnosis : Diagnosis

/-- An open document. Its analysis may be that of an earlier text. -/
structure OpenDocument where
  text : Text
  version : Option Int
  analysis : Option Analysis

/-- What the server does outside itself. -/
inductive Effect where
  | checked (launch : Launch) (text : Text)
  | published (uri : Uri) (version : Option Int) (diagnostics : List Diagnostic)
  | showedError (text : Text)
  | askedFormat (uri : Uri)

structure Server where
  documents : List (Uri × OpenDocument) := []
  settings : Settings := {}
  lastValidated : Option Uri := none
  outageShown : Bool := false
  files : Files := .usual
  log : List Effect := []

abbrev Checker := List Effect → Launch → Text → Check

/-- Whoever reads the checker's output. -/
class Reader where
  read : Text → Except ReportError Report

instance : Reader := ⟨Report.ofText⟩

namespace Server

def document? (s : Server) (uri : Uri) : Option OpenDocument :=
  (s.documents.find? fun e => e.1 == uri).map Prod.snd

def analysis? (s : Server) (uri : Uri) : Option Analysis :=
  (s.document? uri).bind OpenDocument.analysis

def uris (s : Server) : List Uri :=
  s.documents.map Prod.fst

def note (s : Server) (e : Effect) : Server :=
  { s with log := s.log ++ [e] }

/-- Replaces the text of a document, or opens it; the analysis stays until there is a new one. -/
def upsert (s : Server) (uri : Uri) (text : Text) (version : Option Int) : Server :=
  if s.documents.any fun e => e.1 == uri then
    { s with documents := s.documents.map fun e =>
        if e.1 == uri then (uri, { e.2 with text, version }) else e }
  else { s with documents := s.documents ++ [(uri, ⟨text, version, none⟩)] }

def store (s : Server) (uri : Uri) (analysis : Analysis) : Server :=
  { s with documents := s.documents.map fun e =>
      if e.1 == uri then (uri, { e.2 with analysis := some analysis }) else e }

section Check

variable [Reader]

/-- Checks an open document. Where the check gives a report, its analysis replaces the former one
and is published with the version that was checked; else all stays as it was. A checker that
breaks down is reported once, until it gives output again. -/
def validate (k : Checker) (s : Server) (uri : Uri) : Server :=
  match s.document? uri with
  | none => s
  | some d =>
    let launch := s.settings.launch
    let s' := s.note (.checked launch d.text)
    match k s.log launch d.text with
    | .broken cause =>
      if s'.outageShown then s'
      else { s'.note (.showedError (cause.message launch)) with outageShown := true }
    | .finished output _ =>
      let s' := { s' with outageShown := false }
      match Reader.read output with
      | .error _ => s'
      | .ok report =>
        let diagnosis := Diagnosis.ofFindings s.settings.maxProblems report.findings
        { s'.store uri ⟨report.unit, diagnosis⟩ with lastValidated := some uri }.note
          (.published uri d.version diagnosis.diagnostics)

def openDocument (k : Checker) (s : Server) (uri : Uri) (text : Text) (version : Int) : Server :=
  (s.upsert uri text (some version)).validate k uri

def changeDocument (k : Checker) (s : Server) (uri : Uri) (version : Int) (texts : List Text) :
    Server :=
  match texts.getLast? with
  | some text => (s.upsert uri text (some version)).validate k uri
  | none => s

def closeDocument (s : Server) (uri : Uri) : Server :=
  { s with
    documents := s.documents.filter fun e => e.1 != uri
    lastValidated := s.lastValidated.filter (· != uri) }

def configureIn (k : Checker) (s : Server) (settings : Json) (order : List Uri) : Server :=
  order.foldl (validate k) { s with settings := s.settings.apply settings }

def configure (k : Checker) (s : Server) (settings : Json) : Server :=
  s.configureIn k settings s.uris

end Check

def ast? (s : Server) : Option CompilationUnit :=
  (s.lastValidated.bind s.analysis?).map Analysis.unit

end Server

end ProofDesk
