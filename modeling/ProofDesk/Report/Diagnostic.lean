import ProofDesk.Report.Basic
import ProofDesk.Fix.Basic
import ProofDesk.Json.Basic
import ProofDesk.Uri.Basic

namespace ProofDesk

/-- The code of a diagnostic. -/
inductive DiagnosticCode where
  | number (n : Int)
  | text (s : Text)
deriving DecidableEq, Repr

/-- A remark on another place that belongs to a diagnostic. -/
structure RelatedPlace where
  uri : Uri
  range : Range
  message : Text
deriving DecidableEq, Repr

/-- A diagnostic. Its tags, its remarks, the page that explains its code and its data come from the
editor and are only passed on. -/
structure Diagnostic where
  range : Range
  severity : Option Int
  code : Option DiagnosticCode
  source : Option Text
  message : Text
  explanation : Option Uri := none
  related : Option (List RelatedPlace) := none
  tags : Option (List Int) := none
  data : Option Json := none

namespace Diagnostic

def ownSource : Text := "sasylf".toList

def isOwn (d : Diagnostic) : Bool :=
  d.source == some ownSource

def isError (d : Diagnostic) : Bool :=
  d.severity == some 1

end Diagnostic

namespace Finding

def range (f : Finding) : Range :=
  ⟨.ofOneBased f.beginLine f.beginColumn, .ofOneBased f.endLine f.endColumn⟩

def diagnostic? (f : Finding) (code : Nat) : Option Diagnostic :=
  let ofSeverity (n : Int) : Diagnostic :=
    ⟨f.range, some n, some (.number code), some Diagnostic.ownSource, f.message, none, none, none,
      none⟩
  match f.severity with
  | .info => none
  | .error => some (ofSeverity 1)
  | .warning => some (ofSeverity 2)

def problem? (f : Finding) : Option Problem :=
  match f.severity, f.tag, f.payload with
  | .error, some tag, some payload => some ⟨.ofWord tag, payload, f.range⟩
  | _, _, _ => none

end Finding

/-- The diagnostics of a checker run, and the problems behind them under their codes. -/
structure Diagnosis where
  diagnostics : List Diagnostic := []
  problems : List (Int × Problem) := []

namespace Diagnosis

def ofFindings (limit : Nat) (findings : List Finding) : Diagnosis :=
  let numbered := (findings.take limit).zipIdx
  ⟨numbered.filterMap fun (f, n) => f.diagnostic? n,
    numbered.filterMap fun (f, n) => f.problem?.map fun q => (Int.ofNat n, q)⟩

def problem? (d : Diagnosis) (code : Int) : Option Problem :=
  (d.problems.find? fun e => e.1 == code).map Prod.snd

def problemFor? (d : Diagnosis) (x : Diagnostic) : Option Problem :=
  match x.code with
  | none => none
  | some (.number n) => d.problem? n
  | some (.text s) => (Text.int32? s).bind d.problem?

end Diagnosis

end ProofDesk
