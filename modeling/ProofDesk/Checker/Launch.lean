import ProofDesk.Text.Basic

namespace ProofDesk

/-- A program, and the arguments that come before those of a request. -/
structure Launch where
  command : Text := "java".toList
  arguments : List Text := ["-jar".toList, "SASyLF.jar".toList]
deriving DecidableEq, Repr

namespace Launch

def ofLine? (line : Text) : Option Launch :=
  match Text.words line with
  | [] => none
  | command :: arguments => some ⟨command, arguments⟩

def display (l : Launch) : Text :=
  Text.join [' '] (l.command :: l.arguments)

def documentFlags : List Text :=
  ["--lsp".toList, "--stdin".toList]

end Launch

/-- What a run of the checker gives: its output, or why it did not start. -/
inductive Run where
  | finished (output errors : Text)
  | notStarted (cause : Text)
deriving DecidableEq, Repr

namespace Run

def failure (l : Launch) (cause : Text) : Text :=
  "failed to start checker `".toList ++ l.display ++ "`: ".toList ++ cause

end Run

/-- Why there is no output from a check of a document. -/
inductive Breakdown where
  | notStarted (cause : Text)
  | notFed (cause : Text)
  | notEnded (cause : Text)
deriving DecidableEq, Repr

namespace Breakdown

def message (l : Launch) : Breakdown → Text
  | notStarted cause => Run.failure l cause
  | notFed cause => "failed to send document to checker: ".toList ++ cause
  | notEnded cause => "checker did not finish: ".toList ++ cause

end Breakdown

inductive Check where
  | finished (output errors : Text)
  | broken (cause : Breakdown)
deriving DecidableEq, Repr

namespace Check

def notStarted (cause : Text) : Check :=
  .broken (.notStarted cause)

end Check

end ProofDesk
