import ProofDesk.Checker.Answer
import ProofDesk.Checker.Launch
import ProofDesk.Json.Printer

namespace ProofDesk

/-- A question about a rule or a variable. -/
inductive Query where
  | parse (conclusion rule : Text)
  | topDown (premises : List Text) (rule : Text)
  | substitute (text old new : Text)
deriving DecidableEq, Repr

namespace Query

def flags : Query → List Text
  | parse conclusion rule =>
    ["--parse=".toList ++ conclusion, "--rule=".toList ++ rule]
  | topDown premises rule =>
    ["--premises=".toList ++ Json.compact (.record [("premises", .list .text premises)]),
      "--rule=".toList ++ rule]
  | substitute text old new =>
    ["--substitute=".toList ++ text, "--old=".toList ++ old, "--new=".toList ++ new]

end Query

namespace Run

/-- The output of a run that was asked a question. Without output, what the run wrote to standard
error are the errors. -/
def answer (l : Launch) : Run → Except Refusal Text
  | notStarted cause => .error (.notStarted l.display cause)
  | finished output errors =>
    if Text.isBlankText output then
      .error (.rejected (Answering.errorLines Answering.noOutput errors))
    else .ok output

end Run

/-- Whoever answers questions. An answer may hang on the questions asked before. -/
structure Bridge where
  premises : (asked : List Query) → (conclusion rule : Text) → Except Refusal (List Text)
  conclusion : (asked : List Query) → (premises : List Text) → (rule : Text) → Except Refusal Text
  substitution : (asked : List Query) → (text old new : Text) → Except Refusal (Option Text)

namespace Bridge

def ofOutput (output : List Query → Query → Except Refusal Text) : Bridge where
  premises asked conclusion rule := do
    Answering.premises conclusion rule (← output asked (.parse conclusion rule))
  conclusion asked premises rule := do
    Answering.conclusion rule (← output asked (.topDown premises rule))
  substitution asked text old new := do
    Answering.substitution (← output asked (.substitute text old new))

end Bridge

end ProofDesk
