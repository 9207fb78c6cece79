import ProofDesk.Json.Settled
import ProofDesk.Refusal

namespace ProofDesk.Answering

/-- The lines of an error list, trimmed and without blank ones, or the fallback if there are
none. -/
def errorLines (fallback output : Text) : List Text :=
  let lines := ((Text.listing output).map Text.trim).filter (· ≠ [])
  if lines = [] then [fallback] else lines

def noOutput : Text :=
  "the checker produced no output".toList

def object (output : Text) : Except Refusal Json :=
  match Json.settled? output.trim with
  | some (.object members) => .ok (Json.ordered (.object members))
  | _ => .error (.rejected (errorLines noOutput output.trim))

def argument : Json → Text
  | .text s => s
  | j => j.spell

def premises (conclusion rule output : Text) : Except Refusal (List Text) := do
  let answer ← object output
  match (answer.get? "arguments").bind Json.array? with
  | some items => .ok (items.map argument)
  | none =>
    .error (.rejected ["rule ".toList ++ rule ++ " cannot conclude ".toList ++ conclusion])

def conclusion (rule output : Text) : Except Refusal Text := do
  let answer ← object output
  match (answer.get? "conclusion").bind Json.array? with
  | some (.text s :: _) => .ok s
  | _ =>
    .error (.rejected ["rule ".toList ++ rule ++ " does not apply to these premises".toList])

/-- The text after a substitution; nothing if the variable does not occur free. -/
def substitution (output : Text) : Except Refusal (Option Text) := do
  let answer ← object output
  return (answer.get? "result").bind Json.text?

end ProofDesk.Answering
