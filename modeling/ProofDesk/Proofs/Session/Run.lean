import ProofDesk.Proofs.Canvas.Edited
import ProofDesk.Session

namespace ProofDesk

/-- What a user does with the proofs of a session. -/
inductive Operation where
  | dropRule (target : Nat) (rule : Text)
  | dropCopy (target source : Nat)
  | dropPremise (target : Nat) (premise : Text)
  | deleteRule (target : Nat)
  | replaceVariable (target : Nat) (old new : Text) (direction : Direction)
  | exportTheorems (theorems : List TheoremRequest)
  | save (files : Files) (path : Text) (theorems : List TheoremRequest)

/-- What is done to a session. -/
inductive Move where
  | operate (op : Operation)
  | edit (a : Action)
  | reload (unit : CompilationUnit)
  | takeModals

namespace Session

def perform (b : Bridge) (s : Session) : Operation → Except Refusal (Option Text) × Session
  | .dropRule target rule => (s.dropRule b target rule).map (·.map fun _ => none) id
  | .dropCopy target source => (s.dropCopy target source).map (·.map fun _ => none) id
  | .dropPremise target premise => (s.dropPremise target premise).map (·.map fun _ => none) id
  | .deleteRule target => (s.deleteRule target).map (·.map fun _ => none) id
  | .replaceVariable target old new direction =>
    (s.replaceVariable b target old new direction).map (·.map fun _ => none) id
  | .exportTheorems theorems => (s.exportTheorems theorems).map (·.map some) id
  | .save files path theorems => (s.save files path theorems).map (·.map some) Prod.fst

def act (b : Bridge) (s : Session) : Move → Session
  | .operate op => (s.perform b op).2
  | .edit a => { s with bench := s.bench.act a }
  | .reload unit => s.reload unit
  | .takeModals => s.takeModals.2

def run (b : Bridge) (s : Session) (moves : List Move) : Session :=
  moves.foldl (act b) s

theorem run_preserves {b : Bridge} {P : Session → Prop} (step : ∀ s m, P s → P (s.act b m))
    {s : Session} (h : P s) (moves : List Move) : P (s.run b moves) := by
  induction moves generalizing s with
  | nil => exact h
  | cons m moves ih => exact ih (step s m h)

end Session

end ProofDesk
