import ProofDesk.Arena.Edit
import ProofDesk.Canvas.Command

namespace ProofDesk

namespace Arena

/-- An arena with the requests begun on it. -/
structure Bench where
  arena : Arena := {}
  rules : List (Text × RuleRequest) := []
  topDowns : List (Text × TopDownRequest) := []
  substitutions : List (Text × SubstitutionRequest) := []

namespace Bench

open Workbench (waiting? keep)

def settle {α : Type} (b : Bench) (answer : α → Answer) (r : Reply α) :
    Except CommandError Answer × Bench :=
  (match r.1 with
    | .ok x => .ok (answer x)
    | .error cause => .error (.refused cause),
    { b with arena := r.2 })

def added (b : Bench) (r : Nat × Arena) : Except CommandError Answer × Bench :=
  (.ok (.id r.1), { b with arena := r.2 })

/-- Performs a command. None if a walk through the arena does not end. -/
def perform (b : Bench) (w : Walk) : Command → Option (Except CommandError Answer × Bench)
  | .addConclusion conclusion free => (b.arena.addConclusion conclusion free).map b.added
  | .addPremises premises free => (b.arena.addPremises premises free).map b.added
  | .removeRoot id => (b.arena.removeRoot id).map (b.settle fun _ => .done)
  | .requestRule id rule slot =>
    match b.arena.requestRule id rule with
    | .ok q => some (.ok (.ruleRequest q), { b with rules := keep b.rules slot q })
    | .error cause => some (.error (.refused cause), b)
  | .attachRule slot premises =>
    match waiting? b.rules slot with
    | some q => (b.arena.attachRule w q premises).map (b.settle fun _ => .done)
    | none => some (.error (.noSlot slot), b)
  | .applyRule id rule premises =>
    match b.arena.requestRule id rule with
    | .ok q => (b.arena.attachRule w q premises).map (b.settle fun _ => .done)
    | .error cause => some (.error (.refused cause), b)
  | .requestTopDown id rule arity slot =>
    match b.arena.requestTopDown id rule arity with
    | .ok q => some (.ok (.topDownRequest q), { b with topDowns := keep b.topDowns slot q })
    | .error cause => some (.error (.refused cause), b)
  | .promote slot conclusion =>
    match waiting? b.topDowns slot with
    | some q => (b.arena.promote w q conclusion).map (b.settle fun _ => .done)
    | none => some (.error (.noSlot slot), b)
  | .deleteRule id => (b.arena.deleteRule w id).map (b.settle fun _ => .done)
  | .dropCopy target source => (b.arena.dropCopy w target source).map (b.settle fun _ => .done)
  | .dropPremise target premise =>
    (b.arena.dropPremise target premise).map (b.settle fun _ => .done)
  | .setName id name => some (b.settle (fun _ => .done) (b.arena.setName id name))
  | .toggle id => some (b.settle .flag (b.arena.toggle id))
  | .requestSubstitution id old new direction slot => do
    match ← b.arena.requestSubstitution w id old new direction with
    | .ok q =>
      return (.ok (.substitutionRequest q), { b with substitutions := keep b.substitutions slot q })
    | .error cause => return (.error (.refused cause), b)
  | .substitute slot results =>
    match waiting? b.substitutions slot with
    | some q => some (b.settle (fun _ => .done) (b.arena.substitute q results))
    | none => some (.error (.noSlot slot), b)

end Bench

end Arena

end ProofDesk
