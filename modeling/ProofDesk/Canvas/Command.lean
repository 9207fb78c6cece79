import ProofDesk.Canvas.Substitution
import ProofDesk.Canvas.Export

namespace ProofDesk

/-- A canvas with the requests begun on it. -/
structure Workbench where
  canvas : Canvas := {}
  rules : List (Text × RuleRequest) := []
  topDowns : List (Text × TopDownRequest) := []
  substitutions : List (Text × SubstitutionRequest) := []
deriving DecidableEq, Repr

/-- A change of a workbench. -/
inductive Command where
  | addConclusion (conclusion : Text) (free : Bool)
  | addPremises (premises : List Text) (free : Bool)
  | removeRoot (id : Nat)
  | requestRule (id : Nat) (rule slot : Text)
  | attachRule (slot : Text) (premises : List Text)
  /-- A request for a rule and its answer at once. -/
  | applyRule (id : Nat) (rule : Text) (premises : List Text)
  | requestTopDown (id : Nat) (rule : Text) (arity : Option Nat) (slot : Text)
  | promote (slot : Text) (conclusion : Text)
  | deleteRule (id : Nat)
  | dropCopy (target source : Nat)
  | dropPremise (target : Nat) (premise : Text)
  | setName (id : Nat) (name : Text)
  | toggle (id : Nat)
  | requestSubstitution (id : Nat) (old new : Text) (direction : Direction) (slot : Text)
  | substitute (slot : Text) (results : List (Option Text))
deriving DecidableEq, Repr

/-- What a command answers. -/
inductive Answer where
  | done
  | id (n : Nat)
  | flag (b : Bool)
  | ruleRequest (q : RuleRequest)
  | topDownRequest (q : TopDownRequest)
  | substitutionRequest (q : SubstitutionRequest)
deriving DecidableEq, Repr

/-- Why a command fails. -/
inductive CommandError where
  | noSlot (slot : Text)
  | refused (cause : Refusal)
deriving DecidableEq, Repr

namespace Workbench

def waiting? {α : Type} (requests : List (Text × α)) (slot : Text) : Option α :=
  (requests.find? fun e => e.1 == slot).map Prod.snd

def keep {α : Type} (requests : List (Text × α)) (slot : Text) (q : α) : List (Text × α) :=
  (slot, q) :: requests.filter fun e => e.1 != slot

def settle {α : Type} (w : Workbench) (answer : α → Answer) (o : Outcome α) :
    Except CommandError Answer × Workbench :=
  (match o.answer with
    | .ok a => .ok (answer a)
    | .error cause => .error (.refused cause),
    { w with canvas := o.canvas })

def perform (w : Workbench) : Command → Except CommandError Answer × Workbench
  | .addConclusion conclusion free =>
    let (id, canvas) := w.canvas.addConclusion conclusion free
    (.ok (.id id), { w with canvas })
  | .addPremises premises free =>
    let (id, canvas) := w.canvas.addPremises premises free
    (.ok (.id id), { w with canvas })
  | .removeRoot id => w.settle (fun _ => .done) (w.canvas.removeRoot id)
  | .requestRule id rule slot =>
    match w.canvas.requestRule id rule with
    | .ok q => (.ok (.ruleRequest q), { w with rules := keep w.rules slot q })
    | .error cause => (.error (.refused cause), w)
  | .attachRule slot premises =>
    match waiting? w.rules slot with
    | some q => w.settle (fun _ => .done) (w.canvas.attachRule q premises)
    | none => (.error (.noSlot slot), w)
  | .applyRule id rule premises =>
    match w.canvas.requestRule id rule with
    | .ok q => w.settle (fun _ => .done) (w.canvas.attachRule q premises)
    | .error cause => (.error (.refused cause), w)
  | .requestTopDown id rule arity slot =>
    match w.canvas.requestTopDown id rule arity with
    | .ok q => (.ok (.topDownRequest q), { w with topDowns := keep w.topDowns slot q })
    | .error cause => (.error (.refused cause), w)
  | .promote slot conclusion =>
    match waiting? w.topDowns slot with
    | some q => w.settle (fun _ => .done) (w.canvas.promote q conclusion)
    | none => (.error (.noSlot slot), w)
  | .deleteRule id => w.settle (fun _ => .done) (w.canvas.deleteRule id)
  | .dropCopy target source => w.settle (fun _ => .done) (w.canvas.dropCopy target source)
  | .dropPremise target premise => w.settle (fun _ => .done) (w.canvas.dropPremise target premise)
  | .setName id name => w.settle (fun _ => .done) (w.canvas.setName id name)
  | .toggle id => w.settle .flag (w.canvas.toggle id)
  | .requestSubstitution id old new direction slot =>
    match w.canvas.requestSubstitution id old new direction with
    | .ok q =>
      (.ok (.substitutionRequest q), { w with substitutions := keep w.substitutions slot q })
    | .error cause => (.error (.refused cause), w)
  | .substitute slot results =>
    match waiting? w.substitutions slot with
    | some q => w.settle (fun _ => .done) (w.canvas.substitute q results)
    | none => (.error (.noSlot slot), w)

end Workbench

end ProofDesk
