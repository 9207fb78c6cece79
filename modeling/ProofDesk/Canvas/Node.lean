import ProofDesk.Derivation.Basic

namespace ProofDesk

/-- How far a node's proof has come. -/
inductive Body where
  | hole
  /-- The conclusion is not known until a rule is dropped on these premises. -/
  | gathering (premises : List Text)
  /-- A rule justifies the conclusion from the conclusions of the nodes below. -/
  | ruled (rule : Text)
  | delivered (proof : Derivation)
deriving DecidableEq, Repr

/-- A node of a proof. Its `key` stays with it for life; its `id`, the target for copies, changes
whenever the shape of a proof changes, and `id + 1` is the target for rules. -/
structure Node where
  key : Nat
  id : Nat := 0
  conclusion : Text
  name : Text := []
  free : Bool
  expanded : Bool := true
  body : Body := .hole
deriving DecidableEq, Repr

/-- What a node still lacks, as it is shown. -/
inductive Progress where
  | empty
  | argumentsPending
  | hasSubtree
deriving DecidableEq, Repr

namespace Node

def isTopDown (n : Node) : Bool :=
  match n.body with
  | .gathering _ => true
  | _ => false

def progress (n : Node) : Progress :=
  match n.body with
  | .hole | .gathering _ => .empty
  | .ruled _ => .argumentsPending
  | .delivered _ => .hasSubtree

def rule? (n : Node) : Option Text :=
  match n.body with
  | .ruled rule => some rule
  | .delivered proof => some proof.value.rule
  | _ => none

def premises (n : Node) : List Text :=
  match n.body with
  | .gathering premises => premises
  | .delivered proof => proof.below.tops.map Step.conclusion
  | _ => []

def step (n : Node) (rule : Text) : Step :=
  ⟨n.conclusion, n.name, rule⟩

def deliveredAs (n : Node) (proof : Derivation) : Derivation :=
  if Text.isBlankText n.name then proof else ⟨{ proof.value with name := n.name }, proof.below⟩

end Node

namespace Forest

def derivations? : Forest Node → Option (Forest Step)
  | nil => some nil
  | cons n below rest => do
    let d : Derivation ← match n.body with
      | .delivered proof => some (n.deliveredAs proof)
      | .ruled rule => below.derivations?.map fun premises => ⟨n.step rule, premises⟩
      | _ => none
    let others ← rest.derivations?
    return cons d.value d.below others

def number (m : Nat) : Forest Node → Forest Node
  | nil => nil
  | cons n below rest =>
    cons { n with id := m } (below.number (m + 2)) (rest.number (m + 2 + 2 * below.size))

@[simp] theorem size_number (m : Nat) (f : Forest Node) : (f.number m).size = f.size := by
  induction f generalizing m with
  | nil => rfl
  | cons n below rest ihb ihr => simp [number, size, ihb, ihr]

theorem ids_number (m : Nat) (f : Forest Node) :
    (f.number m).preorder.map Node.id = (List.range f.size).map fun i => m + 2 * i := by
  induction f generalizing m with
  | nil => rfl
  | cons n below rest ihb ihr =>
    simp only [number, preorder, size, List.map_cons, List.map_append, ihb, ihr]
    rw [show below.size + rest.size + 1 = 1 + below.size + rest.size by omega,
      List.range_add, List.range_add]
    simp only [List.map_append, List.map_map, List.range_one, List.map_cons, List.map_nil]
    refine congrArg (m :: ·) (congr (congrArg _ ?_) ?_)
    · exact List.map_congr_left fun i _ => by simp only [Function.comp_apply]; omega
    · exact List.map_congr_left fun i _ => by simp only [Function.comp_apply]; omega

end Forest

def Tree.derivation? (t : Tree Node) : Option Derivation :=
  ((Forest.cons t.value t.below .nil).derivations?.bind fun f => f.trees.head?)

end ProofDesk
