import ProofDesk.Canvas.Node
import ProofDesk.Refusal

namespace ProofDesk

/-- What happened on a canvas. Nodes are named by the ids that they have after the change. -/
inductive Event where
  | rootAdded (node : Nat)
  | rootRemoved (conclusion : Text)
  | ruleAttached (node : Nat) (rule : Text) (premises : List Nat)
  | ruleRemoved (node : Nat)
  | subtreeDelivered (node : Nat) (proof : Derivation)
  /-- An unfinished node was dragged onto a hole with the same conclusion. -/
  | seeded (node : Nat) (conclusion : Text)
  | premiseAdded (node : Nat) (premise : Text)
  | promoted (node : Nat) (conclusion rule : Text)
  | substituted (node : Nat) (conclusion : Text)
  | derivationChanged (node : Nat) (complete : Bool)
deriving DecidableEq, Repr

/-- The proofs under construction, the next unused key and id, and the events that nobody has taken
yet. -/
structure Canvas where
  forest : Forest Node := .nil
  nextKey : Nat := 0
  nextId : Nat := 0
  events : List Event := []
deriving DecidableEq, Repr

/-- The two targets of a node. -/
inductive Target where
  | copy
  | rule
deriving DecidableEq, Repr

namespace Canvas

def tree? (c : Canvas) (key : Nat) : Option (Tree Node) :=
  c.forest.find? fun n => n.key == key

def node? (c : Canvas) (key : Nat) : Option Node :=
  (c.tree? key).map Tree.value

def lineage (c : Canvas) (key : Nat) : List Node :=
  (c.forest.path? fun n => n.key == key).getD []

/-- The id of the node with a key; the last number of 32 bits if there is none. -/
def idOf (c : Canvas) (key : Nat) : Nat :=
  ((c.node? key).map Node.id).getD 4294967295

def resolve? (c : Canvas) (id : Nat) : Option (Tree Node × Target) :=
  match c.forest.find? fun n => n.id == id with
  | some t => some (t, .copy)
  | none => (c.forest.find? fun n => n.id + 1 == id).map fun t => (t, .rule)

def derivationOf? (c : Canvas) (key : Nat) : Option Derivation :=
  (c.tree? key).bind Tree.derivation?

def rootIds (c : Canvas) : List Nat :=
  c.forest.tops.map Node.id

def childIds (c : Canvas) (id : Nat) : List Nat :=
  match c.resolve? id with
  | some (t, _) => t.below.tops.map Node.id
  | none => []

def parentId? (c : Canvas) (id : Nat) : Option Nat := do
  let (t, _) ← c.resolve? id
  return (← (c.lineage t.value.key)[1]?).id

def derivation? (c : Canvas) (id : Nat) : Option Derivation :=
  (c.resolve? id).bind fun (t, _) => t.derivation?

def idAt? (c : Canvas) (path : List Nat) : Option Nat :=
  (c.forest.at? path).map fun t => t.value.id

def renumber (c : Canvas) : Canvas :=
  { c with forest := c.forest.number c.nextId, nextId := c.nextId + 2 * c.forest.size }

def note (c : Canvas) (e : Event) : Canvas :=
  { c with events := c.events ++ [e] }

def change (c : Canvas) (key : Nat) (f : Tree Node → Tree Node) : Canvas :=
  { c with forest := c.forest.update (fun n => n.key == key) f }

def changeNode (c : Canvas) (key : Nat) (f : Node → Node) : Canvas :=
  c.change key fun t => ⟨f t.value, t.below⟩

def holes (c : Canvas) (free : Bool) (conclusions : List Text) : Forest Node :=
  .ofValues (conclusions.zipIdx.map fun (conclusion, i) =>
    { key := c.nextKey + i, conclusion, free })

def noteLineage (c : Canvas) (key : Nat) : Canvas :=
  { c with events := c.events ++ (c.lineage key).map fun n =>
      .derivationChanged n.id (c.derivationOf? n.key).isSome }

def takeEvents (c : Canvas) : List Event × Canvas :=
  (c.events, { c with events := [] })

end Canvas

end ProofDesk
