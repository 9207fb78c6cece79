import ProofDesk.Canvas.Basic
import Std.Data.HashMap

namespace ProofDesk

/-- What a node holds apart from its links. -/
structure Payload where
  conclusion : Text
  name : Text := []
  rule? : Option Text := none
  subtree? : Option Derivation := none
  expanded : Bool := true
  free : Bool
  /-- The premises of a node that is proved from them down. -/
  gathered? : Option (List Text) := none
deriving DecidableEq

/-- A node of an arena. It knows its children by their keys, and nothing of what is above it. -/
structure Slot extends Payload where
  children : List Nat := []
deriving DecidableEq

namespace Slot

def isTopDown (s : Slot) : Bool :=
  s.gathered?.isSome

def progress (s : Slot) : Progress :=
  if s.subtree?.isSome then .hasSubtree
  else if s.rule?.isSome then .argumentsPending
  else .empty

end Slot

/-- The nodes of all proofs by key, the roots, and the ids of the last mount in both directions. -/
structure Arena where
  nodes : Std.HashMap Nat Slot := {}
  nextKey : Nat := 0
  roots : List Nat := []
  nextId : Nat := 0
  mounts : Std.HashMap Nat Nat := {}
  mounted : Std.HashMap Nat Nat := {}
  events : List Event := []

/-- The order in which the entries of a node map are met. A map promises none. -/
structure Walk where
  entries : Std.HashMap Nat Slot → List (Nat × Slot)
  perm : ∀ nodes, (entries nodes).Perm nodes.toList

namespace Arena

def childrenOf (a : Arena) (key : Nat) : List Nat :=
  (a.nodes[key]?.map Slot.children).getD []

def mountId (a : Arena) (key : Nat) : Nat :=
  a.mounted[key]?.getD 4294967295

def resolve? (a : Arena) (id : Nat) : Option (Nat × Target) :=
  match a.mounts[id]? with
  | some key => some (key, .copy)
  | none =>
    match id with
    | 0 => none
    | copy + 1 => a.mounts[copy]?.map fun key => (key, .rule)

def parentOf? (a : Arena) (w : Walk) (key : Nat) : Option Nat :=
  (w.entries a.nodes).findSome? fun (parent, s) =>
    if s.children.contains key then some parent else none

def insert (a : Arena) (s : Slot) : Nat × Arena :=
  (a.nextKey, { a with nodes := a.nodes.insert a.nextKey s, nextKey := a.nextKey + 1 })

def edit (a : Arena) (key : Nat) (f : Slot → Slot) : Arena :=
  { a with nodes := a.nodes.modify key f }

def note (a : Arena) (e : Event) : Arena :=
  { a with events := a.events ++ [e] }

def releaseFrom (nodes : Std.HashMap Nat Slot) : List Nat → Std.HashMap Nat Slot
  | [] => nodes
  | key :: keys =>
    match _h : nodes[key]? with
    | none => releaseFrom nodes keys
    | some s => releaseFrom (nodes.erase key) (s.children ++ keys)
termination_by keys => (nodes.size, keys.length)
decreasing_by
  · exact Prod.Lex.right _ (Nat.lt_succ_self _)
  · have hm : key ∈ nodes := Std.HashMap.mem_iff_isSome_getElem?.mpr (by rw [_h]; rfl)
    have hpos : 0 < nodes.keys.length := List.length_pos_of_mem (Std.HashMap.mem_keys.mpr hm)
    have hsize : (nodes.erase key).size = nodes.size - 1 := by
      rw [Std.HashMap.size_erase, if_pos hm]
    rw [Std.HashMap.length_keys] at hpos
    exact Prod.Lex.left _ _ (by omega)

def release (a : Arena) (keys : List Nat) : Arena :=
  { a with nodes := releaseFrom a.nodes keys }

def plant (a : Arena) (free : Bool) : List Text → List Nat × Arena
  | [] => ([], a)
  | conclusion :: conclusions =>
    let (key, a) := a.insert { conclusion, free }
    let (keys, a) := a.plant free conclusions
    (key :: keys, a)

def assignId (a : Arena) (key : Nat) : Arena :=
  { a with
    nextId := a.nextId + 2
    mounts := a.mounts.insert a.nextId key
    mounted := a.mounted.insert key a.nextId }

/-- Hands out ids to the nodes on a stack and below them, each before its children. None if that
does not end. -/
def mountFrom (a : Arena) : List Nat → Option Arena
  | [] => some a
  | key :: stack => a.assignId key |>.mountFrom (a.childrenOf key ++ stack)
partial_fixpoint

def mount (a : Arena) : Option Arena :=
  { a with mounts := {}, mounted := {} }.mountFrom a.roots

abbrev Nodes := Std.HashMap Nat Slot

def Nodes.derivationsOf? (nodes : Nodes) : List Nat → Option (Option (Forest Step))
  | [] => some (some .nil)
  | key :: keys =>
    match nodes[key]? with
    | none => some none
    | some s =>
      match s.subtree?, s.rule? with
      | some proof, _ => do
        let name := if Text.isBlankText s.name then proof.value.name else s.name
        let others ← nodes |>.derivationsOf? keys
        return others.map (.cons { proof.value with name } proof.below)
      | none, none => some none
      | none, some rule => do
        match ← nodes |>.derivationsOf? s.children with
        | none => return none
        | some premises =>
          let others ← nodes |>.derivationsOf? keys
          return others.map (.cons ⟨s.conclusion, s.name, rule⟩ premises)
partial_fixpoint

def derivationOf? (a : Arena) (key : Nat) : Option (Option Derivation) := do
  let trees ← Nodes.derivationsOf? a.nodes [key]
  return trees.bind fun f => f.trees.head?

/-- Tells for a node and for every node above it whether its derivation is finished. -/
def notifyAncestors (a : Arena) (w : Walk) (key : Nat) : Option Arena := do
  let derivation ← a.derivationOf? key
  let a := a.note (.derivationChanged (a.mountId key) derivation.isSome)
  match a.parentOf? w key with
  | none => return a
  | some parent => a |>.notifyAncestors w parent
partial_fixpoint

def takeEvents (a : Arena) : List Event × Arena :=
  (a.events, { a with events := [] })

def rootIds (a : Arena) : List Nat :=
  a.roots.filterMap fun key => a.mounted[key]?

def childIds (a : Arena) (id : Nat) : List Nat :=
  match a.resolve? id with
  | none => []
  | some (key, _) => (a.childrenOf key).filterMap fun child => a.mounted[child]?

def parentId? (a : Arena) (w : Walk) (id : Nat) : Option Nat := do
  let (key, _) ← a.resolve? id
  let parent ← a.parentOf? w key
  a.mounted[parent]?

def derivation? (a : Arena) (id : Nat) : Option (Option Derivation) :=
  match a.resolve? id with
  | none => some none
  | some (key, _) => a.derivationOf? key

end Arena

end ProofDesk
