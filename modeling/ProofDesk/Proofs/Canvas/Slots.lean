import ProofDesk.Arena.Basic
import ProofDesk.Proofs.Canvas.Links
import ProofDesk.Proofs.Canvas.States
import ProofDesk.Proofs.Forest.Place

namespace ProofDesk

namespace Node

def gathered? (n : Node) : Option (List Text) :=
  match n.body with
  | .gathering premises => some premises
  | _ => none

def payload (n : Node) : Payload :=
  ⟨n.conclusion, n.name, n.attached?, n.subtree?, n.expanded, n.free, n.gathered?⟩

def slot (n : Node) (children : List Node) : Slot :=
  { n.payload with children := children.map Node.key }

@[simp] theorem conclusion_slot (n : Node) (children : List Node) :
    (n.slot children).conclusion = n.conclusion := (rfl)

@[simp] theorem free_slot (n : Node) (children : List Node) :
    (n.slot children).free = n.free := (rfl)

@[simp] theorem children_slot (n : Node) (children : List Node) :
    (n.slot children).children = children.map Node.key := rfl

@[simp] theorem gathered?_slot (n : Node) (children : List Node) :
    (n.slot children).gathered? = n.gathered? := (rfl)

@[simp] theorem isTopDown_slot (n : Node) (children : List Node) :
    (n.slot children).isTopDown = n.isTopDown := by
  change n.gathered?.isSome = n.isTopDown
  cases hb : n.body <;> simp [gathered?, isTopDown, hb]

@[simp] theorem progress_slot (n : Node) (children : List Node) :
    (n.slot children).progress = n.progress := by
  change (if n.subtree?.isSome then _ else if n.attached?.isSome then _ else _) = n.progress
  cases hb : n.body <;> simp [subtree?, attached?, progress, hb]

theorem gathered?_eq_none {n : Node} (h : n.isTopDown = false) : n.gathered? = none := by
  rw [gathered?]
  split
  next hb => simp [isTopDown, hb] at h
  next => rfl

theorem isTopDown_of_progress {n : Node} (h : n.progress ≠ .empty) : n.isTopDown = false := by
  rw [isTopDown]
  split
  next hb => simp [progress, hb] at h
  next => rfl

/-- A rule takes the place of whatever justified a node, or of what it gathered. -/
theorem payload_ruled (n : Node) (rule conclusion : Text) (expanded : Bool) :
    payload { n with conclusion, expanded, body := .ruled rule } =
      ⟨conclusion, n.name, some rule, none, expanded, n.free, none⟩ := rfl

theorem payload_hole {n : Node} (h : n.isTopDown = false) :
    payload { n with body := .hole } = { n.payload with rule? := none, subtree? := none } := by
  rw [payload, payload, gathered?_eq_none h]
  rfl

end Node

namespace Forest

def slots (f : Forest Node) : List (Nat × Slot) :=
  f.rows.map fun r => (r.1.key, r.1.slot r.2)

@[simp] theorem slots_nil : (nil : Forest Node).slots = [] := rfl

@[simp] theorem slots_cons (n : Node) (below rest : Forest Node) :
    (cons n below rest).slots = (n.key, n.slot below.tops) :: (below.slots ++ rest.slots) := by
  simp [slots, rows]

@[simp] theorem map_fst_slots (f : Forest Node) :
    f.slots.map Prod.fst = f.preorder.map Node.key := by
  rw [slots, List.map_map, ← map_fst_rows, List.map_map]
  rfl

@[simp] theorem slots_append (f g : Forest Node) : (f.append g).slots = f.slots ++ g.slots := by
  rw [slots, rows_append, List.map_append]
  rfl

theorem slots_ofValues (ns : List Node) :
    (ofValues ns).slots = ns.map fun n => (n.key, n.slot []) := by
  rw [slots, rows_ofValues, List.map_map]
  rfl

@[simp] theorem slots_number (m : Nat) (f : Forest Node) : (f.number m).slots = f.slots := by
  induction f generalizing m with
  | nil => rfl
  | cons n below rest ihb ihr =>
    have htops : (below.number (m + 2)).tops.map Node.key = below.tops.map Node.key := by
      have hmap := congrArg tops (map_key_number (m + 2) below)
      rwa [tops_map, tops_map] at hmap
    have hslot : Node.slot { n with id := m } (below.number (m + 2)).tops = n.slot below.tops := by
      rw [Node.slot, htops]
      rfl
    rw [number, slots_cons, slots_cons, ihb, ihr, hslot]

/-- Two trees with one key at the top leave the same slots around them. -/
theorem Context.exists_slots_fill (e : Context Node) {t t' : Tree Node}
    (ht : t'.value.key = t.value.key) :
    ∃ l r, (e.fill t).slots = l ++ (t.value.key, t.value.slot t.below.tops) :: (t.below.slots ++ r) ∧
      (e.fill t').slots =
        l ++ (t.value.key, t'.value.slot t'.below.tops) :: (t'.below.slots ++ r) := by
  induction e with
  | here rest => exact ⟨[], rest.slots, by simp [fill], by simp [fill, ht]⟩
  | under a below rest ih =>
    obtain ⟨l, r, hl, hr⟩ := ih
    have hslot : a.slot (below.fill t').tops = a.slot (below.fill t).tops := by
      rw [Node.slot, below.map_tops_fill ht]
      rfl
    refine ⟨(a.key, a.slot (below.fill t).tops) :: l, r ++ rest.slots, ?_, ?_⟩
    · simp [fill, hl]
    · simp [fill, hr, hslot]
  | after a below rest ih =>
    obtain ⟨l, r, hl, hr⟩ := ih
    refine ⟨(a.key, a.slot below.tops) :: (below.slots ++ l), r, ?_, ?_⟩
    · simp [fill, hl]
    · simp [fill, hr]

/-- A whole tree is left out with its slots. -/
theorem exists_slots_eraseAt {f : Forest Node} {i : Nat} {t : Tree Node} (ht : f.at? [i] = some t) :
    ∃ l r, f.slots = l ++ ((cons t.value t.below nil).slots ++ r) ∧
      (f.eraseAt i).slots = l ++ r := by
  induction f generalizing i with
  | nil => simp [at?, trees] at ht
  | cons n below rest _ ih =>
    cases i with
    | zero =>
      obtain rfl : ⟨n, below⟩ = t := by simpa [at?, trees] using ht
      exact ⟨[], rest.slots, by simp, rfl⟩
    | succ i =>
      rw [at?_cons_succ] at ht
      obtain ⟨l, r, hl, hr⟩ := ih ht
      refine ⟨(n.key, n.slot below.tops) :: (below.slots ++ l), r, ?_, ?_⟩
      · rw [slots_cons, hl]
        simp
      · rw [eraseAt, slots_cons, hr]
        simp

end Forest

namespace Canvas

def IsAt (c : Canvas) (path : List Nat) (key : Nat) : Prop :=
  ∃ t, c.forest.at? path = some t ∧ t.value.key = key

variable {c : Canvas}

/-- Nodes below a tree's top are linked to it from there down. -/
theorem reaches_of_row {e : Forest.Context Node} {t : Tree Node} (hc : c.forest = e.fill t)
    {r : Node × List Node} (hr : r ∈ (Forest.cons t.value t.below .nil).rows) :
    Relation.ReflTransGen c.Links t.value.key r.1.key := by
  have hm := Forest.mem_preorder_of_row hr
  obtain ⟨top, htop, hreach⟩ := Forest.exists_top_reaches hm
  obtain rfl : top = t.value := by simpa [Forest.tops] using htop
  refine hreach.lift Node.key fun a b hab => ?_
  obtain ⟨bs, hbs, hb⟩ := hab
  have hrow : (a, bs) ∈ c.forest.rows := hc ▸ e.rows_subset_fill t hbs
  exact ⟨bs.map Node.key, List.mem_map.mpr ⟨_, hrow, rfl⟩, List.mem_map_of_mem hb⟩

end Canvas

end ProofDesk
