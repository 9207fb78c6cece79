import ProofDesk.Proofs.Canvas.Cases
import ProofDesk.Proofs.Forest.Links

namespace ProofDesk

namespace Forest

theorem map_number {β : Type} {h : Node → β} (hid : ∀ n i, h { n with id := i } = h n) (m : Nat)
    (f : Forest Node) : (f.number m).map h = f.map h := by
  induction f generalizing m with
  | nil => rfl
  | cons n below rest ihb ihr => rw [number, map, map, hid, ihb, ihr]

@[simp] theorem map_key_number (m : Nat) (f : Forest Node) :
    (f.number m).map Node.key = f.map Node.key :=
  map_number (fun _ _ => rfl) m f

/-- A change of values alone that keeps a mark of each keeps the forest of marks. -/
theorem map_update_value {α β : Type} {h : α → β} {g : α → α} (hg : ∀ a, h (g a) = h a)
    (p : α → Bool) (f : Forest α) :
    (f.update p fun t => ⟨g t.value, t.below⟩).map h = f.map h := by
  induction f with
  | nil => rfl
  | cons a below rest ihb ihr =>
    by_cases ha : p a = true <;> simp [update, map, ha, hg, ihb, ihr]

end Forest

namespace Canvas

/-- The forest of keys. -/
def shape (c : Canvas) : Forest Nat :=
  c.forest.map Node.key

def ids (c : Canvas) : List Nat :=
  c.forest.preorder.map Node.id

/-- The first id of the last numbering. -/
def firstId (c : Canvas) : Nat :=
  c.nextId - 2 * c.forest.size

/-- The second canvas has the keys and ids of the first, in the same places. -/
structure Keeps (c c' : Canvas) : Prop where
  shape : c'.shape = c.shape
  ids : c'.ids = c.ids
  nextKey : c'.nextKey = c.nextKey
  nextId : c'.nextId = c.nextId

/-- The forests of keys that one operation can make of that of a canvas, with the next key. -/
inductive Regrown (c : Canvas) : Forest Nat → Nat → Prop
  | root : Regrown c (c.shape.append (.cons c.nextKey .nil .nil)) (c.nextKey + 1)
  | cut (k : Nat) : k ∈ c.shape.tops → Regrown c (c.shape.eraseTops (· == k)) c.nextKey
  | branch (k n : Nat) : k ∈ c.shape.preorder →
      Regrown c (c.shape.update (· == k) fun t => ⟨t.value, .ofValues (List.range' c.nextKey n)⟩)
        (c.nextKey + n)

/-- The second canvas is regrown from the first and numbered with ids not used before. -/
structure Reshapes (c c' : Canvas) : Prop where
  shape : Regrown c c'.shape c'.nextKey
  ids : c'.ids = (List.range c'.forest.size).map fun i => c.nextId + 2 * i
  nextId : c'.nextId = c.nextId + 2 * c'.forest.size

section Keeping

variable {c c' c'' : Canvas}

theorem Keeps.refl (c : Canvas) : Keeps c c :=
  ⟨rfl, rfl, rfl, rfl⟩

theorem Keeps.trans (h : Keeps c c') (h' : Keeps c' c'') : Keeps c c'' :=
  ⟨h'.shape.trans h.shape, h'.ids.trans h.ids, h'.nextKey.trans h.nextKey,
    h'.nextId.trans h.nextId⟩

theorem Keeps.note (h : Keeps c c') (e : Event) : Keeps c (c'.note e) :=
  ⟨h.shape, h.ids, h.nextKey, h.nextId⟩

theorem Keeps.noteLineage (h : Keeps c c') (key : Nat) : Keeps c (c'.noteLineage key) :=
  ⟨h.shape, h.ids, h.nextKey, h.nextId⟩

theorem Reshapes.note (h : Reshapes c c') (e : Event) : Reshapes c (c'.note e) :=
  ⟨h.shape, h.ids, h.nextId⟩

theorem Reshapes.noteLineage (h : Reshapes c c') (key : Nat) :
    Reshapes c (c'.noteLineage key) :=
  ⟨h.shape, h.ids, h.nextId⟩

theorem Keeps.size (h : Keeps c c') : c'.forest.size = c.forest.size := by
  have hs := congrArg List.length h.ids
  simpa [Canvas.ids] using hs

theorem keeps_changeNode (c : Canvas) (key : Nat) {g : Node → Node}
    (hk : ∀ n, (g n).key = n.key) (hi : ∀ n, (g n).id = n.id) : Keeps c (c.changeNode key g) := by
  refine ⟨Forest.map_update_value hk _ _, ?_, rfl, rfl⟩
  have hm := congrArg Forest.preorder
    (Forest.map_update_value hi (fun n => n.key == key) c.forest)
  simpa only [Canvas.ids, changeNode, change, Forest.preorder_map] using hm

theorem reshapes_renumber (h : Regrown c c'.shape c'.nextKey) (hn : c'.nextId = c.nextId) :
    Reshapes c c'.renumber := by
  refine ⟨?_, ?_, ?_⟩
  · simpa [Canvas.shape, renumber] using h
  · simp [Canvas.ids, renumber, Forest.ids_number, hn]
  · simp [renumber, hn]

end Keeping

section Lookup

variable {c : Canvas} {id key : Nat} {t : Tree Node} {target : Target}

theorem mem_of_tree? (h : c.tree? key = some t) : t.value ∈ c.forest.preorder ∧ t.value.key = key := by
  obtain ⟨hm, hk⟩ := Forest.mem_preorder_of_find? h
  exact ⟨hm, by simpa using hk⟩

theorem mem_of_mem_lineage {n : Node} (hn : n ∈ c.lineage key) : n ∈ c.forest.preorder := by
  rw [lineage] at hn
  cases hp : c.forest.path? fun m => m.key == key with
  | none => simp [hp] at hn
  | some way =>
    rw [hp, Option.getD_some] at hn
    exact Forest.mem_preorder_of_path? hp hn

theorem key_mem_shape {n : Node} (h : n ∈ c.forest.preorder) : n.key ∈ c.shape.preorder := by
  rw [Canvas.shape, Forest.preorder_map]
  exact List.mem_map_of_mem h

theorem key_mem_of_node? {n : Node} (h : c.node? key = some n) : key ∈ c.shape.preorder := by
  obtain ⟨t, ht, rfl⟩ := Option.map_eq_some_iff.mp h
  obtain ⟨hm, rfl⟩ := mem_of_tree? ht
  exact key_mem_shape hm

theorem find?_of_resolve? (h : c.resolve? id = some (t, target)) :
    ∃ p, c.forest.find? p = some t := by
  rw [resolve?] at h
  split at h
  next u hu =>
    obtain ⟨rfl, -⟩ := Prod.mk.inj (Option.some.inj h)
    exact ⟨_, hu⟩
  next =>
    obtain ⟨u, hu, he⟩ := Option.map_eq_some_iff.mp h
    obtain ⟨rfl, -⟩ := Prod.mk.inj he
    exact ⟨_, hu⟩

theorem mem_of_resolve? (h : c.resolve? id = some (t, target)) : t.value ∈ c.forest.preorder := by
  obtain ⟨p, hp⟩ := find?_of_resolve? h
  exact (Forest.mem_preorder_of_find? hp).1

theorem eq_of_resolve? {u : Tree Node} {place : Target} (ht : c.resolve? id = some (t, target))
    (hu : c.resolve? id = some (u, place)) : u = t := by
  obtain ⟨rfl, -⟩ := Prod.mk.inj (Option.some.inj (ht.symm.trans hu))
  rfl

end Lookup

section Operations

variable (c : Canvas)

theorem keeps_setName (id : Nat) (name : Text) : Keeps c (c.setName id name).canvas := by
  rcases c.setName_cases id name with ⟨cause, -, h⟩ | ⟨t, target, -, h⟩
  · rw [h]
    exact .refl c
  · rw [h]
    exact keeps_changeNode c t.value.key (g := fun n => { n with name }) (fun _ => rfl) fun _ => rfl

theorem keeps_toggle (id : Nat) : Keeps c (c.toggle id).canvas := by
  rcases c.toggle_cases id with ⟨cause, -, h⟩ | ⟨t, target, -, h⟩
  · rw [h]
    exact .refl c
  · rw [h]
    exact keeps_changeNode c t.value.key (g := fun n => { n with expanded := !t.value.expanded })
      (fun _ => rfl) fun _ => rfl

theorem keeps_pushPremise (n : Node) (premise : Text) : Keeps c (c.pushPremise n premise) := by
  refine (keeps_changeNode c _ (fun m => ?_) fun m => ?_).note _
  · split <;> rfl
  · split <;> rfl

theorem keeps_deliver (n : Node) (proof : Derivation) : Keeps c (c.deliver n proof) :=
  ((keeps_changeNode c _ (fun _ => by rfl) fun _ => by rfl).note _).noteLineage _

theorem keeps_dropPremise (id : Nat) (premise : Text) :
    Keeps c (c.dropPremise id premise).canvas := by
  rcases c.dropPremise_cases id premise with ⟨cause, -, h⟩ | ⟨t, target, -, -, -, h⟩
  · rw [h]
    exact .refl c
  · rw [h]
    exact keeps_pushPremise c _ _

theorem keeps_dropCopy (target source : Nat) : Keeps c (c.dropCopy target source).canvas := by
  rcases c.dropCopy_cases target source with ⟨cause, -, h⟩ |
    ⟨t, s, place, -, -, -, ⟨-, -, h⟩ | ⟨-, -, ⟨proof, -, h⟩ | ⟨-, h⟩⟩⟩
  · rw [h]
    exact .refl c
  · rw [h]
    exact keeps_pushPremise c _ _
  · rw [h]
    exact keeps_deliver c _ _
  · rw [h]
    exact (Keeps.refl c).note _

theorem keeps_setConclusion (key : Nat) (conclusion : Text) :
    Keeps c (c.setConclusion key conclusion) := by
  rw [setConclusion]
  split
  next => exact .refl c
  next =>
    split
    next => exact .refl c
    next => exact (keeps_changeNode c _ (fun _ => by rfl) fun _ => by rfl).note _

theorem keeps_foldl_setConclusion (pairs : List ((Nat × Text) × Option Text)) :
    Keeps c (pairs.foldl (fun c ((key, _), result) =>
      match result with
      | some conclusion => c.setConclusion key conclusion
      | none => c) c) := by
  induction pairs generalizing c with
  | nil => exact .refl c
  | cons pair pairs ih =>
    obtain ⟨⟨key, old⟩, result⟩ := pair
    cases result with
    | none => exact ih c
    | some conclusion => exact (keeps_setConclusion c key conclusion).trans (ih _)

theorem keeps_substitute (q : SubstitutionRequest) (results : List (Option Text)) :
    Keeps c (c.substitute q results).canvas := by
  rw [substitute]
  split
  next => exact .refl c
  next => exact keeps_foldl_setConclusion c _

theorem reshapes_addRoot (conclusion : Text) (free : Bool) (body : Body) :
    Reshapes c (c.addRoot conclusion free body).2 := by
  refine Reshapes.note (reshapes_renumber ?_ ?_) _
  case refine_2 => rfl
  have h := Regrown.root (c := c)
  simpa [Canvas.shape, Forest.map_append, Forest.map] using h

theorem reshapes_refilled {key : Nat} (hk : key ∈ c.shape.preorder) {g : Node → Node}
    (hg : ∀ n, (g n).key = n.key) (free : Bool) (premises : List Text) :
    Reshapes c (c.refilled key g free premises) := by
  refine reshapes_renumber ?_ rfl
  have h := Regrown.branch (c := c) key premises.length hk
  have hh : (c.holes free premises).map Node.key
      = .ofValues (List.range' c.nextKey premises.length) := by
    rw [holes, Forest.map_ofValues, List.map_map]
    refine congrArg Forest.ofValues (List.ext_getElem (by simp) fun i hi hj => ?_)
    simp
  have hs : (c.forest.update (fun n => n.key == key) fun t =>
        ⟨g t.value, c.holes free premises⟩).map Node.key
      = (c.forest.map Node.key).update (· == key) fun t =>
        ⟨t.value, .ofValues (List.range' c.nextKey premises.length)⟩ :=
    Forest.map_update (fun _ => rfl) fun t _ => by simp [hg, hh]
  simpa only [Canvas.shape, change, hs] using h

theorem reshapes_removeRoot (id : Nat) :
    (∃ cause, c.removeRoot id = c.refuse cause) ∨
      (c.removeRoot id).answer = .ok () ∧ Reshapes c (c.removeRoot id).canvas := by
  rcases c.removeRoot_cases id with ⟨cause, -, h⟩ | ⟨t, target, -, htop, h⟩
  · exact Or.inl ⟨cause, h⟩
  · rw [h]
    refine Or.inr ⟨rfl, Reshapes.note (reshapes_renumber ?_ ?_) _⟩
    case refine_2 => rfl
    have hm : t.value.key ∈ c.shape.tops := by rwa [Canvas.shape, Forest.tops_map]
    have hcut := Regrown.cut (c := c) t.value.key hm
    rwa [Canvas.shape, ← Forest.map_eraseTops (p := fun n => n.key == t.value.key)
      (fun _ => rfl)] at hcut

theorem reshapes_attachRule (q : RuleRequest) (premises : List Text) :
    (∃ cause, c.attachRule q premises = c.refuse cause) ∨
      (c.attachRule q premises).answer = .ok () ∧ Reshapes c (c.attachRule q premises).canvas := by
  rcases c.attachRule_cases q premises with h | ⟨n, c', children, hn, -, -, hc, -, h⟩
  · exact Or.inl ⟨_, h⟩
  · have hr := reshapes_refilled c (key_mem_of_node? hn)
      (g := fun m => { m with body := .ruled q.rule, expanded := true }) (fun _ => rfl)
      n.free premises
    rw [h, hc]
    exact Or.inr ⟨rfl, (hr.note _).noteLineage _⟩

theorem reshapes_promote (q : TopDownRequest) (conclusion : Text) :
    (∃ cause, c.promote q conclusion = c.refuse cause) ∨
      (c.promote q conclusion).answer = .ok () ∧ Reshapes c (c.promote q conclusion).canvas := by
  rcases c.promote_cases q conclusion with h | ⟨n, c', hn, -, hc, h⟩
  · exact Or.inl ⟨_, h⟩
  · have hr := reshapes_refilled c (key_mem_of_node? hn)
      (g := fun m => { m with conclusion, body := .ruled q.rule }) (fun _ => rfl)
      n.free q.premises
    rw [h, hc]
    exact Or.inr ⟨rfl, (hr.note _).noteLineage _⟩

/-- Deleting a rule finds no node, finds nothing to delete, or refills the node with nothing. -/
theorem reshapes_deleteRule (id : Nat) :
    (c.resolve? id = none ∧ c.deleteRule id = c.refuse (.unknownTarget id)) ∨
      ∃ t target, c.resolve? id = some (t, target) ∧
        (t.value.progress = .empty ∧ c.deleteRule id = ⟨.ok (), c⟩ ∨
          t.value.progress ≠ .empty ∧ Reshapes c (c.deleteRule id).canvas) := by
  rcases c.deleteRule_cases id with h | ⟨t, target, ht, h | ⟨hp, c', hc, h⟩⟩
  · exact Or.inl h
  · exact Or.inr ⟨t, target, ht, Or.inl h⟩
  · have hr := reshapes_refilled c (key_mem_shape (mem_of_resolve? ht))
      (g := fun m => { m with body := .hole }) (fun _ => rfl) false []
    rw [h, hc]
    exact Or.inr ⟨t, target, ht, Or.inr ⟨hp, (hr.note _).noteLineage _⟩⟩

end Operations

end Canvas

end ProofDesk
