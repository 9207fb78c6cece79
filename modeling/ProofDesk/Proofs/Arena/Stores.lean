import ProofDesk.Proofs.Arena.Walks
import ProofDesk.Proofs.Canvas.Numbering

namespace ProofDesk

namespace Arena

/-- The arena has the proofs of the canvas, whatever its ids are. -/
structure Carries (a : Arena) (c : Canvas) : Prop where
  nodes : Lists a.nodes c.forest.slots
  nextKey : a.nextKey = c.nextKey
  roots : a.roots = c.roots
  nextId : a.nextId = c.nextId
  events : a.events = c.events

/-- The arena has the proofs of the canvas, with its ids. -/
structure Stores (a : Arena) (c : Canvas) : Prop extends Carries a c where
  ids : Mounts a.mounts a.mounted c.forest.preorder

variable {a : Arena} {c : Canvas} {key : Nat} {t : Tree Node}

theorem stores_empty : ({} : Arena).Stores {} :=
  ⟨⟨lists_empty, rfl, rfl, rfl, rfl⟩, lists_empty, lists_empty⟩

theorem Carries.exists_mount (h : a.Carries c)
    (distinct : (c.forest.preorder.map Node.key).Nodup) :
    ∃ a', a.mount = some a' ∧ a'.Stores c.renumber := by
  let blank : Arena := { a with mounts := {}, mounted := {} }
  obtain ⟨mounts, mounted, hm, hwalk⟩ := exists_mountFrom (f := c.forest) (a := blank)
    [] (Forest.isIn_of_lists h.nodes) ⟨lists_empty, lists_empty⟩
    (by rwa [List.nil_append]) (by simp)
  have hroots : a.roots = c.forest.tops.map Node.key := h.roots
  refine ⟨{ a with nextId := a.nextId + 2 * c.forest.size, mounts, mounted }, ?_, ?_⟩
  · rw [List.append_nil, ← hroots] at hwalk
    exact hwalk.trans (mountFrom.eq_1 _)
  · have hshape : (c.forest.number c.nextId).tops.map Node.key = c.forest.tops.map Node.key := by
      have hmap := congrArg Forest.tops (Forest.map_key_number c.nextId c.forest)
      rwa [Forest.tops_map, Forest.tops_map] at hmap
    refine ⟨⟨?_, h.nextKey, ?_, ?_, h.events⟩, ?_⟩
    · rw [Canvas.renumber, Forest.slots_number]
      exact h.nodes
    · rw [Canvas.roots, Canvas.renumber, hshape]
      exact h.roots
    · rw [Canvas.renumber, ← h.nextId]
    · rw [Canvas.renumber, ← h.nextId]
      exact hm

theorem Stores.note (h : a.Stores c) (e : Event) : (a.note e).Stores (c.note e) :=
  ⟨⟨h.nodes, h.nextKey, h.roots, h.nextId, by rw [Arena.note, Canvas.note, h.events]⟩, h.ids⟩

theorem Stores.takeEvents (h : a.Stores c) : a.takeEvents.2.Stores c.takeEvents.2 :=
  ⟨⟨h.nodes, h.nextKey, h.roots, h.nextId, rfl⟩, h.ids⟩

theorem Carries.tree (h : a.Carries c) (ht : c.tree? key = some t) :
    a.nodes[key]? = some (t.value.slot t.below.tops) ∧ t.below.IsIn a.nodes := by
  obtain ⟨e, he, -, hk⟩ := Forest.exists_fill_of_find? ht
  obtain rfl : t.value.key = key := by simpa using hk
  have hin := Forest.isIn_of_lists h.nodes
  rw [he] at hin
  exact hin.below_of_fill

theorem Carries.getElem?_eq (h : a.Carries c) (key : Nat) :
    a.nodes[key]? = (c.tree? key).map fun t => t.value.slot t.below.tops := by
  cases ht : c.tree? key with
  | some t => exact (h.tree ht).1
  | none =>
    refine h.nodes.getElem?_eq_none fun hk => ?_
    rw [Forest.map_fst_slots] at hk
    obtain ⟨n, hn, rfl⟩ := List.mem_map.mp hk
    simpa using Forest.find?_eq_none_iff.mp ht n hn

theorem Carries.derivationOf?_eq (h : a.Carries c) (ht : c.tree? key = some t) :
    a.derivationOf? key = some t.derivation? := by
  obtain ⟨htop, hbelow⟩ := h.tree ht
  obtain ⟨-, hk⟩ := Canvas.mem_of_tree? ht
  rw [← hk] at htop ⊢
  exact Arena.derivationOf?_eq htop hbelow

namespace Stores

variable (h : a.Stores c) (hs : c.Sound)

include h hs

theorem mounts_eq (id : Nat) :
    a.mounts[id]? = (c.forest.find? fun n => n.id == id).map fun t => t.value.key := by
  refine Option.ext fun k => ?_
  rw [h.ids.byId.getElem?_iff, Forest.map_find?_eq_some_iff hs.distinct_ids]
  simp

theorem mounted_eq (key : Nat) : a.mounted[key]? = (c.node? key).map Node.id := by
  refine Option.ext fun id => ?_
  rw [h.ids.byKey.getElem?_iff, Canvas.node?, Canvas.tree?, Option.map_map]
  rw [show Node.id ∘ Tree.value = fun t : Tree Node => t.value.id from rfl,
    Forest.map_find?_eq_some_iff hs.distinct_keys]
  simp

theorem mountId_eq (key : Nat) : a.mountId key = c.idOf key := by
  rw [mountId, h.mounted_eq hs, Canvas.idOf]

theorem mountId_of_mem {n : Node} (hn : n ∈ c.forest.preorder) : a.mountId n.key = n.id := by
  rw [h.mountId_eq hs, Canvas.idOf, hs.node?_key hn]
  rfl

theorem map_mountId_tops (ht : c.tree? key = some t) :
    (t.below.tops.map Node.key).map a.mountId = t.below.tops.map Node.id := by
  obtain ⟨e, he, -⟩ := Forest.exists_fill_of_find? ht
  rw [List.map_map]
  refine List.map_congr_left fun n hn => h.mountId_of_mem hs ?_
  rw [he, e.preorder_fill]
  simp [Forest.tops_subset_preorder _ hn]

theorem resolve?_eq (id : Nat) :
    a.resolve? id = (c.resolve? id).map fun r => (r.1.value.key, r.2) := by
  have hrule : ∀ copy, (fun n : Node => n.id + 1 == copy + 1) = fun n => n.id == copy := by
    intro copy
    funext n
    simp
  rw [resolve?.eq_def, h.mounts_eq hs, Canvas.resolve?]
  cases c.forest.find? fun n => n.id == id with
  | some t => rfl
  | none =>
    cases id with
    | zero =>
      have hnone : (c.forest.find? fun n => n.id + 1 == 0) = none :=
        Forest.find?_eq_none_iff.mpr fun n _ => by simp
      rw [hnone]
      rfl
    | succ copy =>
      simp only [Option.map_none, hrule, h.mounts_eq hs]
      cases c.forest.find? fun n => n.id == copy <;> rfl

omit hs in
/-- A walk meets the entries of the canvas, in an order of its own. -/
theorem walk_perm (w : Walk) : ((w.entries a.nodes).map fun e => (e.1, e.2.children)).Perm
    c.entries := by
  have hentries : c.entries = c.forest.slots.map fun e => (e.1, e.2.children) := by
    rw [Canvas.entries, Forest.slots, List.map_map]
    rfl
  rw [hentries]
  exact ((w.perm a.nodes).trans h.nodes).map _

omit h hs in
theorem parentOf?_eq (a : Arena) (w : Walk) (key : Nat) :
    a.parentOf? w key =
      parentIn ((w.entries a.nodes).map fun e => (e.1, e.2.children)) key := by
  rw [parentOf?, parentIn]
  generalize w.entries a.nodes = entries
  induction entries with
  | nil => rfl
  | cons e entries ih =>
    rw [List.findSome?_cons, List.map_cons, List.find?_cons]
    by_cases hm : key ∈ e.2.children
    · simp [hm]
    · simpa [hm] using ih

theorem parentOf?_iff (w : Walk) {parent : Nat} :
    a.parentOf? w key = some parent ↔ c.Links parent key := by
  rw [parentOf?_eq]
  exact hs.parentIn_iff (h.walk_perm w)

/-- The way up from a live node is its lineage, and it ends at a root. -/
theorem exists_climbs (w : Walk) (hk : key ∈ c.shape.preorder) :
    ∃ above, (c.lineage key).map Node.key = key :: above ∧ a.Climbs w key above ∧
      ∃ r ∈ c.roots, (key :: above).getLast? = some r := by
  rw [← Canvas.keys_entries] at hk
  obtain ⟨above, hl, hchain, r, hr, hlast, hnone⟩ := hs.upward (h.walk_perm w) hk
  refine ⟨above, hl, ⟨?_, fun last hl' => ?_⟩, r, hr, hlast⟩
  · exact hchain.imp fun child parent hp => (parentOf?_eq a w child).trans hp
  · obtain rfl : r = last := Option.some.inj (hlast.symm.trans hl')
    exact (parentOf?_eq a w r).trans hnone

theorem derivationOf?_lineage {keys : List Nat} (hl : (c.lineage key).map Node.key = keys) :
    ∀ k ∈ keys, a.derivationOf? k = some (c.derivationOf? k) := by
  intro k hmem
  rw [← hl] at hmem
  obtain ⟨n, hn, rfl⟩ := List.mem_map.mp hmem
  have hnode := hs.node?_key (Canvas.mem_of_mem_lineage hn)
  obtain ⟨t, ht, -⟩ := Option.map_eq_some_iff.mp hnode
  rw [h.derivationOf?_eq ht, Canvas.derivationOf?, ht]
  rfl

theorem exists_notifyAncestors (w : Walk) (hk : key ∈ c.shape.preorder) :
    ∃ a', a.notifyAncestors w key = some a' ∧ a'.Stores (c.noteLineage key) := by
  obtain ⟨above, hl, hclimbs, -⟩ := h.exists_climbs hs w hk
  have hproofs := h.derivationOf?_lineage hs hl
  refine ⟨_, hclimbs.notifyAncestors hproofs, ?_⟩
  have hevents : (key :: above).map (fun k =>
      Event.derivationChanged (a.mountId k) (c.derivationOf? k).isSome) =
      (c.lineage key).map fun n => .derivationChanged n.id (c.derivationOf? n.key).isSome := by
    rw [← hl, List.map_map]
    refine List.map_congr_left fun n hn => ?_
    rw [Function.comp_apply, h.mountId_of_mem hs (Canvas.mem_of_mem_lineage hn)]
  refine ⟨⟨h.nodes, h.nextKey, h.roots, h.nextId, ?_⟩, h.ids⟩
  rw [hevents, h.events]
  rfl

end Stores

end Arena

end ProofDesk
