import ProofDesk.Proofs.Arena.Run

namespace ProofDesk

namespace Arena

def Links (a : Arena) (parent child : Nat) : Prop :=
  child ∈ a.childrenOf parent

/-- The keys of the roots, then those in the children of all nodes. -/
def occurrences (a : Arena) : List Nat :=
  a.roots ++ a.nodes.toList.flatMap fun e => e.2.children

/-- The links of an arena make a forest, and the ids of its nodes follow them. -/
structure IsForest (a : Arena) : Prop where
  live : ∀ k ∈ a.occurrences, k ∈ a.nodes
  once : ∀ k ∈ a.nodes, a.occurrences.count k = 1
  reached : ∀ k ∈ a.nodes, ∃ r ∈ a.roots, Relation.ReflTransGen a.Links r k
  acyclic : ∀ k, ¬Relation.TransGen a.Links k k
  parent : ∀ (w : Walk) (k p : Nat), a.parentOf? w k = some p ↔ a.Links p k
  mounted : ∀ id key : Nat, a.mounts[id]? = some key ↔ a.mounted[key]? = some id
  everyone : ∀ key : Nat, key ∈ a.mounted ↔ key ∈ a.nodes
  inverse : ∀ (w : Walk) (i j k l : Nat) (x y : Target), a.resolve? i = some (k, x) →
    a.resolve? j = some (l, y) →
      (a.mountId l ∈ a.childIds i ↔ a.parentId? w j = some (a.mountId k))
  upward : ∀ (w : Walk), ∀ k ∈ a.nodes, ∃ above, a.ancestors w k = some above ∧
    List.IsChain (fun child parent => a.parentOf? w child = some parent) (k :: above) ∧
      ∃ r ∈ a.roots, (k :: above).getLast? = some r ∧ a.parentOf? w r = none
  notified : ∀ (w : Walk), ∀ k ∈ a.nodes, ∃ above, a.ancestors w k = some above ∧
    ∃ proofs : Nat → Option Derivation, (∀ n ∈ k :: above, a.derivationOf? n = some (proofs n)) ∧
      a.notifyAncestors w k = some { a with
        events := a.events ++ (k :: above).map fun n =>
          Event.derivationChanged (a.mountId n) (proofs n).isSome }

variable {a : Arena} {c : Canvas} {key : Nat}

namespace Carries

variable (h : a.Carries c)

include h

theorem mem_nodes_iff : key ∈ a.nodes ↔ key ∈ c.shape.preorder := by
  rw [h.nodes.mem_iff, Forest.map_fst_slots, Canvas.shape, Forest.preorder_map]

theorem links_iff {parent child : Nat} : a.Links parent child ↔ c.Links parent child := by
  have hentries : c.entries = c.forest.slots.map fun e => (e.1, e.2.children) := by
    rw [Canvas.entries, Forest.slots, List.map_map]
    rfl
  rw [Links, childrenOf, Canvas.Links, hentries]
  constructor
  · intro hchild
    cases hs : a.nodes[parent]? with
    | none => simp [hs] at hchild
    | some s =>
      rw [hs] at hchild
      exact ⟨s.children, List.mem_map.mpr ⟨_, h.nodes.getElem?_iff.mp hs, rfl⟩, hchild⟩
  · rintro ⟨children, hm, hchild⟩
    obtain ⟨e, he, heq⟩ := List.mem_map.mp hm
    obtain ⟨rfl, rfl⟩ := Prod.mk.inj heq
    rw [h.nodes.getElem?_iff.mpr he]
    exact hchild

theorem links_eq : a.Links = c.Links :=
  funext fun _ => funext fun _ => propext h.links_iff

theorem occurrences_perm : a.occurrences.Perm (c.entries.map Prod.fst) := by
  have hchildren : c.entries.flatMap Prod.snd = c.forest.slots.flatMap fun e => e.2.children := by
    rw [Canvas.entries, Forest.slots, List.flatMap_map, List.flatMap_map]
    rfl
  have hperm := Canvas.Sound.occurrences_perm c
  rw [hchildren] at hperm
  refine List.Perm.trans ?_ hperm
  rw [occurrences, h.roots]
  exact (h.nodes.flatMap_right _).append_left _

end Carries

theorem Stores.isForest (h : a.Stores c) (hs : c.Sound) : a.IsForest := by
  have hperm := h.occurrences_perm
  rw [Canvas.keys_entries] at hperm
  refine
    { live := fun k hk => h.mem_nodes_iff.mpr (hperm.subset hk)
      once := fun k hk => ?_
      reached := fun k hk => ?_
      acyclic := fun k hk => hs.acyclic k (h.links_eq ▸ hk)
      parent := fun w k p => (h.parentOf?_iff hs w).trans h.links_iff.symm
      mounted := fun id key => ?_
      everyone := fun key => ?_
      inverse := fun w i j k l x y hi hj => ?_
      upward := fun w k hk => ?_
      notified := fun w k hk => ?_ }
  · rw [hperm.count_eq]
    exact List.count_eq_one_of_mem hs.distinct (h.mem_nodes_iff.mp hk)
  · rw [h.roots, h.links_eq, Canvas.roots_eq, Canvas.links_eq]
    exact Forest.exists_top_reaches (h.mem_nodes_iff.mp hk)
  · rw [h.ids.byId.getElem?_iff, h.ids.byKey.getElem?_iff]
    simp [and_comm]
  · rw [h.ids.byKey.mem_iff, h.mem_nodes_iff, Canvas.shape, Forest.preorder_map, List.map_map]
    rfl
  · rw [h.resolve?_eq hs] at hi hj
    obtain ⟨⟨s, place⟩, hs', hk⟩ := Option.map_eq_some_iff.mp hi
    obtain ⟨⟨t, place'⟩, ht', hl⟩ := Option.map_eq_some_iff.mp hj
    obtain ⟨rfl, -⟩ := Prod.mk.inj hk
    obtain ⟨rfl, -⟩ := Prod.mk.inj hl
    have hsm := Canvas.mem_of_resolve? hs'
    have htm := Canvas.mem_of_resolve? ht'
    rw [h.childIds hs, h.parentId? hs, h.mountId_of_mem hs hsm, h.mountId_of_mem hs htm,
      hs.mem_childIds_iff hs' htm, hs.parentId?_eq_some_iff hsm ht']
  · obtain ⟨above, -, hclimbs, r, hr, hlast⟩ := h.exists_climbs hs w (h.mem_nodes_iff.mp hk)
    exact ⟨above, hclimbs.ancestors, hclimbs.chain, r, h.roots ▸ hr, hlast, hclimbs.top r hlast⟩
  · obtain ⟨above, hlineage, hclimbs, -⟩ := h.exists_climbs hs w (h.mem_nodes_iff.mp hk)
    have hproofs := h.derivationOf?_lineage hs hlineage
    exact ⟨above, hclimbs.ancestors, c.derivationOf?, hproofs, hclimbs.notifyAncestors hproofs⟩

namespace Bench

/-- Every run on an arena ends, and leaves links that make a forest. -/
theorem isForest_run (steps : List (Walk × Action)) :
    ∃ b, run {} steps = some b ∧ b.arena.IsForest := by
  obtain ⟨b, hrun, hstores⟩ := exists_run steps
  exact ⟨b, hrun, hstores.arena.isForest (Workbench.sound_run _)⟩

end Bench

end Arena

end ProofDesk
