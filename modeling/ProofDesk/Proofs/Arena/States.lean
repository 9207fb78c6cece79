import ProofDesk.Proofs.Arena.Links

namespace ProofDesk

namespace Arena

/-- The fields of every node are in a combination that may be, whatever wrote them. -/
structure Legal (a : Arena) : Prop where
  exclusive : ∀ (k : Nat) (s : Slot), a.nodes[k]? = some s → s.rule? = none ∨ s.subtree? = none
  branching : ∀ (k : Nat) (s : Slot), a.nodes[k]? = some s → s.children ≠ [] →
    s.rule? ≠ none ∧ s.subtree? = none
  topDown : ∀ (k : Nat) (s : Slot) (premises : List Text), a.nodes[k]? = some s →
    s.gathered? = some premises →
      k ∈ a.roots ∧ s.conclusion = [] ∧ s.rule? = none ∧ s.subtree? = none ∧ s.children = [] ∧
        ∀ p ∈ premises, ∃ x ∈ p, isBlank x = false
  free : ∀ (r k : Nat) (top s : Slot), r ∈ a.roots → Relation.ReflTransGen a.Links r k →
    a.nodes[r]? = some top → a.nodes[k]? = some s → s.free = top.free

variable {a : Arena} {c : Canvas} {key : Nat} {s : Slot}

theorem Carries.exists_row (h : a.Carries c) (hs : a.nodes[key]? = some s) :
    ∃ n children, (n, children) ∈ c.forest.rows ∧ n.key = key ∧ s = n.slot children := by
  obtain ⟨⟨n, children⟩, hrow, he⟩ := List.mem_map.mp (h.nodes.getElem?_iff.mp hs)
  obtain ⟨hk, hslot⟩ := Prod.mk.inj he
  exact ⟨n, children, hrow, hk, hslot.symm⟩

theorem Carries.free_of_links (h : a.Carries c) (hs : c.Sound) (hrests : c.Rests) {parent child : Nat}
    (hlink : a.Links parent child) {above below : Slot} (hp : a.nodes[parent]? = some above)
    (hc : a.nodes[child]? = some below) : below.free = above.free := by
  rw [Links, childrenOf_eq hp] at hlink
  obtain ⟨n, children, hrow, -, rfl⟩ := h.exists_row hp
  obtain ⟨m, hm, rfl⟩ := List.mem_map.mp hlink
  obtain ⟨m', children', hrow', hk, rfl⟩ := h.exists_row hc
  have hcovers : c.forest.Covers n m := ⟨children, hrow, hm⟩
  obtain rfl : m' = m :=
    hs.eq_of_key_eq (Forest.mem_preorder_of_row hrow') (Forest.mem_of_covers hcovers).2 hk
  exact ((hrests _ hrow).below m' hm).2

theorem Carries.legal (h : a.Carries c) (hs : c.Sound) (hrests : c.Rests) : a.Legal where
  exclusive k s hk := by
    obtain ⟨n, children, -, -, rfl⟩ := h.exists_row hk
    cases hb : n.body <;> simp [Node.slot, Node.payload, Node.attached?, Node.subtree?, hb]
  branching k s hk hne := by
    obtain ⟨n, children, hrow, -, rfl⟩ := h.exists_row hk
    have hchildren : children ≠ [] := fun he => hne (by rw [he]; rfl)
    obtain ⟨rule, hrule⟩ := (hrests _ hrow).ruled hchildren
    have hbody : n.body = .ruled rule := hrule
    simp [Node.slot, Node.payload, Node.attached?, Node.subtree?, hbody]
  topDown k s premises hk hgathered := by
    obtain ⟨n, children, hrow, hkey, rfl⟩ := h.exists_row hk
    have hbody : n.body = .gathering premises := by
      rw [Node.gathered?_slot, Node.gathered?] at hgathered
      cases hb : n.body <;> simp [hb] at hgathered
      rw [hgathered]
    obtain ⟨hconclusion, hblank⟩ := (hrests _ hrow).gathered premises hbody
    obtain rfl : children = [] := (hrests _ hrow).eq_nil fun rule hrule => by
      rw [hbody] at hrule
      cases hrule
    have hroot : n ∈ c.forest.tops := by
      -- a node below another one does not gather premises
      refine (Forest.mem_tops_or_exists_row (Forest.mem_preorder_of_row hrow)).resolve_right ?_
      rintro ⟨above, habove, hm⟩
      have hnot := ((hrests above habove).below n hm).1
      simp [Node.isTopDown, hbody] at hnot
    refine ⟨?_, hconclusion, ?_, ?_, rfl, fun p hp => ?_⟩
    · rw [h.roots, ← hkey]
      exact List.mem_map_of_mem hroot
    · simp [Node.slot, Node.payload, Node.attached?, hbody]
    · simp [Node.slot, Node.payload, Node.subtree?, hbody]
    · simpa [Text.isBlankText] using hblank p hp
  free r k top s _ hreach hr hk := by
    induction hreach generalizing s with
    | refl => rw [Option.some.inj (hk.symm.trans hr)]
    | @tail parent child _ hlink ih =>
      cases hp : a.nodes[parent]? with
      | none => simp [Links, childrenOf, hp] at hlink
      | some above => rw [h.free_of_links hs hrests hlink hp hk, ih above hp]

namespace Bench

/-- Every run on an arena ends, and leaves each node in a state that it may be in. -/
theorem legal_run (steps : List (Walk × Action)) :
    ∃ b, run {} steps = some b ∧ b.arena.Legal := by
  obtain ⟨b, hrun, hstores⟩ := exists_run steps
  exact ⟨b, hrun, hstores.arena.legal (Workbench.sound_run _) (Workbench.rests_run _)⟩

end Bench

end Arena

end ProofDesk
