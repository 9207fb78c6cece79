import ProofDesk.Proofs.Canvas.Run
import ProofDesk.Proofs.Forest.Place

namespace ProofDesk

namespace Forest

/-- New numbers below one value keep numbers distinct, below the counter and rising. -/
theorem distinct_rising_branch {f : Forest Nat} {k next n : Nat} (hk : k ∈ f.preorder)
    (distinct : f.preorder.Nodup) (fresh : ∀ x ∈ f.preorder, x < next) (rising : f.Rising)
    {f' : Forest Nat}
    (hf : f' = f.update (· == k) fun t => ⟨t.value, .ofValues (List.range' next n)⟩) :
    f'.preorder.Nodup ∧ (∀ x ∈ f'.preorder, x < next + n) ∧ f'.Rising := by
  obtain ⟨t, ht⟩ := exists_find?_of_mem (p := (· == k)) hk (beq_self_eq_true k)
  have hmap : (f.preorder.map fun x => x).Nodup := by simpa using distinct
  obtain ⟨e, he, hv, -, hu⟩ := exists_fill_of_distinct hmap ht
  obtain ⟨v, old⟩ := t
  subst he hv
  rw [hf, hu]
  simp only [Context.preorder_fill, preorder_ofValues] at distinct fresh ⊢
  -- the new numbers start where the old ones end, so no new one is an old one or below one
  have hrange : ∀ x ∈ List.range' next n, next ≤ x ∧ x < next + n := by
    intro x hx
    simpa using hx
  have hsub : (e.left ++ v :: e.right).Sublist (e.left ++ v :: (old.preorder ++ e.right)) :=
    ((List.sublist_append_right _ _).cons_cons v).append_left _
  refine ⟨?_, ?_, ?_⟩
  · have hperm : (e.left ++ v :: (List.range' next n ++ e.right)).Perm
        (List.range' next n ++ (e.left ++ v :: e.right)) :=
      (List.perm_middle.symm.append_left _).trans (List.perm_append_comm_assoc _ _ _)
    refine hperm.nodup_iff.mpr (List.Nodup.append List.nodup_range' (distinct.sublist hsub) ?_)
    intro x hx hm
    have hlow := fresh x (hsub.subset hm)
    have hhigh := hrange x hx
    omega
  · intro x hx
    by_cases hr : x ∈ List.range' next n
    · exact (hrange x hr).2
    · have hold : x ∈ e.left ++ v :: e.right := by
        simp only [List.mem_append, List.mem_cons] at hx ⊢
        tauto
      have hlow := fresh x (hsub.subset hold)
      omega
  · refine rising.fill (rising_ofValues _) fun b hb => ?_
    rw [preorder_ofValues] at hb
    have hhigh := hrange b hb
    refine ⟨?_, fun a ha => ?_⟩
    · have hlow := fresh v (by simp)
      omega
    · have hlow := fresh a (List.mem_append_left _ (Context.mem_left_of_mem_above ha))
      omega

end Forest

namespace Canvas

/-- The invariant of a canvas. -/
structure Sound (c : Canvas) : Prop where
  distinct : c.shape.preorder.Nodup
  fresh : ∀ k ∈ c.shape.preorder, k < c.nextKey
  rising : c.shape.Rising
  ids : c.ids = (List.range c.forest.size).map fun i => c.firstId + 2 * i
  room : 2 * c.forest.size ≤ c.nextId
  even : c.nextId % 2 = 0

theorem sound_empty : ({} : Canvas).Sound :=
  ⟨.nil, by simp [shape, Forest.map, Forest.preorder], trivial, rfl, Nat.zero_le _, rfl⟩

variable {c c' : Canvas}

theorem Keeps.firstId (h : Keeps c c') : c'.firstId = c.firstId := by
  rw [Canvas.firstId, Canvas.firstId, h.nextId, h.size]

theorem Reshapes.firstId (h : Reshapes c c') : c'.firstId = c.nextId := by
  rw [Canvas.firstId, h.nextId, Nat.add_sub_cancel]

theorem Sound.keeps (hs : c.Sound) (h : Keeps c c') : c'.Sound where
  distinct := h.shape ▸ hs.distinct
  fresh := by rw [h.shape, h.nextKey]; exact hs.fresh
  rising := h.shape ▸ hs.rising
  ids := by rw [h.ids, hs.ids, h.size, h.firstId]
  room := by rw [h.size, h.nextId]; exact hs.room
  even := h.nextId ▸ hs.even

theorem Sound.regrown (hs : c.Sound) {f : Forest Nat} {next : Nat} (h : Regrown c f next) :
    f.preorder.Nodup ∧ (∀ k ∈ f.preorder, k < next) ∧ f.Rising := by
  cases h with
  | root =>
    have hnew : c.nextKey ∉ c.shape.preorder := fun hm => Nat.lt_irrefl _ (hs.fresh _ hm)
    refine ⟨?_, ?_, hs.rising.append ⟨by simp [Forest.preorder], trivial, trivial⟩⟩
    · simpa [Forest.preorder] using List.nodup_append.mpr ⟨hs.distinct, List.nodup_singleton _,
        fun a ha b hb he => hnew (by rwa [← List.mem_singleton.mp hb, ← he])⟩
    · intro k hk
      simp only [Forest.preorder_append, Forest.preorder, List.append_nil, List.mem_append,
        List.mem_singleton] at hk
      rcases hk with hk | rfl
      · have := hs.fresh k hk
        omega
      · omega
  | cut k hk =>
    have hsub := Forest.preorder_eraseTops_sublist (· == k) c.shape
    exact ⟨hs.distinct.sublist hsub, fun x hx => hs.fresh x (hsub.subset hx),
      hs.rising.eraseTops _⟩
  | branch k n hk => exact Forest.distinct_rising_branch hk hs.distinct hs.fresh hs.rising rfl

theorem Sound.reshapes (hs : c.Sound) (h : Reshapes c c') : c'.Sound where
  distinct := (hs.regrown h.shape).1
  fresh := (hs.regrown h.shape).2.1
  rising := (hs.regrown h.shape).2.2
  ids := by rw [h.ids, h.firstId]
  room := by rw [h.nextId]; omega
  even := by have := hs.even; rw [h.nextId]; omega

namespace Sound

variable (hs : c.Sound)

include hs

theorem distinct_keys : (c.forest.preorder.map Node.key).Nodup := by
  have hd := hs.distinct
  rwa [shape, Forest.preorder_map] at hd

theorem distinct_nodes : c.forest.preorder.Nodup :=
  hs.distinct_keys.of_map _

theorem distinct_ids : (c.forest.preorder.map Node.id).Nodup := by
  have hi := hs.ids
  rw [Canvas.ids] at hi
  rw [hi]
  refine List.nodup_range.map_on fun a _ b _ hab => ?_
  omega

theorem eq_of_id_eq {m n : Node} (hm : m ∈ c.forest.preorder) (hn : n ∈ c.forest.preorder)
    (h : m.id = n.id) : m = n :=
  List.inj_on_of_nodup_map hs.distinct_ids hm hn h

theorem eq_of_key_eq {m n : Node} (hm : m ∈ c.forest.preorder) (hn : n ∈ c.forest.preorder)
    (h : m.key = n.key) : m = n :=
  List.inj_on_of_nodup_map hs.distinct_keys hm hn h

theorem eq_of_node? {key : Nat} {m n : Node} (h : c.node? key = some n)
    (hm : m ∈ c.forest.preorder) (hk : m.key = key) : m = n := by
  obtain ⟨t, ht, rfl⟩ := Option.map_eq_some_iff.mp h
  obtain ⟨hmem, hkey⟩ := mem_of_tree? ht
  exact hs.eq_of_key_eq hm hmem (hk.trans hkey.symm)

theorem node?_key {n : Node} (hn : n ∈ c.forest.preorder) : c.node? n.key = some n := by
  obtain ⟨t, ht⟩ := Forest.exists_find?_of_mem (p := fun m => m.key == n.key) hn (by simp)
  have hsome : c.node? n.key = some t.value := by rw [node?, tree?, ht, Option.map_some]
  rw [hsome, hs.eq_of_node? hsome hn rfl]

/-- The surroundings of a tree that is found, and the way up from it. -/
theorem exists_fill {p : Node → Bool} {t : Tree Node} (h : c.forest.find? p = some t) :
    ∃ e : Forest.Context Node, c.forest = e.fill t ∧
      c.lineage t.value.key = t.value :: e.above := by
  obtain ⟨e, he, -, -⟩ := Forest.exists_fill_of_find? h
  have hd := hs.distinct_keys
  rw [he] at hd
  have hl : ∀ a ∈ e.left, (a.key == t.value.key) = false := fun a ha => by
    simpa using (Forest.Context.ne_of_mem_tree hd List.mem_cons_self).1 a ha
  refine ⟨e, he, ?_⟩
  rw [lineage, he, Forest.Context.path?_fill hl (beq_self_eq_true _), Option.getD_some]

/-- A tree that an id stands for is found by its key. -/
theorem tree?_of_resolve? {id : Nat} {t : Tree Node} {target : Target}
    (ht : c.resolve? id = some (t, target)) : c.tree? t.value.key = some t := by
  obtain ⟨p, hfound⟩ := find?_of_resolve? ht
  exact Forest.find?_mark_of_distinct hs.distinct_keys hfound

theorem mem_of_mem_reached {id : Nat} {t : Tree Node} {target : Target}
    (ht : c.resolve? id = some (t, target)) {d : Direction} {n : Node} (hn : n ∈ c.reached t d) :
    n ∈ c.forest.preorder := by
  obtain ⟨p, hp⟩ := find?_of_resolve? ht
  obtain ⟨e, he, hl⟩ := hs.exists_fill hp
  rw [he, e.preorder_fill]
  rw [reached, hl, List.drop_one, List.tail_cons, List.mem_append, List.mem_cons] at hn
  rcases hn with (rfl | hn) | hn
  · simp
  · have habove : n ∈ e.above := by
      split at hn
      next => exact hn
      next => cases hn
    exact List.mem_append_left _ (Forest.Context.mem_left_of_mem_above habove)
  · have hbelow : n ∈ t.below.preorder := by
      split at hn
      next => exact t.below.fromLast_perm_preorder.mem_iff.mp hn
      next => cases hn
    simp [hbelow]

end Sound

end Canvas

namespace Workbench

theorem sound_act (w : Workbench) (a : Action) (h : w.canvas.Sound) : (w.act a).canvas.Sound := by
  cases a with
  | takeEvents => exact h.keeps w.keeps_takeEvents
  | command cmd =>
    rcases w.perform_cases cmd with ⟨-, hr⟩ | ⟨-, hk⟩
    · exact h.reshapes hr
    · exact h.keeps hk

theorem sound_run (actions : List Action) : (run {} actions).canvas.Sound :=
  run_preserves sound_act Canvas.sound_empty actions

end Workbench

end ProofDesk
