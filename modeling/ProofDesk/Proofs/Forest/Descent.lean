import ProofDesk.Proofs.Forest.Place

namespace ProofDesk

namespace Forest

variable {α : Type} {f : Forest α} {a b r : α}

/-- A chain of links upwards that ends at a top leaves no value out. -/
theorem mem_tail_of_covers (distinct : f.preorder.Nodup) {way : List α}
    (chain : List.IsChain (fun child parent => f.Covers parent child) way) (hr : r ∈ f.tops)
    (hlast : way.getLast? = some r) (hb : b ∈ way) (hab : f.Covers a b) : a ∈ way.tail := by
  induction way with
  | nil => cases hb
  | cons x rest ih =>
    rw [List.tail_cons]
    cases rest with
    | nil =>
      have hx : x = r := by simpa using hlast
      rw [List.mem_singleton.mp hb, hx] at hab
      exact absurd hab (not_covers_of_mem_tops distinct hr)
    | cons y rest =>
      obtain ⟨hyx, hrest⟩ := List.isChain_cons_cons.mp chain
      rcases List.mem_cons.mp hb with rfl | hb
      · rw [covers_unique distinct hab hyx]
        exact List.mem_cons_self
      · have hlast' : (y :: rest).getLast? = some r := by simpa using hlast
        exact List.mem_cons_of_mem _ (ih hrest hlast' hb)

namespace Context

variable {e : Context α} {t : Tree α}

theorem mem_above_iff (distinct : (e.fill t).preorder.Nodup) :
    a ∈ e.above ↔ Relation.TransGen (e.fill t).Covers a t.value := by
  obtain ⟨chain, r, hr, hlast⟩ := e.isChain_above t
  constructor
  · intro ha
    have hsteps : List.IsChain (fun x y => Relation.TransGen (e.fill t).Covers y x)
        (t.value :: e.above) := chain.imp fun x y h => .single h
    have htrans : IsTrans α fun x y => Relation.TransGen (e.fill t).Covers y x :=
      ⟨fun x y z hyx hzy => hzy.trans hyx⟩
    exact (List.pairwise_cons.mp hsteps.pairwise).1 a ha
  · intro h
    have up : ∀ x y, y ∈ t.value :: e.above → (e.fill t).Covers x y → x ∈ e.above :=
      fun x y hy hxy => mem_tail_of_covers distinct chain hr hlast hy hxy
    induction h using Relation.TransGen.head_induction_on with
    | single h => exact up _ _ List.mem_cons_self h
    | head h _ ih => exact up _ _ (List.mem_cons_of_mem _ ih) h

theorem mem_below_iff (distinct : (e.fill t).preorder.Nodup) :
    a ∈ t.below.preorder ↔ Relation.TransGen (e.fill t).Covers t.value a := by
  have hrow := e.row_mem_fill t
  have hrows : t.below.rows ⊆ (e.fill t).rows := by
    intro row h
    refine e.rows_subset_fill t (List.mem_cons_of_mem _ ?_)
    simpa [rows] using h
  constructor
  · intro ha
    obtain ⟨top, htop, hreach⟩ := exists_top_reaches ha
    refine Relation.TransGen.head' ⟨_, hrow, htop⟩ (Relation.ReflTransGen.mono ?_ _ _ hreach)
    rintro x y ⟨ys, hx, hy⟩
    exact ⟨ys, hrows hx, hy⟩
  · intro h
    induction h with
    | single h =>
      obtain ⟨ys, hys, ha⟩ := h
      rw [row_unique distinct hys hrow] at ha
      exact t.below.tops_subset_preorder ha
    | @tail x y _ h ih =>
      -- the row of a value below the place is the one that it has there
      obtain ⟨ys, hys, hy⟩ := h
      have hx : x ∈ t.below.rows.map Prod.fst := by simpa using ih
      obtain ⟨⟨x', xs⟩, hxs, rfl⟩ := List.mem_map.mp hx
      rw [row_unique distinct hys (hrows hxs)] at hy
      exact (mem_of_covers ⟨xs, hxs, hy⟩).2

end Context

end Forest

end ProofDesk
