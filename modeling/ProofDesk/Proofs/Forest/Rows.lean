import ProofDesk.Proofs.Forest.Links

namespace ProofDesk

namespace Forest

variable {α β : Type}

theorem eq_nil_of_tops {f : Forest α} (h : f.tops = []) : f = nil := by
  cases f with
  | nil => rfl
  | cons a below rest => cases h

@[simp] theorem rows_append (f g : Forest α) : (f.append g).rows = f.rows ++ g.rows := by
  induction f with
  | nil => rfl
  | cons a below rest _ ih => simp [append, rows, ih]

@[simp] theorem rows_ofValues (xs : List α) : (ofValues xs).rows = xs.map fun a => (a, []) := by
  induction xs with
  | nil => rfl
  | cons a xs ih =>
    rw [ofValues, rows, ih]
    rfl

theorem rows_eraseTops_subset (p : α → Bool) (f : Forest α) : (f.eraseTops p).rows ⊆ f.rows := by
  induction f with
  | nil => exact List.Subset.refl _
  | cons a below rest _ ih =>
    have hrest : (rest.eraseTops p).rows ⊆ (cons a below rest).rows := fun r hr =>
      List.mem_cons_of_mem _ (List.mem_append_right _ (ih hr))
    rw [eraseTops]
    split
    next => exact hrest
    next =>
      intro r hr
      rcases List.mem_cons.mp hr with rfl | hr
      · exact List.mem_cons_self
      · rcases List.mem_append.mp hr with hr | hr
        · exact List.mem_cons_of_mem _ (List.mem_append_left _ hr)
        · exact List.mem_cons_of_mem _ (List.mem_append_right _ (ih hr))

/-- A value that is no top stands in a row. -/
theorem mem_tops_or_exists_row {f : Forest α} {a : α} (h : a ∈ f.preorder) :
    a ∈ f.tops ∨ ∃ r ∈ f.rows, a ∈ r.2 := by
  have hm := f.tops_append_rows_perm.symm.subset h
  exact (List.mem_append.mp hm).imp_right List.mem_flatMap.mp

theorem mem_preorder_of_row {f : Forest α} {r : α × List α} (h : r ∈ f.rows) :
    r.1 ∈ f.preorder := by
  rw [← map_fst_rows]
  exact List.mem_map_of_mem h

theorem tops_update (p : α → Bool) (g : α → α) (k : Forest α → Forest α) (f : Forest α) :
    (f.update p fun t => ⟨g t.value, k t.below⟩).tops =
      f.tops.map fun a => if p a then g a else a := by
  induction f with
  | nil => rfl
  | cons a below rest _ ih => by_cases ha : p a = true <;> simp [update, tops, ha, ih]

/-- After a change of trees a relation holds in every row if it holds in the rows around the changed
tops and in those of the changed trees. -/
theorem forall_rows_update {R : α → List α → Prop} {f : Forest α} {p : α → Bool} {g : α → α}
    {k : Forest α → Forest α}
    (around : ∀ a bs, (a, bs) ∈ f.rows → p a = false → R a (bs.map fun b => if p b then g b else b))
    (inside : ∀ a below, (a, below.tops) ∈ f.rows → below.rows ⊆ f.rows → p a = true →
      R (g a) (k below).tops ∧ ∀ r ∈ (k below).rows, R r.1 r.2) :
    ∀ r ∈ (f.update p fun t => ⟨g t.value, k t.below⟩).rows, R r.1 r.2 := by
  induction f with
  | nil =>
    intro r hr
    cases hr
  | cons a below rest ihb ihr =>
    have hbelow : below.rows ⊆ (cons a below rest).rows := fun r hr =>
      List.mem_cons_of_mem _ (List.mem_append_left _ hr)
    have hrest : rest.rows ⊆ (cons a below rest).rows := fun r hr =>
      List.mem_cons_of_mem _ (List.mem_append_right _ hr)
    have later := ihr (fun b bs hm => around b bs (hrest hm)) fun b u hm hs =>
      inside b u (hrest hm) (List.Subset.trans hs hrest)
    by_cases ha : p a = true
    · obtain ⟨htop, hnew⟩ := inside a below List.mem_cons_self hbelow ha
      intro r hr
      simp only [update, ha, if_true, rows, List.mem_cons, List.mem_append] at hr
      rcases hr with rfl | hr | hr
      · exact htop
      · exact hnew r hr
      · exact later r hr
    · have ha' : p a = false := by simpa using ha
      have lower := ihb (fun b bs hm => around b bs (hbelow hm)) fun b u hm hs =>
        inside b u (hbelow hm) (List.Subset.trans hs hbelow)
      intro r hr
      simp only [update, ha, Bool.false_eq_true, if_false, rows, List.mem_cons,
        List.mem_append] at hr
      rcases hr with rfl | hr | hr
      · rw [tops_update]
        exact around a below.tops List.mem_cons_self ha'
      · exact lower r hr
      · exact later r hr

end Forest

end ProofDesk
