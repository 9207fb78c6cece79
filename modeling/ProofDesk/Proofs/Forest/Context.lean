import Mathlib.Data.List.Nodup
import ProofDesk.Forest

namespace ProofDesk

namespace Forest

/-- A forest with one tree left out. -/
inductive Context (α : Type) where
  | here (rest : Forest α)
  | under (a : α) (below : Context α) (rest : Forest α)
  | after (a : α) (below : Forest α) (rest : Context α)

namespace Context

variable {α : Type}

def fill : Context α → Tree α → Forest α
  | here rest, t => cons t.value t.below rest
  | under a below rest, t => cons a (below.fill t) rest
  | after a below rest, t => cons a below (rest.fill t)

def left : Context α → List α
  | here _ => []
  | under a below _ => a :: below.left
  | after a below rest => a :: (below.preorder ++ rest.left)

def right : Context α → List α
  | here rest => rest.preorder
  | under _ below rest => below.right ++ rest.preorder
  | after _ _ rest => rest.right

def above : Context α → List α
  | here _ => []
  | under a below _ => below.above ++ [a]
  | after _ _ rest => rest.above

theorem preorder_fill (e : Context α) (t : Tree α) :
    (e.fill t).preorder = e.left ++ t.value :: (t.below.preorder ++ e.right) := by
  induction e with
  | here rest => rfl
  | under a below rest ih => simp [fill, preorder, left, right, ih]
  | after a below rest ih => simp [fill, preorder, left, right, ih]

theorem above_sublist_left (e : Context α) : e.above.reverse.Sublist e.left := by
  induction e with
  | here rest => exact List.Sublist.slnil
  | under a below rest ih =>
    rw [above, left, List.reverse_append]
    exact ih.cons_cons a
  | after a below rest ih =>
    exact (ih.trans (List.sublist_append_right _ _)).trans (List.sublist_cons_self _ _)

theorem mem_left_of_mem_above {e : Context α} {a : α} (h : a ∈ e.above) : a ∈ e.left :=
  e.above_sublist_left.subset (List.mem_reverse.mpr h)

end Context

variable {α β : Type}

theorem path?_eq_none_iff {p : α → Bool} {f : Forest α} :
    f.path? p = none ↔ ∀ a ∈ f.preorder, p a = false := by
  induction f with
  | nil => simp [path?, preorder]
  | cons a below rest ihb ihr =>
    by_cases ha : p a = true
    · simp [path?, preorder, ha]
    · simp [path?, preorder, ha, ihb, ihr, List.mem_append, or_imp, forall_and]

theorem Context.path?_fill {p : α → Bool} {e : Context α} {t : Tree α}
    (hl : ∀ a ∈ e.left, p a = false) (ht : p t.value = true) :
    (e.fill t).path? p = some (t.value :: e.above) := by
  induction e with
  | here rest => simp [fill, path?, above, ht]
  | under a below rest ih =>
    obtain ⟨ha, hb⟩ := List.forall_mem_cons.mp hl
    simp [fill, path?, above, ha, ih hb]
  | after a below rest ih =>
    obtain ⟨ha, hl⟩ := List.forall_mem_cons.mp hl
    obtain ⟨hb, hr⟩ := List.forall_mem_append.mp hl
    simp [fill, path?, above, ha, path?_eq_none_iff.mpr hb, ih hr]

theorem exists_find?_of_mem {p : α → Bool} {f : Forest α} {a : α} (h : a ∈ f.preorder)
    (hp : p a = true) : ∃ t, f.find? p = some t := by
  cases hf : f.find? p with
  | none =>
    have hn := find?_eq_none_iff.mp hf a h
    rw [hp] at hn
    cases hn
  | some t => exact ⟨t, rfl⟩

theorem find?_mark_eq_none {f : Forest α} {h : α → Nat} {k : Nat} (hk : k ∉ f.preorder.map h) :
    f.find? (fun a => h a == k) = none := by
  refine find?_eq_none_iff.mpr fun a ha => ?_
  have hne : h a ≠ k := fun he => hk (he ▸ List.mem_map_of_mem ha)
  simpa using hne

theorem mem_preorder_of_path? {p : α → Bool} {f : Forest α} {way : List α}
    (h : f.path? p = some way) {a : α} (ha : a ∈ way) : a ∈ f.preorder := by
  induction f generalizing way with
  | nil => cases h
  | cons b below rest ihb ihr =>
    by_cases hb : p b = true
    · rw [path?, if_pos hb] at h
      obtain rfl := Option.some.inj h
      simpa [preorder] using Or.inl (List.mem_singleton.mp ha)
    · rw [path?, if_neg hb] at h
      rcases Option.or_eq_some_iff.mp h with h | ⟨-, h⟩
      · obtain ⟨lower, hl, rfl⟩ := Option.map_eq_some_iff.mp h
        rcases List.mem_append.mp ha with ha | ha
        · exact List.mem_cons_of_mem _ (List.mem_append_left _ (ihb hl ha))
        · rw [List.mem_singleton.mp ha]
          exact List.mem_cons_self
      · exact List.mem_cons_of_mem _ (List.mem_append_right _ (ihr h ha))

/-- A tree that is found stands in surroundings with no match before it. -/
theorem exists_fill_of_find? {p : α → Bool} {f : Forest α} {t : Tree α} (h : f.find? p = some t) :
    ∃ e : Context α, f = e.fill t ∧ (∀ a ∈ e.left, p a = false) ∧ p t.value = true := by
  induction f with
  | nil => simp [find?] at h
  | cons a below rest ihb ihr =>
    by_cases ha : p a = true
    · simp only [find?, ha, if_true, Option.some.injEq] at h
      subst h
      exact ⟨.here rest, rfl, by simp [Context.left], ha⟩
    · have ha' : p a = false := by simpa using ha
      rw [find?, if_neg ha] at h
      rcases Option.or_eq_some_iff.mp h with h | ⟨hn, h⟩
      · obtain ⟨e, he, hl, ht⟩ := ihb h
        exact ⟨.under a e rest, by rw [he, Context.fill],
          List.forall_mem_cons.mpr ⟨ha', hl⟩, ht⟩
      · obtain ⟨e, he, hl, ht⟩ := ihr h
        exact ⟨.after a below e, by rw [he, Context.fill],
          List.forall_mem_cons.mpr ⟨ha', List.forall_mem_append.mpr
            ⟨find?_eq_none_iff.mp hn, hl⟩⟩, ht⟩

theorem update_eq_self {p : α → Bool} {f : Forest α} (g : Tree α → Tree α)
    (h : ∀ a ∈ f.preorder, p a = false) : f.update p g = f := by
  induction f with
  | nil => rfl
  | cons a below rest ihb ihr =>
    obtain ⟨ha, h⟩ := List.forall_mem_cons.mp h
    obtain ⟨hb, hr⟩ := List.forall_mem_append.mp h
    simp [update, ha, ihb hb, ihr hr]

/-- A change without a match in the surroundings of a tree. -/
theorem Context.update_fill_of {p : α → Bool} {e : Context α} {t : Tree α} (g : Tree α → Tree α)
    (hl : ∀ a ∈ e.left, p a = false) (hr : ∀ a ∈ e.right, p a = false) :
    (e.fill t).update p g =
      e.fill (if p t.value then g t else ⟨t.value, t.below.update p g⟩) := by
  induction e with
  | here rest =>
    by_cases ht : p t.value = true <;> simp [fill, update, ht, update_eq_self g hr]
  | under a below rest ih =>
    obtain ⟨ha, hb⟩ := List.forall_mem_cons.mp hl
    obtain ⟨hbr, hrest⟩ := List.forall_mem_append.mp hr
    simp [fill, update, ha, ih hb hbr, update_eq_self g hrest]
  | after a below rest ih =>
    obtain ⟨ha, hl⟩ := List.forall_mem_cons.mp hl
    obtain ⟨hb, hl⟩ := List.forall_mem_append.mp hl
    simp [fill, update, ha, update_eq_self g hb, ih hl hr]

/-- A change of the only match in its surroundings. -/
theorem Context.update_fill {p : α → Bool} {e : Context α} {t : Tree α} (g : Tree α → Tree α)
    (hl : ∀ a ∈ e.left, p a = false) (ht : p t.value = true)
    (hr : ∀ a ∈ e.right, p a = false) : (e.fill t).update p g = e.fill (g t) := by
  rw [update_fill_of g hl hr, if_pos ht]

/-- Distinct marks tell the values in an open place from the values around it. -/
theorem Context.ne_of_mem_tree {e : Context α} {t : Tree α} {h : α → β} {b : α}
    (distinct : ((e.fill t).preorder.map h).Nodup) (hb : b ∈ t.value :: t.below.preorder) :
    (∀ a ∈ e.left, h a ≠ h b) ∧ ∀ a ∈ e.right, h a ≠ h b := by
  rw [e.preorder_fill, ← List.cons_append, List.map_append, List.map_append] at distinct
  obtain ⟨-, htail, hleft⟩ := List.nodup_append.mp distinct
  obtain ⟨-, -, hright⟩ := List.nodup_append.mp htail
  have hmem := List.mem_map_of_mem (f := h) hb
  refine ⟨fun a ha => ?_, fun a ha => ?_⟩
  · exact hleft _ (List.mem_map_of_mem ha) _ (List.mem_append_left _ hmem)
  · exact (hright _ hmem _ (List.mem_map_of_mem ha)).symm

theorem Context.ne_of_mem_below {e : Context α} {t : Tree α} {h : α → β} {b : α}
    (distinct : ((e.fill t).preorder.map h).Nodup) (hb : b ∈ t.below.preorder) :
    h t.value ≠ h b := by
  rw [e.preorder_fill, List.map_append, List.map_cons, List.map_append] at distinct
  have htop := (List.nodup_cons.mp distinct.of_append_right).1
  exact fun he => htop (List.mem_append_left _ (he ▸ List.mem_map_of_mem hb))

theorem Context.update_mark_fill {e : Context α} {t : Tree α} {h : α → Nat}
    (distinct : ((e.fill t).preorder.map h).Nodup) (g : Tree α → Tree α) :
    (e.fill t).update (fun a => h a == h t.value) g = e.fill (g t) := by
  obtain ⟨hl, hr⟩ := ne_of_mem_tree distinct List.mem_cons_self
  exact update_fill g (fun a ha => by simpa using hl a ha) (beq_self_eq_true _) fun a ha => by
    simpa using hr a ha

/-- With distinct marks a tree that is found by its mark is the only place of a change. -/
theorem exists_fill_of_distinct {f : Forest α} {h : α → Nat} {k : Nat} {t : Tree α}
    (distinct : (f.preorder.map h).Nodup) (ht : f.find? (fun a => h a == k) = some t) :
    ∃ e : Context α, f = e.fill t ∧ h t.value = k ∧ (∀ a ∈ e.left, h a ≠ k) ∧
      ∀ g, f.update (fun a => h a == k) g = e.fill (g t) := by
  obtain ⟨e, rfl, -, hv⟩ := exists_fill_of_find? ht
  obtain rfl : h t.value = k := by simpa using hv
  exact ⟨e, rfl, rfl, (Context.ne_of_mem_tree distinct List.mem_cons_self).1, Context.update_mark_fill distinct⟩

theorem mem_preorder_update {p : α → Bool} {g : Tree α → Tree α} {f : Forest α} {b : α}
    (h : b ∈ (f.update p g).preorder) :
    b ∈ f.preorder ∨ ∃ t, t.value ∈ f.preorder ∧ t.below.preorder ⊆ f.preorder ∧
      p t.value = true ∧ b ∈ (g t).value :: (g t).below.preorder := by
  induction f with
  | nil => exact Or.inl h
  | cons a below rest ihb ihr =>
    have hbelow : below.preorder ⊆ (cons a below rest).preorder :=
      fun x hx => List.mem_cons_of_mem _ (List.mem_append_left _ hx)
    have hrest : rest.preorder ⊆ (cons a below rest).preorder :=
      fun x hx => List.mem_cons_of_mem _ (List.mem_append_right _ hx)
    by_cases hr : b ∈ (rest.update p g).preorder
    · rcases ihr hr with hb | ⟨t, ht, hts, hp, hm⟩
      · exact Or.inl (hrest hb)
      · exact Or.inr ⟨t, hrest ht, fun x hx => hrest (hts hx), hp, hm⟩
    by_cases ha : p a = true
    · simp only [update, ha, if_true, preorder, List.mem_cons, List.mem_append, hr, or_false] at h
      exact Or.inr ⟨⟨a, below⟩, List.mem_cons_self, hbelow, ha, by simpa using h⟩
    · simp only [update, ha, Bool.false_eq_true, if_false, preorder, List.mem_cons,
        List.mem_append, hr, or_false] at h
      rcases h with rfl | hb
      · exact Or.inl List.mem_cons_self
      · rcases ihb hb with hb | ⟨t, ht, hts, hp, hm⟩
        · exact Or.inl (hbelow hb)
        · exact Or.inr ⟨t, hbelow ht, fun x hx => hbelow (hts hx), hp, hm⟩

/-- With distinct marks a change of the value with a mark is a change of every value. -/
theorem update_value_eq_map {f : Forest α} {h : α → Nat} {k : Nat} {g : α → α}
    (distinct : (f.preorder.map h).Nodup) :
    f.update (fun a => h a == k) (fun t => ⟨g t.value, t.below⟩) =
      f.map fun a => if h a = k then g a else a := by
  induction f with
  | nil => rfl
  | cons a below rest ihb ihr =>
    simp only [preorder, List.map_cons, List.map_append] at distinct
    obtain ⟨ha, hbr⟩ := List.nodup_cons.mp distinct
    have hb := ihb hbr.of_append_left
    have hr := ihr hbr.of_append_right
    by_cases hk : h a = k
    · have hbelow : below.update (fun a => h a == k) (fun t => ⟨g t.value, t.below⟩) = below := by
        refine update_eq_self _ fun b hb => ?_
        have hne : h b ≠ k := fun he =>
          ha (List.mem_append_left _ (List.mem_map.mpr ⟨b, hb, he.trans hk.symm⟩))
        simpa using hne
      rw [hbelow] at hb
      simp [update, map, hk, hr, ← hb]
    · simp [update, map, hk, hb, hr]

theorem map_update {f : Forest α} {p : α → Bool} {p' : β → Bool} {g : Tree α → Tree α}
    {g' : Tree β → Tree β} {h : α → β} (hp : ∀ a, p a = p' (h a))
    (hg : ∀ t, p t.value = true →
      g' ⟨h t.value, t.below.map h⟩ = ⟨h (g t).value, (g t).below.map h⟩) :
    (f.update p g).map h = (f.map h).update p' g' := by
  induction f with
  | nil => rfl
  | cons a below rest ihb ihr =>
    by_cases ha : p a = true
    · have hga := hg ⟨a, below⟩ ha
      simp [update, map, ha, ← hp, hga, ihr]
    · simp [update, map, ha, ← hp, ihb, ihr]

theorem map_eraseTops {f : Forest α} {p : α → Bool} {p' : β → Bool} {h : α → β}
    (hp : ∀ a, p a = p' (h a)) : (f.eraseTops p).map h = (f.map h).eraseTops p' := by
  induction f with
  | nil => rfl
  | cons a below rest _ ih =>
    by_cases ha : p a = true <;> simp [eraseTops, map, ha, ← hp, ih]

theorem map_append (h : α → β) (f g : Forest α) : (f.append g).map h = (f.map h).append (g.map h) := by
  induction f with
  | nil => rfl
  | cons a below rest _ ih => simp [append, map, ih]

theorem map_ofValues (h : α → β) (xs : List α) : (ofValues xs).map h = ofValues (xs.map h) := by
  induction xs with
  | nil => rfl
  | cons a rest ih => simp [ofValues, map, ih]

@[simp] theorem tops_map (h : α → β) (f : Forest α) : (f.map h).tops = f.tops.map h := by
  induction f with
  | nil => rfl
  | cons a below rest _ ih => simp [map, tops, ih]

@[simp] theorem size_map (h : α → β) (f : Forest α) : (f.map h).size = f.size := by
  simp [← length_preorder]

theorem map_map {γ : Type} (h : α → β) (k : β → γ) (f : Forest α) :
    (f.map h).map k = f.map (k ∘ h) := by
  induction f with
  | nil => rfl
  | cons a below rest ihb ihr => simp [map, ihb, ihr]

theorem map_congr_left {h k : α → β} {f : Forest α} (hk : ∀ a ∈ f.preorder, h a = k a) :
    f.map h = f.map k := by
  induction f with
  | nil => rfl
  | cons a below rest ihb ihr =>
    obtain ⟨ha, hk⟩ := List.forall_mem_cons.mp hk
    obtain ⟨hb, hr⟩ := List.forall_mem_append.mp hk
    rw [map, map, ha, ihb hb, ihr hr]

theorem map_eq_self {h : α → α} {f : Forest α} (hh : ∀ a ∈ f.preorder, h a = a) : f.map h = f := by
  induction f with
  | nil => rfl
  | cons a below rest ihb ihr =>
    obtain ⟨ha, hh⟩ := List.forall_mem_cons.mp hh
    obtain ⟨hb, hr⟩ := List.forall_mem_append.mp hh
    rw [map, ha, ihb hb, ihr hr]

theorem tops_subset_preorder (f : Forest α) : f.tops ⊆ f.preorder := by
  induction f with
  | nil => exact List.Subset.refl _
  | cons a below rest _ ih =>
    intro b hb
    rcases List.mem_cons.mp hb with rfl | hb
    · exact List.mem_cons_self
    · exact List.mem_cons_of_mem _ (List.mem_append_right _ (ih hb))

theorem preorder_eraseTops_sublist (p : α → Bool) (f : Forest α) :
    (f.eraseTops p).preorder.Sublist f.preorder := by
  induction f with
  | nil => exact List.Sublist.slnil
  | cons a below rest _ ih =>
    by_cases ha : p a = true
    · rw [eraseTops, if_pos ha]
      exact (ih.trans (List.sublist_append_right _ _)).trans (List.sublist_cons_self _ _)
    · rw [eraseTops, if_neg ha]
      exact (ih.append_left _).cons_cons a

end Forest

end ProofDesk
