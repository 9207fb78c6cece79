import ProofDesk.Proofs.Forest.Rows

namespace ProofDesk

namespace Forest

variable {α β : Type}

def changeAt (g : Tree α → Tree α) : Forest α → List Nat → Forest α
  | nil, _ => nil
  | cons a below rest, [] => cons a below rest
  | cons a below rest, [0] => cons (g ⟨a, below⟩).value (g ⟨a, below⟩).below rest
  | cons a below rest, 0 :: j :: path => cons a (below.changeAt g (j :: path)) rest
  | cons a below rest, (i + 1) :: path => cons a below (rest.changeAt g (i :: path))

def eraseAt : Forest α → Nat → Forest α
  | nil, _ => nil
  | cons _ _ rest, 0 => rest
  | cons a below rest, i + 1 => cons a below (rest.eraseAt i)

def Context.place : Context α → List Nat
  | .here _ => [0]
  | .under _ below _ => 0 :: below.place
  | .after _ _ rest =>
    match rest.place with
    | [] => []
    | i :: path => (i + 1) :: path

theorem Context.place_ne_nil (e : Context α) : e.place ≠ [] := by
  induction e with
  | here rest => simp [place]
  | under a below rest _ => simp [place]
  | after a below rest ih =>
    obtain ⟨i, path, hp⟩ := List.exists_cons_of_ne_nil ih
    simp [place, hp]

theorem at?_cons_succ (a : α) (below rest : Forest α) (i : Nat) (path : List Nat) :
    (cons a below rest).at? ((i + 1) :: path) = rest.at? (i :: path) := by
  cases path with
  | nil => simp [at?, trees]
  | cons j path => simp [at?, trees]

theorem at?_cons_zero (a : α) (below rest : Forest α) {path : List Nat} (h : path ≠ []) :
    (cons a below rest).at? (0 :: path) = below.at? path := by
  obtain ⟨j, path, rfl⟩ := List.exists_cons_of_ne_nil h
  simp [at?, trees]

theorem Context.at?_fill (e : Context α) (t : Tree α) : (e.fill t).at? e.place = some t := by
  induction e with
  | here rest => simp [fill, place, at?, trees]
  | under a below rest ih => rw [fill, place, at?_cons_zero _ _ _ below.place_ne_nil, ih]
  | after a below rest ih =>
    obtain ⟨i, path, hp⟩ := List.exists_cons_of_ne_nil rest.place_ne_nil
    rw [hp] at ih
    simp only [fill, place, hp]
    rw [at?_cons_succ, ih]

theorem Context.changeAt_fill (g : Tree α → Tree α) (e : Context α) (t : Tree α) :
    (e.fill t).changeAt g e.place = e.fill (g t) := by
  induction e with
  | here rest => rfl
  | under a below rest ih =>
    obtain ⟨i, path, hp⟩ := List.exists_cons_of_ne_nil below.place_ne_nil
    rw [hp] at ih
    simp only [fill, place, hp, changeAt, ih]
  | after a below rest ih =>
    obtain ⟨i, path, hp⟩ := List.exists_cons_of_ne_nil rest.place_ne_nil
    rw [hp] at ih
    simp only [fill, place, hp, changeAt, ih]

theorem Context.find?_fill {p : α → Bool} {e : Context α} {t : Tree α}
    (hl : ∀ a ∈ e.left, p a = false) (ht : p t.value = true) : (e.fill t).find? p = some t := by
  induction e with
  | here rest => simp [fill, find?, ht]
  | under a below rest ih =>
    obtain ⟨ha, hb⟩ := List.forall_mem_cons.mp hl
    simp [fill, find?, ha, ih hb]
  | after a below rest ih =>
    obtain ⟨ha, hl⟩ := List.forall_mem_cons.mp hl
    obtain ⟨hb, hr⟩ := List.forall_mem_append.mp hl
    simp [fill, find?, ha, find?_eq_none_iff.mpr hb, ih hr]

theorem Context.find?_mark_fill {e : Context α} {h : α → Nat} {t : Tree α}
    (distinct : ((e.fill t).preorder.map h).Nodup) :
    (e.fill t).find? (fun a => h a == h t.value) = some t := by
  refine Context.find?_fill (fun a ha => ?_) (beq_self_eq_true _)
  simpa using (Context.ne_of_mem_tree distinct List.mem_cons_self).1 a ha

/-- With distinct marks a tree that is found by anything is found by its mark. -/
theorem find?_mark_of_distinct {f : Forest α} {h : α → Nat} {p : α → Bool} {t : Tree α}
    (distinct : (f.preorder.map h).Nodup) (ht : f.find? p = some t) :
    f.find? (fun a => h a == h t.value) = some t := by
  obtain ⟨e, rfl, -, -⟩ := exists_fill_of_find? ht
  exact Context.find?_mark_fill distinct

/-- With distinct marks a change by mark is a change at one path. -/
theorem exists_path_of_distinct {f : Forest α} {h : α → Nat} {k : Nat} {t : Tree α}
    (distinct : (f.preorder.map h).Nodup) (ht : f.find? (fun a => h a == k) = some t) :
    ∃ path, f.at? path = some t ∧
      ∀ g, f.update (fun a => h a == k) g = f.changeAt g path := by
  obtain ⟨e, rfl, -, -, hu⟩ := exists_fill_of_distinct distinct ht
  refine ⟨e.place, e.at?_fill t, fun g => ?_⟩
  rw [hu, e.changeAt_fill]

/-- A tree at a path stands in surroundings that end there. -/
theorem exists_fill_of_at? {f : Forest α} {path : List Nat} {t : Tree α}
    (h : f.at? path = some t) : ∃ e : Context α, f = e.fill t ∧ e.place = path := by
  induction f generalizing path with
  | nil =>
    cases path with
    | nil => simp [at?] at h
    | cons i path => cases path <;> simp [at?, trees] at h
  | cons a below rest ihb ihr =>
    cases path with
    | nil => simp [at?] at h
    | cons i path =>
      cases i with
      | zero =>
        cases path with
        | nil =>
          obtain rfl : ⟨a, below⟩ = t := by simpa [at?, trees] using h
          exact ⟨.here rest, rfl, rfl⟩
        | cons j path =>
          rw [at?_cons_zero _ _ _ (List.cons_ne_nil _ _)] at h
          obtain ⟨e, rfl, hp⟩ := ihb h
          exact ⟨.under a e rest, rfl, by rw [Context.place, hp]⟩
      | succ i =>
        rw [at?_cons_succ] at h
        obtain ⟨e, rfl, hp⟩ := ihr h
        exact ⟨.after a below e, rfl, by simp only [Context.place, hp]⟩

theorem Context.map_fill (h : α → β) (e : Context α) :
    ∃ e' : Context β, e'.place = e.place ∧
      ∀ t, (e.fill t).map h = e'.fill ⟨h t.value, t.below.map h⟩ := by
  induction e with
  | here rest => exact ⟨.here (rest.map h), rfl, fun t => rfl⟩
  | under a below rest ih =>
    obtain ⟨e', hp, hf⟩ := ih
    refine ⟨.under (h a) e' (rest.map h), by rw [place, place, hp], fun t => ?_⟩
    rw [fill, map, hf, fill]
  | after a below rest ih =>
    obtain ⟨e', hp, hf⟩ := ih
    refine ⟨.after (h a) (below.map h) e', by simp only [place, hp], fun t => ?_⟩
    rw [fill, map, hf, fill]

/-- Surroundings of what is seen of the values are seen of surroundings of the values. -/
theorem exists_fill_of_map_eq {h : α → β} {f : Forest α} {e : Context β} {t : Tree β}
    (hf : f.map h = e.fill t) :
    ∃ (e' : Context α) (t' : Tree α), f = e'.fill t' ∧ h t'.value = t.value ∧
      t'.below.map h = t.below ∧
      ∀ u, (e'.fill u).map h = e.fill ⟨h u.value, u.below.map h⟩ := by
  induction e generalizing f with
  | here rest =>
    cases f with
    | nil => cases hf
    | cons a below others =>
      obtain ⟨ha, hb, rfl⟩ := cons.inj hf
      exact ⟨.here others, ⟨a, below⟩, rfl, ha, hb, fun u => rfl⟩
  | under b inside rest ih =>
    cases f with
    | nil => cases hf
    | cons a below others =>
      obtain ⟨rfl, hb, rfl⟩ := cons.inj hf
      obtain ⟨e', t', rfl, hv, hbelow, hmap⟩ := ih hb
      refine ⟨.under a e' others, t', rfl, hv, hbelow, fun u => ?_⟩
      rw [Context.fill, map, hmap, Context.fill]
  | after b below' rest ih =>
    cases f with
    | nil => cases hf
    | cons a below others =>
      obtain ⟨rfl, rfl, hr⟩ := cons.inj hf
      obtain ⟨e', t', rfl, hv, hbelow, hmap⟩ := ih hr
      refine ⟨.after a below e', t', rfl, hv, hbelow, fun u => ?_⟩
      rw [Context.fill, map, hmap, Context.fill]

/-- What is seen of the values changes at the path too, if the change of the tree can be seen. -/
theorem map_changeAt {f : Forest α} {path : List Nat} {t : Tree α} {h : α → β}
    {g : Tree α → Tree α} {g' : Tree β → Tree β} (ht : f.at? path = some t)
    (hg : g' ⟨h t.value, t.below.map h⟩ = ⟨h (g t).value, (g t).below.map h⟩) :
    (f.changeAt g path).map h = (f.map h).changeAt g' path := by
  obtain ⟨e, rfl, rfl⟩ := exists_fill_of_at? ht
  obtain ⟨e', hp, hf⟩ := e.map_fill h
  rw [e.changeAt_fill, hf, hf, ← hp, e'.changeAt_fill, hg]

theorem Context.map_tops_fill {h : α → β} (e : Context α) {t t' : Tree α}
    (ht : h t'.value = h t.value) : (e.fill t').tops.map h = (e.fill t).tops.map h := by
  induction e with
  | here rest => simp [fill, tops, ht]
  | under a below rest _ => rfl
  | after a below rest ih => simp [fill, tops, ih]

/-- A value outside the tree at the open place keeps the values right below it, as far as the marks
tell. -/
theorem Context.exists_row_fill {h : α → β} {e : Context α} {t t' : Tree α}
    (ht : h t'.value = h t.value) {r : α × List α} (hr : r ∈ (e.fill t).rows) :
    r ∈ (cons t.value t.below nil).rows ∨
      ∃ r' ∈ (e.fill t').rows, r'.1 = r.1 ∧ r'.2.map h = r.2.map h := by
  induction e with
  | here rest =>
    simp only [fill, rows, List.mem_cons, List.mem_append, List.append_nil] at hr ⊢
    rcases hr with rfl | hr | hr
    · exact Or.inl (Or.inl rfl)
    · exact Or.inl (Or.inr hr)
    · exact Or.inr ⟨r, Or.inr (Or.inr hr), rfl, rfl⟩
  | under a below rest ih =>
    rcases List.mem_cons.mp hr with rfl | hr
    · exact Or.inr ⟨_, List.mem_cons_self, rfl, below.map_tops_fill ht⟩
    rcases List.mem_append.mp hr with hr | hr
    · refine (ih hr).imp_right ?_
      rintro ⟨r', hr', he⟩
      exact ⟨r', List.mem_cons_of_mem _ (List.mem_append_left _ hr'), he⟩
    · exact Or.inr ⟨r, List.mem_cons_of_mem _ (List.mem_append_right _ hr), rfl, rfl⟩
  | after a below rest ih =>
    rcases List.mem_cons.mp hr with rfl | hr
    · exact Or.inr ⟨_, List.mem_cons_self, rfl, rfl⟩
    rcases List.mem_append.mp hr with hr | hr
    · exact Or.inr ⟨r, List.mem_cons_of_mem _ (List.mem_append_left _ hr), rfl, rfl⟩
    · refine (ih hr).imp_right ?_
      rintro ⟨r', hr', he⟩
      exact ⟨r', List.mem_cons_of_mem _ (List.mem_append_right _ hr'), he⟩

theorem Context.rows_subset_fill (e : Context α) (t : Tree α) :
    (cons t.value t.below nil).rows ⊆ (e.fill t).rows := by
  induction e with
  | here rest =>
    intro r hr
    simp only [fill, rows, List.mem_cons, List.mem_append, List.append_nil] at hr ⊢
    tauto
  | under a below rest ih =>
    exact fun r hr => List.mem_cons_of_mem _ (List.mem_append_left _ (ih hr))
  | after a below rest ih =>
    exact fun r hr => List.mem_cons_of_mem _ (List.mem_append_right _ (ih hr))

theorem tops_eraseTops (p : α → Bool) (f : Forest α) :
    (f.eraseTops p).tops = f.tops.filter fun a => !p a := by
  induction f with
  | nil => rfl
  | cons a below rest _ ih => by_cases ha : p a = true <;> simp [eraseTops, tops, ha, ih]

theorem map_eraseAt (h : α → β) (f : Forest α) (i : Nat) :
    (f.eraseAt i).map h = (f.map h).eraseAt i := by
  induction f generalizing i with
  | nil => rfl
  | cons a below rest _ ih =>
    cases i with
    | zero => rfl
    | succ i => rw [eraseAt, map, map, eraseAt, ih]

theorem eraseTops_eq_self {p : α → Bool} {f : Forest α} (h : ∀ a ∈ f.tops, p a = false) :
    f.eraseTops p = f := by
  induction f with
  | nil => rfl
  | cons a below rest _ ih =>
    obtain ⟨ha, hr⟩ := List.forall_mem_cons.mp h
    simp [eraseTops, ha, ih hr]

/-- With distinct marks a removal by mark is a removal at one position. -/
theorem exists_position_of_distinct {f : Forest α} {h : α → Nat} {k : Nat}
    (distinct : (f.tops.map h).Nodup) (hk : k ∈ f.tops.map h) :
    ∃ i t, f.at? [i] = some t ∧ h t.value = k ∧
      f.eraseTops (fun a => h a == k) = f.eraseAt i := by
  induction f with
  | nil => simp [tops] at hk
  | cons a below rest _ ih =>
    obtain ⟨ha, hd⟩ := List.nodup_cons.mp distinct
    rcases List.mem_cons.mp hk with rfl | hk
    · have hrest : ∀ b ∈ rest.tops, (h b == h a) = false := by
        intro b hb
        have hne : h b ≠ h a := fun he => ha (he ▸ List.mem_map_of_mem hb)
        simpa using hne
      refine ⟨0, ⟨a, below⟩, by simp [at?, trees], rfl, ?_⟩
      simp [eraseTops, eraseAt, eraseTops_eq_self hrest]
    · obtain ⟨i, t, ht, htk, he⟩ := ih hd hk
      have hne : h a ≠ k := fun hak => ha (hak ▸ hk)
      refine ⟨i + 1, t, by rw [at?_cons_succ, ht], htk, ?_⟩
      simp [eraseTops, eraseAt, hne, he]

theorem mem_rows_eraseAt {f : Forest α} {i : Nat} {t : Tree α} (ht : f.at? [i] = some t)
    {r : α × List α} (hr : r ∈ f.rows) :
    r ∈ (cons t.value t.below nil).rows ∨ r ∈ (f.eraseAt i).rows := by
  induction f generalizing i with
  | nil => cases hr
  | cons a below rest _ ih =>
    cases i with
    | zero =>
      obtain rfl : ⟨a, below⟩ = t := by simpa [at?, trees] using ht
      simp only [eraseAt, rows, List.mem_cons, List.mem_append, List.append_nil] at hr ⊢
      tauto
    | succ i =>
      rw [at?_cons_succ] at ht
      have hrest := fun hm => ih ht hm
      simp only [eraseAt, rows, List.mem_cons, List.mem_append, List.append_nil] at hr hrest ⊢
      tauto

end Forest

end ProofDesk
