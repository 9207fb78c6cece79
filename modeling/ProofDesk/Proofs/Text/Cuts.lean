import ProofDesk.Proofs.Text.Lines

namespace ProofDesk.Text

variable {c : Char} {a a' b b' : Text}

theorem first_cut_unique (ha : c ∉ a) (ha' : c ∉ a') (h : a ++ c :: b = a' ++ c :: b') :
    a = a' ∧ b = b' := by
  induction a generalizing a' with
  | nil =>
    cases a' with
    | nil => exact ⟨rfl, (List.cons.inj h).2⟩
    | cons x a' => exact absurd (List.cons.inj h).1 fun hx => ha' (hx ▸ List.mem_cons_self)
  | cons x a ih =>
    cases a' with
    | nil => exact absurd (List.cons.inj h).1 fun hx => ha (hx ▸ List.mem_cons_self)
    | cons y a' =>
      obtain ⟨rfl, htail⟩ := List.cons.inj h
      rw [List.mem_cons, not_or] at ha ha'
      obtain ⟨rfl, hb⟩ := ih ha.2 ha'.2 htail
      exact ⟨rfl, hb⟩

theorem cut?_append (h : c ∉ a) (b : Text) : cut? c (a ++ c :: b) = some (a, b) := by
  cases hcut : cut? c (a ++ c :: b) with
  | none => exact absurd (by simp) (cut?_eq_none_iff.mp hcut)
  | some parts =>
    obtain ⟨hparts, hmem⟩ := eq_append_of_cut? hcut
    obtain ⟨hbefore, hafter⟩ := first_cut_unique h hmem hparts
    rw [hbefore, hafter]

theorem last_cut_unique (hb : c ∉ b) (hb' : c ∉ b') (h : a ++ c :: b = a' ++ c :: b') :
    a = a' ∧ b = b' := by
  have hr : b.reverse ++ c :: a.reverse = b'.reverse ++ c :: a'.reverse := by
    simpa using congrArg List.reverse h
  obtain ⟨h₁, h₂⟩ := first_cut_unique (by simpa using hb) (by simpa using hb') hr
  exact ⟨List.reverse_injective h₂, List.reverse_injective h₁⟩

theorem join_concat (glue a : Text) {s : List Text} (h : s ≠ []) :
    join glue (s ++ [a]) = join glue s ++ glue ++ a := by
  induction s with
  | nil => exact absurd rfl h
  | cons x s ih =>
    cases s with
    | nil => rfl
    | cons y s =>
      have htail := ih (List.cons_ne_nil y s)
      simp only [List.cons_append, join] at htail ⊢
      rw [htail]
      simp

theorem not_mem_join {glue : Text} {pieces : List Text} (hg : c ∉ glue)
    (h : ∀ s ∈ pieces, c ∉ s) : c ∉ join glue pieces := by
  induction pieces with
  | nil => exact List.not_mem_nil
  | cons x pieces ih =>
    obtain ⟨hx, hrest⟩ := List.forall_mem_cons.mp h
    cases pieces with
    | nil => exact hx
    | cons y pieces =>
      rw [join, List.mem_append, List.mem_append]
      · exact fun hc => hc.elim (fun hc => hc.elim hx hg) (ih hrest)
      · exact List.cons_ne_nil y pieces

theorem terminated_injective {lines lines' : List Text} (h : ∀ l ∈ lines, '\n' ∉ l)
    (h' : ∀ l ∈ lines', '\n' ∉ l) (he : terminated lines = terminated lines') : lines = lines' := by
  have hr := rawLines_terminated_append h []
  rw [he, rawLines_terminated_append h'] at hr
  exact (List.append_cancel_right hr).symm

theorem mem_of_mem_trim {x : Char} {s : Text} (h : x ∈ s.trim) : x ∈ s := by
  rw [trim, trimEnd, List.mem_reverse] at h
  have hd := (List.dropWhile_sublist _).subset h
  exact (List.dropWhile_sublist _).subset (List.mem_reverse.mp hd)

end ProofDesk.Text
