import ProofDesk.Proofs.Text.Lines

namespace ProofDesk.Text

variable {s a b : Text}

theorem trim_append_left (ha : isBlankText a = true) (s : Text) : trim (a ++ s) = trim s := by
  rw [trim, trim, List.dropWhile_append_of_pos (List.all_eq_true.mp ha)]

theorem trimEnd_append (s : Text) (hb : isBlankText b = true) : trimEnd (s ++ b) = trimEnd s := by
  have hreverse : ∀ c ∈ b.reverse, isBlank c = true := fun c hc =>
    List.all_eq_true.mp hb c (List.mem_reverse.mp hc)
  rw [trimEnd, trimEnd, List.reverse_append, List.dropWhile_append_of_pos hreverse]

theorem trim_append_right (s : Text) (hb : isBlankText b = true) : trim (s ++ b) = trim s := by
  rw [trim, trim, List.dropWhile_append]
  split
  next hs =>
    rw [List.isEmpty_iff.mp hs, ← List.nil_append (b.dropWhile isBlank)]
    exact trimEnd_append [] (by rw [isBlankText, all_dropWhile]; exact hb)
  next => exact trimEnd_append _ hb

/-- A text is what is left of it between two pieces of white space. -/
theorem exists_eq_append_trim (s : Text) : ∃ front back, s = front ++ s.trim ++ back ∧
    isBlankText front = true ∧ isBlankText back = true := by
  have hall : ∀ t : Text, isBlankText (t.takeWhile isBlank) = true := fun t =>
    List.all_takeWhile
  have hrest : ∀ t : Text, t = trimEnd t ++ (t.reverse.takeWhile isBlank).reverse := fun t => by
    rw [trimEnd, ← List.reverse_append, List.takeWhile_append_dropWhile, List.reverse_reverse]
  refine ⟨s.takeWhile isBlank, ((s.dropWhile isBlank).reverse.takeWhile isBlank).reverse, ?_,
    hall s, ?_⟩
  · rw [List.append_assoc, trim, ← hrest, List.takeWhile_append_dropWhile]
  · rw [isBlankText, List.all_reverse]
    exact hall _

theorem trim_eq_nil_iff : trim s = [] ↔ isBlankText s = true := by
  constructor
  · intro h
    rw [← isBlankText_trim, h]
    rfl
  · intro h
    have happend := trim_append_left h []
    rwa [List.append_nil] at happend

theorem trim_dropReturn (s : Text) : trim (dropReturn s) = trim s := by
  rcases exists_eq_dropReturn_append s with ⟨hs, -⟩ | hs
  · rw [← hs]
  · conv_rhs => rw [hs, trim_append_right _ (by decide)]

def remarks (s : Text) : List Text :=
  ((lineTexts s).filter fun l => !isBlankText l).map trim

/-- The remarks are what is left of the pieces between line feeds. -/
theorem remarks_eq (s : Text) : remarks s = ((split '\n' s).map trim).filter (· ≠ []) := by
  have htrim : trim ∘ dropReturn = trim := funext trim_dropReturn
  rw [remarks, lineTexts, rawLines, List.filter_map, List.map_map, htrim, List.filter_map]
  congr 1
  refine List.filter_congr fun piece _ => ?_
  have hblank : isBlankText (dropReturn piece) = true ↔ trim piece = [] := by
    rw [← trim_eq_nil_iff, trim_dropReturn]
  exact Bool.eq_iff_iff.mpr (by simp [← hblank])

theorem remarks_append_feed (a b : Text) : remarks (a ++ '\n' :: b) = remarks a ++ remarks b := by
  rw [remarks, lineTexts_append_feed, List.filter_append, List.map_append]
  rfl

theorem remarks_of_not_mem (h : '\n' ∉ s) : remarks s = if trim s = [] then [] else [trim s] := by
  rw [remarks_eq, split_of_not_mem h]
  by_cases hs : trim s = [] <;> simp [hs]

/-- Where the first line of a text, or its last one, gets more white space. -/
theorem remarks_congr_trim (ha : '\n' ∉ a) (hb : '\n' ∉ b) (h : trim a = trim b) :
    remarks a = remarks b := by
  rw [remarks_of_not_mem ha, remarks_of_not_mem hb, h]

theorem remarks_cons {c : Char} (hc : isBlank c = true) (s : Text) :
    remarks (c :: s) = remarks s := by
  have htrim : ∀ t, trim (c :: t) = trim t :=
    trim_append_left (a := [c]) (by simp [isBlankText, hc])
  by_cases hfeed : c = '\n'
  · rw [hfeed]
    exact remarks_append_feed [] s
  · -- the character is in the first line, which goes up to the first line feed
    cases hcut : cut? '\n' s with
    | none =>
      have hs := cut?_eq_none_iff.mp hcut
      exact remarks_congr_trim (by simp [hs, Ne.symm hfeed]) hs (htrim s)
    | some parts =>
      obtain ⟨first, rest⟩ := parts
      obtain ⟨hs, hfirst⟩ := eq_append_of_cut? hcut
      rw [hs, ← List.cons_append, remarks_append_feed, remarks_append_feed]
      congr 1
      exact remarks_congr_trim (by simp [hfirst, Ne.symm hfeed]) hfirst (htrim first)

theorem remarks_concat {c : Char} (hc : isBlank c = true) (s : Text) :
    remarks (s ++ [c]) = remarks s := by
  by_cases hfeed : c = '\n'
  · rw [hfeed, remarks_append_feed]
    exact List.append_nil _
  · -- the character is in the last line, behind all that are terminated
    obtain ⟨lines, last, rfl, hlines, hlast⟩ := exists_eq_terminated_append s
    have hremarks : ∀ t, remarks (terminated lines ++ t) =
        ((lines.map dropReturn).filter fun l => !isBlankText l).map trim ++ remarks t := fun t => by
      rw [remarks, lineTexts_terminated_append hlines, List.filter_append, List.map_append]
      rfl
    rw [List.append_assoc, hremarks, hremarks]
    congr 1
    exact remarks_congr_trim (by simp [hlast, Ne.symm hfeed]) hlast
      (trim_append_right last (by simp [isBlankText, hc]))

theorem remarks_append_left (ha : isBlankText a = true) (s : Text) :
    remarks (a ++ s) = remarks s := by
  induction a with
  | nil => rfl
  | cons c a ih =>
    rw [isBlankText, List.all_cons, Bool.and_eq_true] at ha
    rw [List.cons_append, remarks_cons ha.1, ih ha.2]

theorem remarks_append_right (s : Text) (hb : isBlankText b = true) :
    remarks (s ++ b) = remarks s := by
  induction b generalizing s with
  | nil => rw [List.append_nil]
  | cons c b ih =>
    rw [isBlankText, List.all_cons, Bool.and_eq_true] at hb
    rw [List.append_cons, ih _ hb.2, remarks_concat hb.1]

/-- Trimming the text as a whole takes nothing from the remarks. -/
theorem remarks_trim (s : Text) : remarks s.trim = remarks s := by
  obtain ⟨front, back, hs, hfront, hback⟩ := exists_eq_append_trim s
  conv_rhs => rw [hs, remarks_append_right _ hback, remarks_append_left hfront]

theorem remarks_eq_listing (s : Text) : remarks s = ((listing s).map trim).filter (· ≠ []) := by
  obtain ⟨init, last, h⟩ := (List.eq_nil_or_concat (split '\n' s)).resolve_left (split_ne_nil _ s)
  rw [List.concat_eq_append] at h
  have hinit : (init.map dropReturn).map trim = init.map trim := by
    rw [List.map_map]
    exact List.map_congr_left fun l _ => trim_dropReturn l
  have hlisting : listing s = init.map dropReturn ++ if last = [] then [] else [last] := by
    simp [listing, h]
  rw [remarks_eq, h, hlisting, List.map_append, List.map_append, hinit, List.filter_append,
    List.filter_append]
  congr 1
  by_cases hlast : last = []
  · rw [hlast]
    rfl
  · rw [if_neg hlast]

end ProofDesk.Text
