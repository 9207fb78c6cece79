import Mathlib.Data.List.Infix
import ProofDesk.Text.Basic

namespace ProofDesk.Text

/-- `needle` stands in `s` between `before` and `after`, and at no earlier place. -/
structure FirstAt (needle s before after : Text) : Prop where
  parts : s = before ++ needle ++ after
  first : ∀ b a, s = b ++ needle ++ a → before.length ≤ b.length

theorem find?_eq_none_iff {needle s : Text} : find? needle s = none ↔ ¬ needle <:+: s := by
  induction s with
  | nil =>
    by_cases h : needle = []
    · simp [find?, h]
    · simp [find?, h]
  | cons x xs ih =>
    rw [find?, List.infix_cons_iff]
    split
    next rest hrest =>
      have hp : needle <+: x :: xs := ⟨rest, (after?_eq_some_iff.mp hrest).symm⟩
      simp [hp]
    next hrest =>
      have hp : ¬ needle <+: x :: xs := by
        rintro ⟨rest, hr⟩
        rw [after?_eq_some_iff.mpr hr.symm] at hrest
        cases hrest
      simp [hp, ih]

theorem startsWith_iff {s beginning : Text} : startsWith s beginning = true ↔ beginning <+: s := by
  rw [startsWith, Option.isSome_iff_exists]
  constructor
  · rintro ⟨rest, h⟩
    exact ⟨rest, (after?_eq_some_iff.mp h).symm⟩
  · rintro ⟨rest, rfl⟩
    exact ⟨rest, after?_eq_some_iff.mpr rfl⟩

theorem contains_iff {s needle : Text} : contains s needle = true ↔ needle <:+: s := by
  rw [contains, ← not_iff_not, Bool.not_eq_true, Option.isSome_eq_false_iff,
    Option.isNone_iff_eq_none, find?_eq_none_iff]

theorem length_le_of_find? {needle s before after b a : Text}
    (h : find? needle s = some (before, after)) (hs : s = b ++ needle ++ a) :
    before.length ≤ b.length := by
  induction s generalizing before b with
  | nil =>
    have hparts := eq_append_of_find? h
    simp only [List.nil_eq, List.append_eq_nil_iff] at hparts
    simp [hparts.1.1]
  | cons x xs ih =>
    rw [find?] at h
    split at h
    next => cases h; simp
    next hnone =>
      obtain ⟨⟨before', after'⟩, hf, he⟩ := Option.map_eq_some_iff.mp h
      cases he
      cases b with
      | nil =>
        rw [List.nil_append] at hs
        rw [after?_eq_some_iff.mpr hs] at hnone
        cases hnone
      | cons y ys =>
        have hle := ih hf (List.cons.inj hs).2
        simp only [List.length_cons]
        omega

theorem find?_eq_some_iff {needle s before after : Text} :
    find? needle s = some (before, after) ↔ FirstAt needle s before after := by
  constructor
  · exact fun h => ⟨eq_append_of_find? h, fun b a => length_le_of_find? h⟩
  · intro h
    cases hf : find? needle s with
    | none => exact absurd ⟨before, after, h.parts.symm⟩ (find?_eq_none_iff.mp hf)
    | some found =>
      obtain ⟨b, a⟩ := found
      have hparts := eq_append_of_find? hf
      have hlen : b.length = before.length :=
        Nat.le_antisymm (length_le_of_find? hf h.parts) (h.first b a hparts)
      have hsame := hparts.symm.trans h.parts
      rw [List.append_assoc, List.append_assoc] at hsame
      obtain ⟨rfl, hrest⟩ := List.append_inj hsame hlen
      rw [List.append_cancel_left hrest]

end ProofDesk.Text
