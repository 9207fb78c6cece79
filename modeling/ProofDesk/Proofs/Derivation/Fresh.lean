import Mathlib.Order.Bounds.Basic
import ProofDesk.Proofs.Derivation.Naming

namespace ProofDesk.Script

/-- The search from `n` on, one number after the other, stops at `m`. -/
inductive Searches (taken : Set Text) : (n m : Nat) → Prop
  | stop {n : Nat} (h : numbered n ∉ taken) : Searches taken n n
  | next {n m : Nat} (h : numbered n ∈ taken) (rest : Searches taken (n + 1) m) :
    Searches taken n m

def Keeps (given : List Text) (place : Nat) : Prop :=
  ∃ name, given[place]? = some name ∧ name ≠ [] ∧ name ∉ given.take place

/-- The names that a number for the step at the place has to pass: all given ones, and those that
numbered steps before it got. -/
def Spent (given names : List Text) (place : Nat) : Set Text :=
  {name | name ∈ given ∨ ∃ earlier < place, ¬ Keeps given earlier ∧ names[earlier]? = some name}

/-- The step at the place has the name that it should have. Its place counted from one is where the
search for its number starts. -/
structure NamedAt (given names : List Text) (place : Nat) : Prop where
  kept : Keeps given place → names[place]? = given[place]?
  fresh : ¬ Keeps given place → ∃ n, names[place]? = some (numbered n) ∧
    Searches (Spent given names place) (place + 1) n ∧
    IsLeast {m | place + 1 ≤ m ∧ numbered m ∉ Spent given names place} n

variable {given before rest done taken kept : List Text} {place n m : Nat}

theorem Searches.isLeast {taken : Set Text} (h : Searches taken n m) :
    IsLeast {k | n ≤ k ∧ numbered k ∉ taken} m := by
  induction h with
  | stop hfree => exact ⟨⟨le_rfl, hfree⟩, fun k hk => hk.1⟩
  | @next n m htaken _ ih =>
    refine ⟨⟨Nat.le_of_succ_le ih.1.1, ih.1.2⟩, fun k hk => ih.2 ⟨?_, hk.2⟩⟩
    have hne : k ≠ n := fun he => hk.2 (he ▸ htaken)
    have hle := hk.1
    omega

theorem searches_of_passes {taken : Set Text} (hle : n ≤ m) (hfree : numbered m ∉ taken)
    (hpass : ∀ k, n ≤ k → k < m → numbered k ∈ taken) : Searches taken n m := by
  obtain ⟨d, rfl⟩ := Nat.exists_eq_add_of_le hle
  induction d generalizing n with
  | zero => exact .stop hfree
  | succ d ih =>
    have hsum : n + (d + 1) = n + 1 + d := by omega
    refine .next (hpass n le_rfl (by omega)) ?_
    rw [hsum] at hfree hpass ⊢
    exact ih (by omega) hfree fun k hk hlt => hpass k (by omega) hlt

theorem le_freeFrom (taken : List Text) (tries n : Nat) : n ≤ freeFrom taken tries n := by
  induction tries generalizing n with
  | zero => exact le_rfl
  | succ tries ih =>
    rw [freeFrom]
    split
    next => exact Nat.le_of_succ_le (ih (n + 1))
    next => exact le_rfl

theorem searches_freeNumber (taken : List Text) (n : Nat) :
    Searches {name | name ∈ taken} n (freeNumber taken n) :=
  searches_of_passes (le_freeFrom taken taken.length n) (numbered_freeNumber_not_mem taken n)
    (freeFrom_passes taken taken.length n).2

theorem Searches.congr {taken taken' : Set Text} (h : Searches taken n m)
    (hsame : ∀ k, numbered k ∈ taken ↔ numbered k ∈ taken') : Searches taken' n m := by
  induction h with
  | stop hfree => exact .stop fun hk => hfree ((hsame _).mpr hk)
  | next htaken _ ih => exact .next ((hsame _).mp htaken) ih

theorem keeps_append_iff {g : Text} :
    Keeps (before ++ g :: rest) before.length ↔ g ≠ [] ∧ g ∉ before := by
  simp [Keeps]

theorem spent_append (h : place ≤ done.length) (more : List Text) :
    Spent given (done ++ more) place = Spent given done place := by
  ext name
  refine or_congr_right (exists_congr fun earlier => and_congr_right fun hlt => ?_)
  rw [List.getElem?_append_left (by omega)]

theorem NamedAt.append (h : NamedAt given done place) (hlt : place < done.length)
    (more : List Text) : NamedAt given (done ++ more) place := by
  have hget : (done ++ more)[place]? = done[place]? := List.getElem?_append_left hlt
  refine ⟨fun hk => hget.trans (h.kept hk), fun hk => ?_⟩
  rw [hget, spent_append (Nat.le_of_lt hlt)]
  exact h.fresh hk

/-- Where the naming stands when the steps `before` have the names `done`. -/
structure Reached (given before done taken kept : List Text) : Prop where
  length : done.length = before.length
  kept : ∀ name, name ≠ [] → (name ∈ kept ↔ name ∈ before)
  taken : ∀ n, numbered n ∈ taken ↔ numbered n ∈ Spent given done before.length
  named : ∀ place < before.length, NamedAt given done place

namespace Reached

theorem start (given : List Text) :
    Reached given [] [] (given.filter (· ≠ [])) [] where
  length := rfl
  kept := fun name _ => Iff.rfl
  taken := by
    intro n
    have hne : numbered n ≠ [] := List.cons_ne_nil _ _
    simp [Spent, hne]
  named := fun place h => absurd h (Nat.not_lt_zero place)

theorem snoc {g name : Text} {taken' kept' : List Text}
    (h : Reached given before done taken kept)
    (hkept : ∀ name, name ≠ [] → (name ∈ kept' ↔ name ∈ kept ∨ name = g))
    (htaken : ∀ n, numbered n ∈ taken' ↔
      numbered n ∈ taken ∨ ¬ Keeps given before.length ∧ name = numbered n)
    (hname : NamedAt given (done ++ [name]) before.length) :
    Reached given (before ++ [g]) (done ++ [name]) taken' kept' where
  length := by rw [List.length_append, List.length_append, h.length]; rfl
  kept := by
    intro name hne
    rw [hkept name hne, h.kept name hne, List.mem_append, List.mem_singleton]
  taken := by
    intro n
    have hlast : (done ++ [name])[before.length]? = some name := by
      rw [← h.length, List.getElem?_concat_length]
    have hspent : Spent given (done ++ [name]) before.length = Spent given done before.length :=
      spent_append (Nat.le_of_eq h.length.symm) [name]
    have hnow : numbered n ∈ Spent given (done ++ [name]) (before ++ [g]).length ↔
        numbered n ∈ Spent given (done ++ [name]) before.length ∨
          ¬ Keeps given before.length ∧ name = numbered n := by
      rw [List.length_append, List.length_singleton, Spent, Spent, Set.mem_ofPred_eq,
        Set.mem_ofPred_eq, or_assoc, Nat.exists_lt_succ_right, hlast, Option.some.injEq]
    rw [hnow, hspent, htaken, h.taken]
  named := by
    intro place hlt
    rw [List.length_append, List.length_singleton] at hlt
    rcases Nat.lt_succ_iff_lt_or_eq.mp hlt with hlt | rfl
    · exact (h.named place hlt).append (h.length ▸ hlt) [name]
    · exact hname

theorem keep {g : Text} (h : Reached (before ++ g :: rest) before done taken kept)
    (hkeeps : Keeps (before ++ g :: rest) before.length) :
    Reached (before ++ g :: rest) (before ++ [g]) (done ++ [g]) taken (g :: kept) := by
  refine h.snoc (fun name _ => ?_) (fun n => ?_) ⟨fun _ => ?_, fun hno => absurd hkeeps hno⟩
  · rw [List.mem_cons, or_comm]
  · simp [hkeeps]
  · rw [← h.length, List.getElem?_concat_length, h.length]
    simp

theorem number {g : Text} (h : Reached (before ++ g :: rest) before done taken kept)
    (hkeeps : ¬ Keeps (before ++ g :: rest) before.length) :
    Reached (before ++ g :: rest) (before ++ [g])
      (done ++ [numbered (freeNumber taken (before.length + 1))])
      (numbered (freeNumber taken (before.length + 1)) :: taken) kept := by
  have hsearch : Searches (Spent (before ++ g :: rest) done before.length) (before.length + 1)
      (freeNumber taken (before.length + 1)) :=
    (searches_freeNumber taken (before.length + 1)).congr h.taken
  refine h.snoc (fun name hne => ?_) (fun n => ?_) ⟨fun hk => absurd hk hkeeps, fun _ => ?_⟩
  · -- a blank name is never kept, and a repeated one is kept already
    rw [iff_self_or]
    rintro rfl
    rw [h.kept name hne]
    by_contra hnew
    exact hkeeps (keeps_append_iff.mpr ⟨hne, hnew⟩)
  · rw [List.mem_cons, or_comm, eq_comm, and_iff_right hkeeps]
  · rw [spent_append (Nat.le_of_eq h.length.symm), ← h.length, List.getElem?_concat_length,
      h.length]
    exact ⟨_, rfl, hsearch, hsearch.isLeast⟩

theorem namedAt_namesFrom (h : Reached (before ++ rest) before done taken kept) :
    ∀ place < (before ++ rest).length,
      NamedAt (before ++ rest) (done ++ namesFrom taken kept (before.length + 1) rest) place := by
  induction rest generalizing before done taken kept with
  | nil =>
    rw [namesFrom, List.append_nil, List.append_nil] at *
    exact h.named
  | cons g rest ih =>
    have hgiven : before ++ g :: rest = before ++ [g] ++ rest := List.append_cons before g rest
    have hplace : before.length + 1 = (before ++ [g]).length := by simp
    have hiff : (g ≠ [] ∧ g ∉ kept) ↔ Keeps (before ++ g :: rest) before.length := by
      rw [keeps_append_iff]
      exact and_congr_right fun hne => not_congr (h.kept g hne)
    rw [namesFrom]
    split
    next hkeep =>
      have hnext := h.keep (hiff.mp hkeep)
      rw [hgiven] at hnext ⊢
      rw [List.append_cons done, hplace]
      exact ih hnext
    next hnumber =>
      have hnext := h.number fun hk => hnumber (hiff.mpr hk)
      rw [hgiven] at hnext ⊢
      rw [List.append_cons done, hplace]
      rw [hplace] at hnext
      exact ih hnext

theorem namedAt_of_given (given : List Text) : ∀ place < given.length,
    NamedAt given (namesFrom (given.filter (· ≠ [])) [] 1 given) place := by
  have hstart : Reached ([] ++ given) [] [] (given.filter (· ≠ [])) [] := start given
  exact hstart.namedAt_namesFrom

end Reached

/-- Every step has the name that the policy gives it. -/
theorem stepNames_namedAt (steps : List Step) :
    (stepNames steps).length = steps.length ∧
      ∀ place < steps.length,
        NamedAt (steps.map fun s => s.name.trim) (stepNames steps) place := by
  refine ⟨length_stepNames steps, fun place hlt => ?_⟩
  exact Reached.namedAt_of_given (steps.map fun s => s.name.trim) place (by simpa using hlt)

example :
    stepNames ([" x", "d1", "", "x", "d4"].map fun name => ⟨[], name.toList, []⟩) =
      ["x", "d1", "d3", "d5", "d4"].map String.toList := by
  decide

end ProofDesk.Script
