import Mathlib.Data.List.Nodup
import ProofDesk.Derivation.Script

namespace ProofDesk

namespace Script

theorem numbered_injective : Function.Injective numbered := by
  intro m n h
  have hdigits : Nat.toDigits 10 m = Nat.toDigits 10 n := (List.cons.inj h).2
  calc
    m = Nat.ofDigitChars 10 (Nat.toDigits 10 m) 0 := Nat.ofDigitChars_ten_toDigits.symm
    _ = Nat.ofDigitChars 10 (Nat.toDigits 10 n) 0 := by rw [hdigits]
    _ = n := Nat.ofDigitChars_ten_toDigits

/-- The search stops at a free number or when it has no tries left. It passes taken numbers only. -/
theorem freeFrom_passes (taken : List Text) (tries n : Nat) :
    (numbered (freeFrom taken tries n) ∉ taken ∨ freeFrom taken tries n = n + tries) ∧
      ∀ k, n ≤ k → k < freeFrom taken tries n → numbered k ∈ taken := by
  induction tries generalizing n with
  | zero =>
    refine ⟨Or.inr rfl, fun k hn hk => ?_⟩
    rw [freeFrom] at hk
    omega
  | succ tries ih =>
    rw [freeFrom]
    split
    next htaken =>
      obtain ⟨hstop, hpass⟩ := ih (n + 1)
      refine ⟨hstop.imp_right fun he => by omega, fun k hn hk => ?_⟩
      by_cases hkn : k = n
      · rw [hkn]
        simpa using htaken
      · exact hpass k (by omega) hk
    next hfree =>
      refine ⟨Or.inl (by simpa using hfree), fun k hn hk => ?_⟩
      omega

/-- More numbers than there are taken names cannot all be taken. -/
theorem numbered_freeNumber_not_mem (taken : List Text) (n : Nat) :
    numbered (freeNumber taken n) ∉ taken := by
  obtain ⟨hstop, hpass⟩ := freeFrom_passes taken taken.length n
  intro hmem
  have hend : freeFrom taken taken.length n = n + taken.length :=
    hstop.resolve_left fun hfree => hfree hmem
  have hall : (List.range' n (taken.length + 1)).map numbered ⊆ taken := by
    intro name hname
    obtain ⟨k, hk, rfl⟩ := List.mem_map.mp hname
    obtain ⟨hlo, hhi⟩ := List.mem_range'_1.mp hk
    by_cases hke : k = freeFrom taken taken.length n
    · exact hke ▸ hmem
    · exact hpass k hlo (by omega)
  have hdistinct : ((List.range' n (taken.length + 1)).map numbered).Nodup :=
    List.Nodup.map numbered_injective List.nodup_range'
  have hle := hdistinct.length_le_of_subset hall
  simp only [List.length_map, List.length_range'] at hle
  omega

@[simp] theorem length_namesFrom (taken kept : List Text) (place : Nat) (given : List Text) :
    (namesFrom taken kept place given).length = given.length := by
  induction given generalizing taken kept place with
  | nil => rfl
  | cons g given ih =>
    rw [namesFrom]
    split <;> simp [ih]

/-- While all given names count as taken, names stay apart: a name is a given one that was not kept
before, or one that was not taken. -/
theorem nodup_namesFrom {taken kept : List Text} (place : Nat) {given : List Text}
    (hgiven : ∀ g ∈ given, g ≠ [] → g ∈ taken) (hkept : kept ⊆ taken) :
    (namesFrom taken kept place given).Nodup ∧
      ∀ name ∈ namesFrom taken kept place given, name ∉ kept ∧ (name ∈ given ∨ name ∉ taken) := by
  induction given generalizing taken kept place with
  | nil => exact ⟨.nil, fun name h => by cases h⟩
  | cons g given ih =>
    obtain ⟨hg, hrest⟩ := List.forall_mem_cons.mp hgiven
    rw [namesFrom]
    split
    next hkeep =>
      obtain ⟨hne, hnew⟩ := hkeep
      have hk : g :: kept ⊆ taken := List.cons_subset.mpr ⟨hg hne, hkept⟩
      obtain ⟨hnodup, hnames⟩ := ih (place + 1) hrest hk
      refine ⟨List.nodup_cons.mpr ⟨fun hm => ?_, hnodup⟩, List.forall_mem_cons.mpr ⟨?_, ?_⟩⟩
      · exact (hnames g hm).1 List.mem_cons_self
      · exact ⟨hnew, Or.inl List.mem_cons_self⟩
      · intro name hm
        obtain ⟨hnk, hor⟩ := hnames name hm
        exact ⟨fun h => hnk (List.mem_cons_of_mem _ h), hor.imp_left (List.mem_cons_of_mem _)⟩
    next =>
      have hfree := numbered_freeNumber_not_mem taken place
      have hne : numbered (freeNumber taken place) ≠ [] := List.cons_ne_nil _ _
      generalize numbered (freeNumber taken place) = fresh at hfree hne
      have hlarger : taken ⊆ fresh :: taken := List.subset_cons_self _ _
      obtain ⟨hnodup, hnames⟩ := ih (place + 1) (fun g hm hg => hlarger (hrest g hm hg))
        (List.Subset.trans hkept hlarger)
      refine ⟨List.nodup_cons.mpr ⟨fun hm => ?_, hnodup⟩, List.forall_mem_cons.mpr ⟨?_, ?_⟩⟩
      · rcases (hnames fresh hm).2 with hlater | hnot
        · exact hfree (hrest fresh hlater hne)
        · exact hnot List.mem_cons_self
      · exact ⟨fun hm => hfree (hkept hm), Or.inr hfree⟩
      · intro name hm
        obtain ⟨hnk, hor⟩ := hnames name hm
        exact ⟨hnk, hor.imp (List.mem_cons_of_mem _) fun h ht => h (hlarger ht)⟩

theorem given_or_numbered {taken kept given : List Text} {place : Nat} {name : Text}
    (h : name ∈ namesFrom taken kept place given) : name ∈ given ∨ ∃ n, name = numbered n := by
  induction given generalizing taken kept place with
  | nil => cases h
  | cons g given ih =>
    rw [namesFrom] at h
    split at h
    next =>
      rcases List.mem_cons.mp h with rfl | h
      · exact Or.inl List.mem_cons_self
      · exact (ih h).imp_left (List.mem_cons_of_mem _)
    next =>
      rcases List.mem_cons.mp h with rfl | h
      · exact Or.inr ⟨_, rfl⟩
      · exact (ih h).imp_left (List.mem_cons_of_mem _)

theorem getElem?_namesFrom {taken kept before after : List Text} {place : Nat} {name : Text}
    (hne : name ≠ []) (hkept : name ∉ kept) (hbefore : name ∉ before) :
    (namesFrom taken kept place (before ++ name :: after))[before.length]? = some name := by
  induction before generalizing taken kept place with
  | nil => simp [namesFrom, hne, hkept]
  | cons g before ih =>
    rw [List.mem_cons, not_or] at hbefore
    rw [List.cons_append, namesFrom]
    split
    next =>
      have hk : name ∉ g :: kept := by
        rw [List.mem_cons, not_or]
        exact ⟨hbefore.1, hkept⟩
      exact ih hk hbefore.2
    next => exact ih hkept hbefore.2

/-- The steps of a derivation have different names. -/
theorem nodup_stepNames (steps : List Step) : (stepNames steps).Nodup := by
  refine (nodup_namesFrom 1 (fun g hg hne => ?_) (List.nil_subset _)).1
  exact List.mem_filter.mpr ⟨hg, by simpa using hne⟩

@[simp] theorem length_stepNames (steps : List Step) : (stepNames steps).length = steps.length := by
  simp [stepNames]

end Script

end ProofDesk
