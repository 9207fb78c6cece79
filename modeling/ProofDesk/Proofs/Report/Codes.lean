import Mathlib.Data.List.Basic
import ProofDesk.Report.Diagnostic

namespace ProofDesk

namespace Finding

variable {f : Finding} {n : Nat} {x : Diagnostic} {q : Problem}

theorem of_diagnostic? (h : f.diagnostic? n = some x) :
    x.range = f.range ∧ x.code = some (.number n) ∧ x.isOwn = true := by
  cases hs : f.severity <;> simp only [diagnostic?, hs] at h <;> cases h <;> exact ⟨rfl, rfl, rfl⟩

theorem place_of_diagnostic? {m : Nat} (h : f.diagnostic? m = some x)
    (hcode : x.code = some (.number n)) : m = n ∧ x.range = f.range := by
  obtain ⟨hrange, hcode', -⟩ := of_diagnostic? h
  have hmn : (m : Int) = n := by simpa [hcode'] using hcode
  exact ⟨by omega, hrange⟩

theorem range_of_problem? (h : f.problem? = some q) : q.range = f.range := by
  unfold problem? at h
  split at h
  next => cases h; rfl
  next => cases h

end Finding

namespace Diagnosis

variable {limit : Nat} {findings : List Finding}

theorem mem_diagnostics_iff {x : Diagnostic} :
    x ∈ (ofFindings limit findings).diagnostics ↔
      ∃ (n : Nat) (f : Finding), (findings.take limit)[n]? = some f ∧ f.diagnostic? n = some x := by
  simp only [ofFindings, List.mem_filterMap, Prod.exists, List.mem_zipIdx_iff_getElem?]
  exact exists_comm

theorem mem_problems_iff {e : Int × Problem} :
    e ∈ (ofFindings limit findings).problems ↔
      ∃ (n : Nat) (f : Finding), (findings.take limit)[n]? = some f ∧
        ∃ q, f.problem? = some q ∧ e = (Int.ofNat n, q) := by
  simp only [ofFindings, List.mem_filterMap, Prod.exists, List.mem_zipIdx_iff_getElem?,
    Option.map_eq_some_iff]
  constructor
  · rintro ⟨f, n, hf, q, hq, rfl⟩
    exact ⟨n, f, hf, q, hq, rfl⟩
  · rintro ⟨n, f, hf, q, hq, rfl⟩
    exact ⟨f, n, hf, q, hq, rfl⟩

/-- A code that is a place of the run leads to the problem of the finding at that place. -/
theorem problem?_eq_some_iff {n : Nat} {q : Problem} :
    (ofFindings limit findings).problem? n = some q ↔
      ∃ f, (findings.take limit)[n]? = some f ∧ f.problem? = some q := by
  have found : ∀ e, (ofFindings limit findings).problems.find? (fun e => e.1 == (n : Int)) =
      some e → ∃ f, (findings.take limit)[n]? = some f ∧ f.problem? = some e.2 := by
    intro e he
    obtain ⟨m, f, hf, q, hq, rfl⟩ := mem_problems_iff.mp (List.mem_of_find?_eq_some he)
    have hmark : (m : Int) = n := by simpa using List.find?_some he
    obtain rfl : m = n := by omega
    exact ⟨f, hf, hq⟩
  constructor
  · intro h
    obtain ⟨e, he, rfl⟩ := Option.map_eq_some_iff.mp h
    exact found e he
  · rintro ⟨f, hf, hq⟩
    cases he : (ofFindings limit findings).problems.find? fun e => e.1 == (n : Int) with
    | none =>
      have hmem := mem_problems_iff.mpr ⟨n, f, hf, q, hq, rfl⟩
      exact absurd (List.find?_eq_none.mp he _ hmem) (by simp)
    | some e =>
      obtain ⟨f', hf', hq'⟩ := found e he
      obtain rfl := Option.some.inj (hf'.symm.trans hf)
      rw [problem?, he, Option.map_some, Option.some.inj (hq'.symm.trans hq)]

end Diagnosis

end ProofDesk
