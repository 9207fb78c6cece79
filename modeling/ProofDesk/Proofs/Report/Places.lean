import Mathlib.Data.List.Forall2
import ProofDesk.Proofs.Report.Codes

namespace ProofDesk

namespace Text

theorem digits?_ofNat (n : Nat) : digits? (ofNat n) = some n := by
  have hdigits : ofNat n ≠ [] ∧ (ofNat n).all Char.isDigit = true := by
    refine ⟨by simp [ofNat], List.all_eq_true.mpr fun c hc => ?_⟩
    exact Nat.isDigit_of_mem_toDigits (by omega) (by omega) hc
  rw [digits?, if_pos hdigits]
  exact congrArg some Nat.ofDigitChars_ten_toDigits

theorem int32?_ofNat {n : Nat} (h : n < Nat.pow 2 31) : int32? (ofNat n) = some (n : Int) := by
  have hsigned : ∀ c rest, ofNat n = c :: rest → c ≠ '+' ∧ c ≠ '-' := by
    intro c rest hc
    have hdigit : c.isDigit = true :=
      Nat.isDigit_of_mem_toDigits (b := 10) (n := n) (by omega) (by omega)
        (by rw [← ofNat, hc]; exact List.mem_cons_self)
    constructor <;> rintro rfl <;> cases hdigit
  have hpow : Nat.pow 2 31 = 2147483648 := rfl
  have hbounds : -2147483648 ≤ (n : Int) ∧ (n : Int) ≤ 2147483647 := by omega
  unfold int32?
  split
  next rest heq => exact absurd rfl (hsigned _ _ heq).1
  next rest heq => exact absurd rfl (hsigned _ _ heq).2
  next => simp [digits?_ofNat, Option.filter, hbounds]

end Text

namespace Finding

variable {f : Finding} {n : Nat} {x : Diagnostic} {q : Problem}

/-- The diagnostic shows the finding at place `n` of its run. -/
structure ShownAs (f : Finding) (n : Nat) (x : Diagnostic) : Prop where
  severity : f.severity = .error ∧ x.severity = some 1 ∨
    f.severity = .warning ∧ x.severity = some 2
  code : x.code = some (.number n)
  range : x.range = f.range
  message : x.message = f.message
  source : x.source = some Diagnostic.ownSource
  bare : x.explanation = none ∧ x.related = none ∧ x.tags = none ∧ x.data = none

/-- The problem is recorded for the finding, which is an error with a tag and a payload. -/
structure RecordedAs (f : Finding) (q : Problem) : Prop where
  severity : f.severity = .error
  tag : ∃ word, f.tag = some word ∧ q.tag = .ofWord word
  payload : f.payload = some q.payload
  range : q.range = f.range

theorem shownAs_of_diagnostic? (h : f.diagnostic? n = some x) : f.ShownAs n x := by
  cases hs : f.severity <;> simp only [diagnostic?, hs] at h <;> cases h
  · exact ⟨Or.inl ⟨hs, rfl⟩, rfl, rfl, rfl, rfl, rfl, rfl, rfl, rfl⟩
  · exact ⟨Or.inr ⟨hs, rfl⟩, rfl, rfl, rfl, rfl, rfl, rfl, rfl, rfl⟩

theorem diagnostic?_eq_none_iff : f.diagnostic? n = none ↔ f.severity = .info := by
  cases hs : f.severity <;> simp [diagnostic?, hs]

theorem problem?_eq_some_iff : f.problem? = some q ↔ f.RecordedAs q := by
  constructor
  · intro h
    unfold problem? at h
    split at h
    next word payload hs ht hp =>
      cases h
      exact ⟨hs, ⟨word, ht, rfl⟩, hp, rfl⟩
    next => cases h
  · rintro ⟨hs, ⟨word, ht, hword⟩, hp, hrange⟩
    simp only [problem?, hs, ht, hp, ← hword, ← hrange]

end Finding

namespace Diagnosis

variable {limit n : Nat} {findings : List Finding} {f : Finding} {code : Int} {q : Problem}

/-- The code `n`, as a number or in digits, leads to the problem recorded for the finding, and to
none if there is none. -/
def LeadsTo (d : Diagnosis) (n : Nat) (f : Finding) : Prop :=
  ∀ x : Diagnostic, x.code = some (.number n) ∨ x.code = some (.text (Text.ofNat n)) →
    ∀ q, d.problemFor? x = some q ↔ f.RecordedAs q

/-- The diagnosis of the first `limit` findings of a run. -/
structure AccountsFor (d : Diagnosis) (limit : Nat) (findings : List Finding) : Prop where
  diagnostics : ∃ places : List Nat, places.Pairwise (· < ·) ∧
    (∀ n, n ∈ places ↔ n < limit ∧ ∃ f, findings[n]? = some f ∧ f.severity ≠ .info) ∧
    List.Forall₂ (fun n x => ∃ f, findings[n]? = some f ∧ f.ShownAs n x ∧ d.LeadsTo n f)
      places d.diagnostics
  problems : ∀ code q, (code, q) ∈ d.problems ↔
    ∃ n f, n < limit ∧ findings[n]? = some f ∧ f.RecordedAs q ∧ code = Int.ofNat n
  keys : (d.problems.map Prod.fst).Nodup

theorem getElem?_take_eq_some_iff :
    (findings.take limit)[n]? = some f ↔ n < limit ∧ findings[n]? = some f := by
  rw [List.getElem?_take]
  split_ifs with h <;> simp [h]

theorem mem_problems_iff_recordedAs : (code, q) ∈ (ofFindings limit findings).problems ↔
    ∃ n f, n < limit ∧ findings[n]? = some f ∧ f.RecordedAs q ∧ code = Int.ofNat n := by
  rw [mem_problems_iff]
  constructor
  · rintro ⟨n, f, hf, q, hq, he⟩
    cases he
    obtain ⟨hn, hf⟩ := getElem?_take_eq_some_iff.mp hf
    exact ⟨n, f, hn, hf, Finding.problem?_eq_some_iff.mp hq, rfl⟩
  · rintro ⟨n, f, hn, hf, hq, rfl⟩
    exact ⟨n, f, getElem?_take_eq_some_iff.mpr ⟨hn, hf⟩, q, Finding.problem?_eq_some_iff.mpr hq,
      rfl⟩

theorem problem?_iff : (ofFindings limit findings).problem? code = some q ↔
    ∃ n f, n < limit ∧ findings[n]? = some f ∧ f.RecordedAs q ∧ code = Int.ofNat n := by
  constructor
  · intro h
    obtain ⟨e, he, rfl⟩ := Option.map_eq_some_iff.mp h
    obtain rfl : e.1 = code := by simpa using List.find?_some he
    exact mem_problems_iff_recordedAs.mp (List.mem_of_find?_eq_some he)
  · rintro ⟨n, f, hn, hf, hq, rfl⟩
    exact problem?_eq_some_iff.mpr
      ⟨f, getElem?_take_eq_some_iff.mpr ⟨hn, hf⟩, Finding.problem?_eq_some_iff.mpr hq⟩

theorem leadsTo_of_getElem? (hn : n < limit) (hf : findings[n]? = some f)
    (hlength : findings.length < Nat.pow 2 31) : (ofFindings limit findings).LeadsTo n f := by
  obtain ⟨hplace, -⟩ := List.getElem?_eq_some_iff.mp hf
  have hfound : ∀ q, (ofFindings limit findings).problem? n = some q ↔ f.RecordedAs q := by
    intro q
    rw [problem?_eq_some_iff]
    simp only [getElem?_take_eq_some_iff, hn, hf, Finding.problem?_eq_some_iff]
    simp
  rintro x (hcode | hcode) q
  · rw [problemFor?, hcode]
    exact hfound q
  · have hread : Text.int32? (Text.ofNat n) = some (n : Int) :=
      Text.int32?_ofNat (Nat.lt_trans hplace hlength)
    simp only [problemFor?, hcode, hread, Option.bind_some]
    exact hfound q

theorem pairwise_zipIdx (findings : List Finding) :
    findings.zipIdx.Pairwise fun a b => a.2 < b.2 := by
  rw [← List.pairwise_map (f := Prod.snd) (R := (· < ·)), List.zipIdx_map_snd]
  exact List.pairwise_lt_range'

def place? (e : Finding × Nat) : Option Nat :=
  if e.1.severity = .info then none else some e.2

theorem place?_eq_some_iff {e : Finding × Nat} :
    place? e = some n ↔ e.1.severity ≠ .info ∧ e.2 = n := by
  unfold place?
  split_ifs with h <;> simp [h]

theorem mem_places_iff : n ∈ (findings.take limit).zipIdx.filterMap place? ↔
    n < limit ∧ ∃ f, findings[n]? = some f ∧ f.severity ≠ .info := by
  simp only [List.mem_filterMap, Prod.exists, List.mk_mem_zipIdx_iff_getElem?,
    getElem?_take_eq_some_iff, place?_eq_some_iff]
  constructor
  · rintro ⟨f, _, ⟨hn, hf⟩, hshown, rfl⟩
    exact ⟨hn, f, hf, hshown⟩
  · rintro ⟨hn, f, hf, hshown⟩
    exact ⟨f, n, ⟨hn, hf⟩, hshown, rfl⟩

theorem pairwise_places (limit : Nat) (findings : List Finding) :
    ((findings.take limit).zipIdx.filterMap place?).Pairwise (· < ·) := by
  refine (pairwise_zipIdx _).filterMap _ fun a b hab m hm n hn => ?_
  obtain ⟨-, rfl⟩ := place?_eq_some_iff.mp hm
  obtain ⟨-, rfl⟩ := place?_eq_some_iff.mp hn
  exact hab

theorem place?_eq_none_iff {e : Finding × Nat} :
    place? e = none ↔ e.1.severity = .info := by
  unfold place?
  split_ifs with h <;> simp [h]

theorem forall₂_places (limit : Nat) (findings : List Finding) :
    List.Forall₂ (fun n x => ∃ f, (n < limit ∧ findings[n]? = some f) ∧ f.ShownAs n x)
      ((findings.take limit).zipIdx.filterMap place?) (ofFindings limit findings).diagnostics := by
  have hnumbered : List.Forall₂ (fun a b => a = b ∧ a.2 < limit ∧ findings[a.2]? = some a.1)
      (findings.take limit).zipIdx (findings.take limit).zipIdx := by
    refine List.forall₂_same.mpr fun e he => ⟨rfl, ?_⟩
    exact getElem?_take_eq_some_iff.mp (List.mem_zipIdx_iff_getElem?.mp he)
  refine List.rel_filterMap ?_ hnumbered
  rintro ⟨f, n⟩ _ ⟨rfl, hplace⟩
  change Option.Rel _ _ (f.diagnostic? n)
  cases hx : f.diagnostic? n with
  | none =>
    rw [place?_eq_none_iff.mpr (Finding.diagnostic?_eq_none_iff.mp hx)]
    exact .none
  | some x =>
    have hshown : f.severity ≠ .info := fun hinfo => by
      simp [Finding.diagnostic?_eq_none_iff.mpr hinfo] at hx
    rw [place?_eq_some_iff.mpr ⟨hshown, rfl⟩]
    exact .some ⟨f, hplace, Finding.shownAs_of_diagnostic? hx⟩

theorem nodup_keys (limit : Nat) (findings : List Finding) :
    ((ofFindings limit findings).problems.map Prod.fst).Nodup := by
  have hordered : (ofFindings limit findings).problems.Pairwise fun e e' => e.1 ≠ e'.1 := by
    refine (pairwise_zipIdx _).filterMap _ fun a b hab e he e' he' => ?_
    obtain ⟨-, -, rfl⟩ := Option.map_eq_some_iff.mp he
    obtain ⟨-, -, rfl⟩ := Option.map_eq_some_iff.mp he'
    exact fun heq => Nat.ne_of_lt hab (Int.ofNat.inj heq)
  exact List.pairwise_map.mpr hordered

theorem exists_append (limit more : Nat) (findings : List Finding) :
    ∃ diagnostics problems, ofFindings (limit + more) findings =
      ⟨(ofFindings limit findings).diagnostics ++ diagnostics,
        (ofFindings limit findings).problems ++ problems⟩ := by
  simp only [ofFindings, List.take_add, List.zipIdx_append, List.filterMap_append]
  exact ⟨_, _, rfl⟩

theorem problem?_of_lt (more : Nat) (h : code < limit) :
    (ofFindings (limit + more) findings).problem? code =
      (ofFindings limit findings).problem? code := by
  ext q
  rw [problem?_iff, problem?_iff]
  constructor
  · rintro ⟨n, f, -, hf, hq, rfl⟩
    exact ⟨n, f, Int.ofNat_lt.mp h, hf, hq, rfl⟩
  · rintro ⟨n, f, hn, hf, hq, rfl⟩
    exact ⟨n, f, Nat.lt_add_right more hn, hf, hq, rfl⟩

/-- A run with fewer findings than there are codes is accounted for under any limit. A higher limit
appends diagnostics and problems, and leaves what the codes below the old one lead to. -/
theorem ofFindings_accountsFor (limit : Nat) (h : findings.length < Nat.pow 2 31) :
    (ofFindings limit findings).AccountsFor limit findings ∧
      ∀ more : Nat, (∃ diagnostics problems, ofFindings (limit + more) findings =
          ⟨(ofFindings limit findings).diagnostics ++ diagnostics,
            (ofFindings limit findings).problems ++ problems⟩) ∧
        ∀ code : Int, code < limit → (ofFindings (limit + more) findings).problem? code =
          (ofFindings limit findings).problem? code := by
  refine ⟨?_, fun more => ⟨exists_append limit more findings, fun _ => problem?_of_lt more⟩⟩
  refine ⟨⟨_, pairwise_places limit findings, fun _ => mem_places_iff, ?_⟩,
    fun _ _ => mem_problems_iff_recordedAs, nodup_keys limit findings⟩
  refine (forall₂_places limit findings).imp ?_
  rintro n x ⟨f, ⟨hn, hf⟩, hshown⟩
  exact ⟨f, hf, hshown, leadsTo_of_getElem? hn hf h⟩

/-- Information takes the place before an error, and the limit cuts off a warning. -/
theorem ofFindings_behind_information :
    let findings : List Finding := [
      { severity := .info },
      { tag := some "WRONG_END".toList, payload := some "lemma\ntheorem".toList,
        beginLine := 2, beginColumn := 3, endLine := 2, endColumn := 8 },
      { severity := .warning }]
    let d := ofFindings 2 findings
    let x : Diagnostic := ⟨⟨⟨1, 2⟩, ⟨1, 7⟩⟩, some 1, some (.text ['1']), none, [], none, none,
      none, none⟩
    findings.length < Nat.pow 2 31 ∧ d.AccountsFor 2 findings ∧
      d.diagnostics.map Diagnostic.code = [some (.number 1)] ∧
      d.problemFor? x =
        some ⟨.wrongEnd, "lemma\ntheorem".toList, ⟨⟨1, 2⟩, ⟨1, 7⟩⟩⟩ ∧
      (ofFindings 3 findings).problem? 1 = d.problem? 1 := by
  intro findings d x
  have hlength : findings.length < Nat.pow 2 31 := by decide
  obtain ⟨haccounts, hraised⟩ := ofFindings_accountsFor 2 hlength
  exact ⟨hlength, haccounts, by decide, by decide, (hraised 1).2 1 (by decide)⟩

end Diagnosis

end ProofDesk
