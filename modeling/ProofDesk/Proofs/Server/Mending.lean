import ProofDesk.Proofs.Report.Codes
import ProofDesk.Proofs.Report.RoundTrip
import ProofDesk.Proofs.Server.InStep
import ProofDesk.Server.Feature

namespace ProofDesk.Server

variable {k : Checker} {s : Server} {uri : Uri} {d checked : OpenDocument} {a : Analysis} {x : Deed}
  {e : Server × Deed} {found : List Finding} {version : Option Int} {shown : List Diagnostic}

/-- The fix comes from a problem with the range of the diagnostic that it is offered for. -/
def Mends (a : Analysis) (text : Text) (layout : Layout) (act : CodeAction) : Prop :=
  ∃ q, a.diagnosis.problemFor? act.diagnostic = some q ∧
    act.fix ∈ q.fixes text (some a.unit) layout ∧ q.range = act.diagnostic.range

theorem mem_codeActions_iff {client : Option (List Json)} {ds : List Diagnostic} {act : CodeAction}
    (hd : s.document? uri = some d) (ha : d.analysis = some a) :
    act ∈ (s.codeActions client uri ds).1 ↔
      ∃ x ∈ ds, x.isOwn = true ∧ ∃ q, a.diagnosis.problemFor? x = some q ∧
        ∃ fix ∈ q.fixes d.text (some a.unit) (s.layout client d.text), act = ⟨uri, x, fix⟩ := by
  have hactions : (s.codeActions client uri ds).1 = (ds.filter Diagnostic.isOwn).flatMap fun x =>
      (a.diagnosis.problemFor? x).toList.flatMap fun q =>
        (q.fixes d.text (some a.unit) (s.layout client d.text)).map fun fix => ⟨uri, x, fix⟩ := by
    simp only [codeActions, hd, ha]
    split
    next hempty => rw [List.isEmpty_iff.mp hempty, List.flatMap_nil]
    next =>
      refine List.flatMap_congr fun x _ => ?_
      cases a.diagnosis.problemFor? x <;> simp
  simp only [hactions, List.mem_flatMap, List.mem_filter, Option.mem_toList, List.mem_map,
    and_assoc, eq_comm]

/-- Where codes are places of a list of findings, the fixes are for the diagnostics' own problems
exactly when the problems that are mended have the ranges of the diagnostics with their codes. -/
theorem mends_iff (client : Option (List Json)) {ds : List Diagnostic}
    (hd : s.document? uri = some d) (ha : d.analysis = some a)
    (hproblem : ∀ (n : Nat) q, a.diagnosis.problem? n = some q ↔
      ∃ f, found[n]? = some f ∧ f.problem? = some q)
    (hds : ∀ x ∈ ds, x.isOwn = true ∧ ∃ n : Nat, x.code = some (.number n)) :
    (∀ act ∈ (s.codeActions client uri ds).1, Mends a d.text (s.layout client d.text) act) ↔
      ∀ x ∈ ds, ∀ (n : Nat) (g : Finding) (q : Problem), x.code = some (.number n) →
        found[n]? = some g → g.problem? = some q →
        q.fixes d.text (some a.unit) (s.layout client d.text) ≠ [] → g.range = x.range := by
  constructor
  · intro h x hx n g q hcode hg hq hne
    have hfor : a.diagnosis.problemFor? x = some q := by
      rw [Diagnosis.problemFor?, hcode]
      exact (hproblem n q).mpr ⟨g, hg, hq⟩
    obtain ⟨fix, hfix⟩ := List.exists_mem_of_ne_nil _ hne
    obtain ⟨q', hq', -, hrange⟩ := h ⟨uri, x, fix⟩
      ((mem_codeActions_iff hd ha).mpr ⟨x, hx, (hds x hx).1, q, hfor, fix, hfix, rfl⟩)
    obtain rfl := Option.some.inj (hfor.symm.trans hq')
    exact (Finding.range_of_problem? hq).symm.trans hrange
  · intro h act hact
    obtain ⟨x, hx, -, q, hfor, fix, hfix, rfl⟩ := (mem_codeActions_iff hd ha).mp hact
    obtain ⟨-, n, hcode⟩ := hds x hx
    have hn : a.diagnosis.problem? n = some q := by
      rw [Diagnosis.problemFor?, hcode] at hfor
      exact hfor
    obtain ⟨g, hg, hq⟩ := (hproblem n q).mp hn
    have hrange := h x hx n g q hcode hg hq (List.ne_nil_of_mem hfix)
    exact ⟨q, hfor, hfix, (Finding.range_of_problem? hq).trans hrange⟩

section Runs

variable [Reader]

def Finds (k : Checker) (uri : Uri) (e : Server × Deed) (found : List Finding) : Prop :=
  e.2 = .check uri ∧ ∃ d output errors report, e.1.document? uri = some d ∧
    k e.1.log e.1.settings.launch d.text = .finished output errors ∧
    Reader.read output = .ok report ∧
    found = report.findings.take e.1.settings.maxProblems

/-- The finding at the place of one of these diagnostics in an earlier list of findings and the one
at that place in a later list have different ranges, and the later one gets a fix. -/
def Overtakes (unit : CompilationUnit) (text : Text) (layout : Layout)
    (diagnostics : List Diagnostic) (earlier later : List Finding) : Prop :=
  ∃ (n : Nat) (f g : Finding) (x : Diagnostic) (q : Problem),
    earlier[n]? = some f ∧ f.diagnostic? n = some x ∧ x ∈ diagnostics ∧
    later[n]? = some g ∧ g.problem? = some q ∧ q.fixes text (some unit) layout ≠ [] ∧
    g.range ≠ f.range

theorem exists_finds_of_validates (he : e.2 = .check uri) (h : Validates k e.1 uri checked a) :
    ∃ found, Finds k uri e found ∧
      (∀ x, x ∈ a.diagnosis.diagnostics ↔
        ∃ (n : Nat) (f : Finding), found[n]? = some f ∧ f.diagnostic? n = some x) ∧
      ∀ (n : Nat) q, a.diagnosis.problem? n = some q ↔
        ∃ f, found[n]? = some f ∧ f.problem? = some q := by
  obtain ⟨hopen, output, errors, report, hk, hreport, rfl⟩ := h
  exact ⟨_, ⟨he, checked, output, errors, report, hopen, hk, hreport, rfl⟩,
    fun _ => Diagnosis.mem_diagnostics_iff, fun _ _ => Diagnosis.problem?_eq_some_iff⟩

section Published

theorem published_of_mem_log_perform
    (h : .published uri version shown ∈ (s.perform k x).log) :
    .published uri version shown ∈ s.log ∨
      x = .check uri ∧ ∃ checked a, Validates k s uri checked a ∧
        shown = a.diagnosis.diagnostics := by
  cases x with
  | upsert other text version' => exact Or.inl (log_upsert s other text version' ▸ h)
  | close other => exact Or.inl h
  | apply settings => exact Or.inl h
  | check other =>
    by_cases hv : ∃ checked a, Validates k s other checked a
    · obtain ⟨checked, a, hv⟩ := hv
      have hmem := (validate_of_validates hv).2 ▸ h
      rw [List.append_assoc, List.mem_append] at hmem
      rcases hmem with hmem | hmem
      · exact Or.inl hmem
      · have heq : uri = other ∧ version = checked.version ∧
            shown = a.diagnosis.diagnostics := by simpa using hmem
        obtain ⟨rfl, -, hshown⟩ := heq
        exact Or.inr ⟨rfl, checked, a, hv, hshown⟩
    · obtain ⟨-, noted, hlog, hnoted⟩ :=
        validate_of_not_validates fun checked a hva => hv ⟨checked, a, hva⟩
      have hmem := hlog ▸ h
      rcases List.mem_append.mp hmem with hmem | hmem
      · exact Or.inl hmem
      · exact absurd rfl (hnoted _ hmem uri)

theorem exists_check_of_published (deeds : List Deed) (hs : s.log = [])
    (h : .published uri version shown ∈ (deeds.foldl (perform k) s).log) :
    ∃ e ∈ trace (perform k) s deeds, e.2 = .check uri ∧ ∃ checked a,
      Validates k e.1 uri checked a ∧ shown = a.diagnosis.diagnostics := by
  induction deeds using List.reverseRecOn with
  | nil => simp [hs] at h
  | append_singleton deeds x ih =>
    rw [List.foldl_append, List.foldl_cons, List.foldl_nil] at h
    rw [trace_concat]
    rcases published_of_mem_log_perform h with h | ⟨rfl, checked, a, hv, hshown⟩
    · obtain ⟨e, he, hcheck⟩ := ih h
      exact ⟨e, List.mem_append_left _ he, hcheck⟩
    · exact ⟨_, List.mem_append_right _ (List.mem_singleton_self _), rfl, checked, a, hv, hshown⟩

/-- A diagnostic that was published in a run is that of a finding of a check of the run. -/
theorem exists_finds_of_published {x : Diagnostic} (deeds : List Deed) (hs : s.log = [])
    (h : .published uri version shown ∈ (deeds.foldl (perform k) s).log) (hx : x ∈ shown) :
    ∃ e ∈ trace (perform k) s deeds, ∃ found, Finds k uri e found ∧
      ∃ (n : Nat) (f : Finding), found[n]? = some f ∧ f.diagnostic? n = some x := by
  obtain ⟨e, he, hcheck, checked, a, hv, rfl⟩ := exists_check_of_published deeds hs h
  obtain ⟨found, hfound, hdiagnostics, -⟩ := exists_finds_of_validates hcheck hv
  exact ⟨e, he, found, hfound, (hdiagnostics x).mp hx⟩

end Published

theorem exists_lastWith_of_analysis (deeds : List Deed) (hs : s.documents = [])
    (hd : (deeds.foldl (perform k) s).document? uri = some d) (ha : d.analysis = some a) :
    ∃ last checked, LastWith (Succeeds k uri) (trace (perform k) s deeds) last ∧
      Validates k last.1 uri checked a := by
  obtain ⟨before, created, since, htrace, hstep⟩ := inStep_foldl k s hs deeds d hd
  obtain ⟨last, checked, hlast, hv⟩ := (hstep.analysed a).mp ha
  have happend := hlast.append_left (before ++ [created])
  rw [List.append_assoc, List.singleton_append, ← htrace] at happend
  exact ⟨last, checked, happend, hv⟩

/-- After any notices, the fixes offered for diagnostics that were published in the run are for the
diagnostics' own problems exactly when no check of the run is overtaken by the last one with a
report; so it is for the diagnostics of that last check. -/
theorem mends_run_iff (k : Checker) (settings : Settings) (files : Files) (notices : List Notice)
    (client : Option (List Json)) (uri : Uri) (d : OpenDocument) (a : Analysis)
    (ds : List Diagnostic) (hd : (run k { settings, files } notices).document? uri = some d)
    (ha : d.analysis = some a)
    (hds : ∀ x ∈ ds, ∃ version shown,
      .published uri version shown ∈ (run k { settings, files } notices).log ∧ x ∈ shown) :
    let s := run k { settings, files } notices
    let deeds := trace (perform k) { settings, files } (notices.flatMap Notice.deeds)
    ∃ last found, LastWith (Succeeds k uri) deeds last ∧ Finds k uri last found ∧
      ((∀ act ∈ (s.codeActions client uri ds).1, Mends a d.text (s.layout client d.text) act) ↔
        ∀ e ∈ deeds, ∀ earlier, Finds k uri e earlier →
          ¬Overtakes a.unit d.text (s.layout client d.text) ds earlier found) ∧
      ((∀ x ∈ ds, x ∈ a.diagnosis.diagnostics) →
        ∀ act ∈ (s.codeActions client uri ds).1, Mends a d.text (s.layout client d.text) act) := by
  intro s deeds
  have hrun : run k { settings, files } notices =
      (notices.flatMap Notice.deeds).foldl (perform k) { settings, files } :=
    run_eq_foldl k _ notices
  have hcheck : ∀ x ∈ ds, ∃ e ∈ deeds, ∃ earlier, Finds k uri e earlier ∧
      ∃ (n : Nat) (f : Finding), earlier[n]? = some f ∧ f.diagnostic? n = some x := by
    intro x hx
    obtain ⟨version, shown, hlog, hshown⟩ := hds x hx
    exact exists_finds_of_published _ rfl (hrun ▸ hlog) hshown
  have hcodes : ∀ x ∈ ds, x.isOwn = true ∧ ∃ n : Nat, x.code = some (.number n) := by
    intro x hx
    obtain ⟨e, -, earlier, -, n, f, -, hfx⟩ := hcheck x hx
    obtain ⟨-, hcode, hown⟩ := Finding.of_diagnostic? hfx
    exact ⟨hown, n, hcode⟩
  obtain ⟨last, checked, hlast, hv⟩ := exists_lastWith_of_analysis _ rfl (hrun ▸ hd) ha
  obtain ⟨found, hfound, hdiagnostics, hproblem⟩ := exists_finds_of_validates hlast.holds.1 hv
  have hiff := mends_iff (s := s) client hd ha hproblem hcodes
  refine ⟨last, found, hlast, hfound, hiff.trans ⟨?_, ?_⟩, fun hnow => hiff.mpr ?_⟩
  · rintro h e - earlier - ⟨n, f, g, x, q, hf, hx, hmem, hg, hq, hne, hrange⟩
    obtain ⟨hxrange, hcode, -⟩ := Finding.of_diagnostic? hx
    exact hrange ((h x hmem n g q hcode hg hq hne).trans hxrange)
  · intro h x hx n g q hcode hg hq hne
    obtain ⟨e, he, earlier, hearlier, m, f, hf, hfx⟩ := hcheck x hx
    obtain ⟨rfl, hxrange⟩ := Finding.place_of_diagnostic? hfx hcode
    by_contra hrange
    refine h e he earlier hearlier ⟨m, f, g, x, q, hf, hfx, hx, hg, hq, hne, ?_⟩
    rwa [hxrange] at hrange
  · intro x hx n g q hcode hg hq hne
    obtain ⟨m, f, hf, hfx⟩ := (hdiagnostics x).mp (hnow x hx)
    obtain ⟨rfl, hxrange⟩ := Finding.place_of_diagnostic? hfx hcode
    obtain rfl := Option.some.inj (hf.symm.trans hg)
    exact hxrange.symm

theorem run_opened_changed {first second output output' : Text} {x x' : Report}
    (hk : ∀ log launch, k log launch first = .finished output [])
    (hk' : ∀ log launch, k log launch second = .finished output' [])
    (hx : Reader.read output = .ok x) (hx' : Reader.read output' = .ok x') :
    let s := run k {} [.opened uri first 1, .changed uri 2 [second]]
    s.document? uri =
        some ⟨second, some 2, some ⟨x'.unit, .ofFindings 1000 x'.findings⟩⟩ ∧
      .published uri (some 1) (Diagnosis.ofFindings 1000 x.findings).diagnostics ∈ s.log ∧
      .published uri (some 2) (Diagnosis.ofFindings 1000 x'.findings).diagnostics ∈ s.log := by
  simp [run, receive, openDocument, changeDocument, upsert, validate, document?, hk, hk', hx, hx',
    store, note]

end Runs

def missingOn (line : Nat) : Finding :=
  { tag := some "MISSING_ASSUMES".toList, payload := some ['a'], beginLine := line,
    beginColumn := 1, endLine := line, endColumn := 2 }

/-- A checker that finds an assumption missing on the first line of a text that begins with `x`, and
on the second line of any other text. -/
def wandering : Checker := fun _ _ text =>
  .finished (Report.encode ⟨[missingOn (if text.head? = some 'x' then 1 else 2)], {}⟩).compact []

def wanderingUri : Uri :=
  { scheme := Uri.fileScheme, path := "/a".toList }

def wanderingRun : Server :=
  run wandering {} [.opened wanderingUri ['x', '\n', 'y'] 1,
    .changed wanderingUri 2 [['z', '\n', 'y']]]

def onlyError (line : Nat) : Diagnostic :=
  ⟨⟨⟨line, 0⟩, ⟨line, 1⟩⟩, some 1, some (.number 0), some Diagnostic.ownSource, [], none, none,
    none, none⟩

def secondAnalysis : Analysis :=
  ⟨{}, .ofFindings 1000 [missingOn 2]⟩

theorem wandering_answers (text : Text) :
    ∃ output, (∀ log launch, wandering log launch text = .finished output []) ∧
      Report.ofText output = .ok ⟨[missingOn (if text.head? = some 'x' then 1 else 2)], {}⟩ := by
  refine ⟨_, fun _ _ => rfl, ?_⟩
  split <;> exact Report.ofText_compact (by rfl)

theorem wanderingRun_eq : wanderingRun.document? wanderingUri =
    some ⟨['z', '\n', 'y'], some 2, some secondAnalysis⟩ ∧
      .published wanderingUri (some 1) [onlyError 0] ∈ wanderingRun.log ∧
      .published wanderingUri (some 2) [onlyError 1] ∈ wanderingRun.log := by
  obtain ⟨output, hk, hread⟩ := wandering_answers ['x', '\n', 'y']
  obtain ⟨output', hk', hread'⟩ := wandering_answers ['z', '\n', 'y']
  exact run_opened_changed hk hk' hread hread'

theorem mends_last_check :
    wanderingRun.document? wanderingUri =
      some ⟨['z', '\n', 'y'], some 2, some secondAnalysis⟩ ∧
    .published wanderingUri (some 2) [onlyError 1] ∈ wanderingRun.log ∧
    ∀ act ∈ (wanderingRun.codeActions none wanderingUri [onlyError 1]).1,
      Mends secondAnalysis ['z', '\n', 'y'] (wanderingRun.layout none ['z', '\n', 'y']) act := by
  obtain ⟨hd, -, hlog⟩ := wanderingRun_eq
  have hds : ∀ x ∈ [onlyError 1], ∃ version shown,
      .published wanderingUri version shown ∈ wanderingRun.log ∧ x ∈ shown :=
    fun x hx => ⟨some 2, [onlyError 1], hlog, hx⟩
  obtain ⟨last, found, -, -, -, hnow⟩ :=
    mends_run_iff wandering {} .usual _ none wanderingUri _ secondAnalysis [onlyError 1] hd rfl hds
  exact ⟨hd, hlog, hnow fun x hx => hx⟩

theorem fixes_missingOn_ne_nil (layout : Layout) (q : Problem)
    (h : (missingOn 2).problem? = some q) : q.fixes ['z', '\n', 'y'] (some {}) layout ≠ [] := by
  obtain rfl : (⟨.missingAssumes, ['a'], ⟨⟨1, 0⟩, ⟨1, 1⟩⟩⟩ : Problem) = q := Option.some.inj h
  have hline : Text.lineText? ['z', '\n', 'y'] 1 = some ['y'] := by decide
  simp [Problem.fixes, Problem.site?, Problem.fixesAt, hline, Range.isSingleLine]

/-- The diagnostic of the first check gets the fix for what the second check found elsewhere. -/
theorem not_mends_of_reused_code :
    .published wanderingUri (some 1) [onlyError 0] ∈ wanderingRun.log ∧
      wanderingRun.document? wanderingUri =
        some ⟨['z', '\n', 'y'], some 2, some secondAnalysis⟩ ∧
      ¬∀ act ∈ (wanderingRun.codeActions none wanderingUri [onlyError 0]).1,
        Mends secondAnalysis ['z', '\n', 'y'] (wanderingRun.layout none ['z', '\n', 'y']) act := by
  obtain ⟨hd, hlog, -⟩ := wanderingRun_eq
  refine ⟨hlog, hd, fun h => ?_⟩
  have hcodes : ∀ x ∈ [onlyError 0], x.isOwn = true ∧ ∃ n : Nat, x.code = some (.number n) := by
    rintro x hx
    obtain rfl := List.mem_singleton.mp hx
    exact ⟨rfl, 0, rfl⟩
  have hranges := (mends_iff none hd rfl (fun _ _ => Diagnosis.problem?_eq_some_iff) hcodes).mp h
  have hrange := hranges (onlyError 0) (List.mem_singleton_self _) 0 (missingOn 2) _ rfl rfl rfl
    (fixes_missingOn_ne_nil _ _ rfl)
  cases hrange

end ProofDesk.Server
