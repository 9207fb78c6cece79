import ProofDesk.Proofs.Server.Run

namespace ProofDesk.Server

variable {k : Checker} {s s' : Server} {uri : Uri} {d : OpenDocument} {x : Deed}
  {created e : Server × Deed} {since : List (Server × Deed)}

def Writes (uri : Uri) (e : Server × Deed) : Prop :=
  ∃ text version, e.2 = .upsert uri text version

def Creates (uri : Uri) (e : Server × Deed) : Prop :=
  e.1.document? uri = none ∧ Writes uri e

theorem not_writes (h : ∀ text version, x ≠ .upsert uri text version) : ¬Writes uri (s, x) := by
  rintro ⟨text, version, he⟩
  exact h text version he

section Runs

variable [Reader]

def Succeeds (k : Checker) (uri : Uri) (e : Server × Deed) : Prop :=
  e.2 = .check uri ∧ ∃ checked a, Validates k e.1 uri checked a

/-- An entry agrees with the deeds since it was made, and the log with the entry. -/
structure InStep (k : Checker) (s : Server) (uri : Uri) (d : OpenDocument)
    (created : Server × Deed) (since : List (Server × Deed)) : Prop where
  creates : Creates uri created
  kept : ∀ e ∈ since, e.1.document? uri ≠ none ∧ e.2 ≠ .close uri
  written : ∃ e, LastWith (Writes uri) (created :: since) e ∧ e.2 = .upsert uri d.text d.version
  analysed : ∀ a, d.analysis = some a ↔
    ∃ e checked, LastWith (Succeeds k uri) since e ∧ Validates k e.1 uri checked a
  published : ∀ e checked a, LastWith (Succeeds k uri) since e → Validates k e.1 uri checked a →
    LastWith (Effect.Publishes uri) s.log
      (.published uri checked.version a.diagnosis.diagnostics)

/-- What a deed does to the entry of a document and to the log. -/
inductive Touches (k : Checker) (uri : Uri) (s : Server) (x : Deed) (s' : Server) : Prop
  | creates (text : Text) (version : Option Int) : s.document? uri = none →
      x = .upsert uri text version → s'.document? uri = some ⟨text, version, none⟩ →
      Touches k uri s x s'
  | rewrites (d : OpenDocument) (text : Text) (version : Option Int) :
      s.document? uri = some d → x = .upsert uri text version →
      s'.document? uri = some { d with text, version } → s'.log = s.log → Touches k uri s x s'
  | closes : s'.document? uri = none → Touches k uri s x s'
  | validates (checked : OpenDocument) (a : Analysis) (question : Effect) : x = .check uri →
      Validates k s uri checked a → ¬question.Publishes uri →
      s'.document? uri = some { checked with analysis := some a } →
      s'.log = s.log ++ [question] ++ [.published uri checked.version a.diagnosis.diagnostics] →
      Touches k uri s x s'
  | passes (noted : List Effect) : ¬Writes uri (s, x) → ¬Succeeds k uri (s, x) →
      x ≠ .close uri → s'.document? uri = s.document? uri → s'.log = s.log ++ noted →
      (∀ e ∈ noted, ¬e.Publishes uri) → Touches k uri s x s'

theorem touches_upsert (k : Checker) (uri other : Uri) (s : Server) (text : Text)
    (version : Option Int) :
    Touches k uri s (.upsert other text version) (s.upsert other text version) := by
  by_cases hu : other = uri
  · subst hu
    cases hd : s.document? other with
    | none => exact .creates text version hd rfl (document?_upsert_of_none hd text version)
    | some d =>
      exact .rewrites d text version hd rfl (document?_upsert_of_some hd text version)
        (log_upsert s other text version)
  · exact .passes [] (not_writes fun _ _ h => hu (Deed.upsert.inj h).1) (fun h => by cases h.1)
      (fun h => by cases h) (document?_upsert_of_ne hu text version) (by simp) (by simp)

theorem touches_close (k : Checker) (uri other : Uri) (s : Server) :
    Touches k uri s (.close other) (s.closeDocument other) := by
  by_cases hu : other = uri
  · subst hu
    exact .closes document?_close_self
  · exact .passes [] (not_writes fun _ _ h => by cases h) (fun h => by cases h.1)
      (fun h => hu (Deed.close.inj h)) (document?_close_of_ne hu) (by simp [closeDocument])
      (by simp)

theorem touches_check (k : Checker) (uri other : Uri) (s : Server) :
    Touches k uri s (.check other) (s.validate k other) := by
  by_cases h : ∃ checked a, Validates k s other checked a
  · obtain ⟨checked, a, hv⟩ := h
    obtain ⟨hdocs, hlog⟩ := validate_of_validates hv
    by_cases hu : other = uri
    · subst hu
      refine .validates checked a _ rfl hv ?_ ?_ hlog
      · simp [Effect.Publishes]
      · rw [document?_congr hdocs, document?_store_self, hv.isOpen]
        rfl
    · rw [List.append_assoc] at hlog
      refine .passes _ (not_writes fun _ _ h => by cases h) (fun h => hu (Deed.check.inj h.1))
        (fun h => by cases h) ?_ hlog ?_
      · rw [document?_congr hdocs, document?_store_of_ne hu]
      · simp [Effect.Publishes, hu]
  · have hno : ∀ checked a, ¬Validates k s other checked a := fun checked a hv =>
      h ⟨checked, a, hv⟩
    obtain ⟨hdocs, noted, hlog, hnoted⟩ := validate_of_not_validates hno
    refine .passes noted (not_writes fun _ _ h => by cases h) ?_ (fun h => by cases h)
      (document?_congr hdocs) hlog fun e he => hnoted e he uri
    rintro ⟨hx, checked, a, hv⟩
    cases hx
    exact hno checked a hv

theorem touches_perform (k : Checker) (uri : Uri) (s : Server) (x : Deed) :
    Touches k uri s x (s.perform k x) := by
  cases x with
  | upsert other text version => exact touches_upsert k uri other s text version
  | close other => exact touches_close k uri other s
  | apply settings =>
    exact .passes [] (not_writes fun _ _ h => by cases h) (fun h => by cases h.1)
      (fun h => by cases h) rfl (by simp [perform]) (by simp)
  | check other => exact touches_check k uri other s

section Step

theorem inStep_of_creates {text : Text} {version : Option Int} (hd : s.document? uri = none)
    (hx : x = .upsert uri text version) :
    InStep k s' uri ⟨text, version, none⟩ (s, x) [] where
  creates := ⟨hd, text, version, hx⟩
  kept e he := by cases he
  written := ⟨(s, x), ⟨[], [], rfl, ⟨text, version, hx⟩, by simp⟩, hx⟩
  analysed a := by simp [LastWith]
  published e checked a he := by simp [LastWith] at he

/-- A write replaces text and version; what was checked is still what is shown. -/
theorem InStep.rewritten {text : Text} {version : Option Int}
    (h : InStep k s uri d created since) (hd : s.document? uri = some d)
    (hx : x = .upsert uri text version) (hlog : s'.log = s.log) :
    InStep k s' uri { d with text, version } created (since ++ [(s, x)]) := by
  have hfails : ¬Succeeds k uri (s, x) := fun hs => by
    cases hx.symm.trans hs.1
  refine ⟨h.creates, ?_, ?_, fun a => ?_, fun e checked a he hv => ?_⟩
  · rw [List.forall_mem_append, List.forall_mem_singleton]
    exact ⟨h.kept, by simp [hd], fun hc => by cases hx.symm.trans hc⟩
  · refine ⟨(s, x), ?_, hx⟩
    rw [← List.cons_append]
    exact (lastWith_concat_of_pos ⟨text, version, hx⟩).mpr rfl
  · simp only [lastWith_concat_of_neg hfails]
    exact h.analysed a
  · rw [hlog]
    exact h.published e checked a ((lastWith_concat_of_neg hfails).mp he) hv

theorem InStep.validated {checked : OpenDocument} {a : Analysis} {question : Effect}
    (h : InStep k s uri checked created since) (hx : x = .check uri)
    (hv : Validates k s uri checked a)
    (hlog : s'.log =
      s.log ++ [question] ++ [.published uri checked.version a.diagnosis.diagnostics]) :
    InStep k s' uri { checked with analysis := some a } created (since ++ [(s, x)]) := by
  have hsucceeds : Succeeds k uri (s, x) := ⟨hx, checked, a, hv⟩
  have hwrites : ¬Writes uri (s, x) := not_writes fun _ _ hw => by cases hx.symm.trans hw
  refine ⟨h.creates, ?_, ?_, fun b => ?_, fun e checked' b he hb => ?_⟩
  · rw [List.forall_mem_append, List.forall_mem_singleton]
    exact ⟨h.kept, by simp [hv.isOpen], fun hc => by cases hx.symm.trans hc⟩
  · obtain ⟨e, he, hw⟩ := h.written
    refine ⟨e, ?_, hw⟩
    rw [← List.cons_append]
    exact (lastWith_concat_of_neg hwrites).mpr he
  · simp only [lastWith_concat_of_pos hsucceeds]
    constructor
    · intro hb
      obtain rfl := Option.some.inj hb
      exact ⟨_, checked, rfl, hv⟩
    · rintro ⟨e, checked', rfl, hb⟩
      rw [(hv.unique hb).2]
  · obtain rfl := (lastWith_concat_of_pos hsucceeds).mp he
    obtain ⟨rfl, rfl⟩ := hv.unique hb
    have hshown : Effect.Publishes uri
        (.published uri checked'.version b.diagnosis.diagnostics) := rfl
    rw [hlog]
    exact (lastWith_concat_of_pos hshown).mpr rfl

theorem InStep.passed {noted : List Effect} (h : InStep k s uri d created since)
    (hd : s.document? uri = some d) (hwrites : ¬Writes uri (s, x))
    (hfails : ¬Succeeds k uri (s, x)) (hx : x ≠ .close uri) (hlog : s'.log = s.log ++ noted)
    (hnoted : ∀ e ∈ noted, ¬e.Publishes uri) :
    InStep k s' uri d created (since ++ [(s, x)]) := by
  refine ⟨h.creates, ?_, ?_, fun a => ?_, fun e checked a he hv => ?_⟩
  · rw [List.forall_mem_append, List.forall_mem_singleton]
    exact ⟨h.kept, by simp [hd], hx⟩
  · obtain ⟨e, he, hw⟩ := h.written
    refine ⟨e, ?_, hw⟩
    rw [← List.cons_append]
    exact (lastWith_concat_of_neg hwrites).mpr he
  · simp only [lastWith_concat_of_neg hfails]
    exact h.analysed a
  · rw [hlog]
    exact (lastWith_append_of_neg hnoted).mpr
      (h.published e checked a ((lastWith_concat_of_neg hfails).mp he) hv)

end Step

/-- The trace ends with deeds since the entry was made, and with these the entry is in step. -/
theorem inStep_foldl (k : Checker) (s : Server) (hs : s.documents = []) (deeds : List Deed) :
    ∀ d, (deeds.foldl (perform k) s).document? uri = some d →
      ∃ before created since, trace (perform k) s deeds = before ++ created :: since ∧
        InStep k (deeds.foldl (perform k) s) uri d created since := by
  induction deeds using List.reverseRecOn with
  | nil =>
    intro d hd
    simp [document?, hs] at hd
  | append_singleton deeds x ih =>
    intro d' hd'
    rw [List.foldl_append, List.foldl_cons, List.foldl_nil] at hd' ⊢
    rw [trace_concat]
    generalize deeds.foldl (perform k) s = t at ih hd' ⊢
    cases touches_perform k uri t x with
    | creates text version hd hx hd'' =>
      obtain rfl := Option.some.inj (hd''.symm.trans hd')
      exact ⟨_, (t, x), [], rfl, inStep_of_creates hd hx⟩
    | rewrites d text version hd hx hd'' hlog =>
      obtain rfl := Option.some.inj (hd''.symm.trans hd')
      obtain ⟨before, created, since, htrace, h⟩ := ih d hd
      exact ⟨before, created, _, by simp [htrace], h.rewritten hd hx hlog⟩
    | closes hd =>
      rw [hd] at hd'
      cases hd'
    | validates checked a question hx hv hquestion hd hlog =>
      obtain rfl := Option.some.inj (hd.symm.trans hd')
      obtain ⟨before, created, since, htrace, h⟩ := ih checked hv.isOpen
      exact ⟨before, created, _, by simp [htrace], h.validated hx hv hlog⟩
    | passes noted hwrites hfails hx hd hlog hnoted =>
      rw [hd] at hd'
      obtain ⟨before, created, since, htrace, h⟩ := ih d' hd'
      exact ⟨before, created, _, by simp [htrace], h.passed hd' hwrites hfails hx hlog hnoted⟩

/-- After any notices, an open document holds the text and version written last and the analysis of
the last check with a report since its entry was made, if there was one; the diagnostics sent last
for it are those of that analysis, with the version that was checked. -/
theorem inStep_run (k : Checker) (settings : Settings) (files : Files) (notices : List Notice)
    (uri : Uri) (d : OpenDocument)
    (hd : (run k { settings, files } notices).document? uri = some d) :
    ∃ before created since,
      trace (perform k) { settings, files } (notices.flatMap Notice.deeds) =
        before ++ created :: since ∧
      InStep k (run k { settings, files } notices) uri d created since := by
  rw [run_eq_foldl] at hd ⊢
  exact inStep_foldl k _ rfl _ d hd

end Runs

def answersOnce : Checker := fun log _ _ =>
  if log.isEmpty then .finished "{}".toList [] else .broken (.notEnded [])

/-- A document is opened and checked, changed while the checker is out of order, and still has the
analysis of its first text. -/
theorem inStep_of_outage :
    let uri : Uri := { scheme := Uri.fileScheme, path := "/a".toList }
    let notices : List Notice := [.opened uri ['x'] 1, .changed uri 2 [['y']]]
    let s : Server := run answersOnce {} notices
    let d : OpenDocument := ⟨['y'], some 2, some ⟨{}, {}⟩⟩
    s.document? uri = some d ∧ ∃ before created since,
      trace (perform answersOnce) {} (notices.flatMap Notice.deeds) = before ++ created :: since ∧
        InStep answersOnce s uri d created since :=
  have hd : (run answersOnce {} [.opened { scheme := Uri.fileScheme, path := "/a".toList } ['x'] 1,
      .changed { scheme := Uri.fileScheme, path := "/a".toList } 2 [['y']]]).document?
      { scheme := Uri.fileScheme, path := "/a".toList } =
      some ⟨['y'], some 2, some ⟨{}, {}⟩⟩ := rfl
  ⟨hd, inStep_run answersOnce {} .usual _ _ _ hd⟩

end ProofDesk.Server
