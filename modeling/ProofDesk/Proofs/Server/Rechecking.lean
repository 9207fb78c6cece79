import ProofDesk.Proofs.Server.Serving

namespace ProofDesk

namespace Server

variable {k : Checker} {answer : Launch → Text → Check} {s t u : Server} {uri : Uri}
  {d : OpenDocument} {a : Analysis} {order : List Uri}

def publications (uri : Uri) (log : List Effect) : List Effect :=
  log.filter (Effect.Publishes uri ·)

theorem publications_append (uri : Uri) (log noted : List Effect) :
    publications uri (log ++ noted) = publications uri log ++ publications uri noted :=
  List.filter_append log noted

section Distinct

theorem mem_uris_iff : uri ∈ s.uris ↔ s.document? uri ≠ none := by
  rw [← any_documents_iff, uris]
  simp only [List.mem_map, List.any_eq_true, beq_iff_eq]

theorem uris_map_entry (uri : Uri) (f : OpenDocument → OpenDocument)
    (entries : List (Uri × OpenDocument)) :
    (entries.map fun e => if e.1 == uri then (uri, f e.2) else e).map Prod.fst =
      entries.map Prod.fst := by
  rw [List.map_map]
  refine List.map_congr_left fun e _ => ?_
  by_cases he : e.1 = uri <;> simp [he]

theorem uris_store (s : Server) (uri : Uri) (a : Analysis) : (s.store uri a).uris = s.uris :=
  uris_map_entry uri (fun d => { d with analysis := some a }) s.documents

theorem uris_validate [Reader] (k : Checker) (s : Server) (uri : Uri) :
    (s.validate k uri).uris = s.uris := by
  have hchecks := checks_validate k s uri
  generalize s.validate k uri = t at hchecks
  cases hchecks with
  | succeeds d output errors a hk hv => exact uris_store s uri a
  | _ => rfl

theorem nodup_uris_upsert (h : s.uris.Nodup) (uri : Uri) (text : Text) (version : Option Int) :
    (s.upsert uri text version).uris.Nodup := by
  by_cases hany : (s.documents.any (·.1 == uri)) = true
  · have huris : (s.upsert uri text version).uris = s.uris := by
      simp only [upsert, hany, if_true]
      exact uris_map_entry uri (fun d => { d with text, version }) s.documents
    rwa [huris]
  · have hnew : uri ∉ s.uris := fun hmem => hany (any_documents_iff.mpr (mem_uris_iff.mp hmem))
    have huris : (s.upsert uri text version).uris = s.uris ++ [uri] := by
      simp [upsert, hany, uris]
    rw [huris]
    exact List.nodup_append.mpr ⟨h, by simp, by simpa using fun v hv => ne_of_mem_of_not_mem hv hnew⟩

theorem nodup_uris_turn [Reader] (h : s.uris.Nodup) (k : Checker) (x : Turn) :
    (s.turn k x).uris.Nodup := by
  cases x with
  | deed x =>
    cases x with
    | upsert uri text version => exact nodup_uris_upsert h uri text version
    | close uri => exact h.sublist (List.filter_sublist.map Prod.fst)
    | apply settings => exact h
    | check uri => exact uris_validate k s uri ▸ h
  | answer q =>
    have hdocs := (unmoved_answer s q).documents
    rwa [turn, uris, hdocs]

theorem nodup_uris_serve [Reader] (h : s.uris.Nodup) (k : Checker) (messages : List Message) :
    (s.serve k messages).uris.Nodup := by
  rw [serve_eq_foldl]
  induction messages.flatMap Message.turns generalizing s with
  | nil => exact h
  | cons x turns ih => exact ih (nodup_uris_turn h k x)

end Distinct

section Runs

variable [Reader]

def analysisOf? (answer : Launch → Text → Check) (settings : Settings) (text : Text) :
    Option Analysis :=
  match answer settings.launch text with
  | .broken _ => none
  | .finished output _ =>
    match Reader.read output with
    | .error _ => none
    | .ok report => some ⟨report.unit, .ofFindings settings.maxProblems report.findings⟩

def rechecked (answer : Launch → Text → Check) (settings : Settings) (d : OpenDocument) :
    OpenDocument :=
  { d with analysis := (analysisOf? answer settings d.text).or d.analysis }

def publication? (answer : Launch → Text → Check) (settings : Settings) (uri : Uri)
    (d : OpenDocument) : Option Effect :=
  (analysisOf? answer settings d.text).map fun a =>
    .published uri d.version a.diagnosis.diagnostics

/-- The documents of this list, and no others, have been checked again, each of them once. -/
structure Rechecks (answer : Launch → Text → Check) (s : Server) (order : List Uri) (t : Server) :
    Prop where
  settings : t.settings = s.settings
  listed : ∀ uri ∈ order, t.document? uri = (s.document? uri).map (rechecked answer s.settings)
  others : ∀ uri, uri ∉ order → t.document? uri = s.document? uri
  log : ∃ noted, t.log = s.log ++ noted ∧
    (∀ uri ∈ order, publications uri noted =
      ((s.document? uri).bind (publication? answer s.settings uri)).toList) ∧
    ∀ uri, uri ∉ order → publications uri noted = []

theorem analysisOf?_of_validates (h : Validates (fun _ => answer) s uri d a) :
    analysisOf? answer s.settings d.text = some a := by
  obtain ⟨-, output, errors, report, hk, hreport, rfl⟩ := h
  simp [analysisOf?, hk, hreport]

/-- A check without a report changes no document and sends nothing. -/
theorem rechecks_of_none {noted : List Effect} (hdocs : t.documents = s.documents)
    (hsettings : t.settings = s.settings) (hlog : t.log = s.log ++ noted)
    (hnoted : ∀ uri, publications uri noted = [])
    (hnone : ∀ d, s.document? uri = some d → analysisOf? answer s.settings d.text = none) :
    Rechecks answer s [uri] t := by
  have hsame : ∀ other, t.document? other = s.document? other := fun other =>
    document?_congr hdocs
  refine ⟨hsettings, ?_, fun other _ => hsame other, noted, hlog, ?_, fun other _ => hnoted other⟩
  · rw [List.forall_mem_singleton, hsame]
    cases hd : s.document? uri with
    | none => rfl
    | some d => simp [rechecked, hnone d hd]
  · rw [List.forall_mem_singleton, hnoted]
    cases hd : s.document? uri with
    | none => rfl
    | some d => simp [publication?, hnone d hd]

theorem rechecks_validate (answer : Launch → Text → Check) (s : Server) (uri : Uri) :
    Rechecks answer s [uri] (s.validate (fun _ => answer) uri) := by
  have hchecks := checks_validate (fun _ => answer) s uri
  generalize s.validate (fun _ => answer) uri = t at hchecks
  cases hchecks with
  | idle hopen =>
    refine rechecks_of_none rfl rfl (List.append_nil _).symm (fun _ => rfl) fun d hd => ?_
    cases hopen.symm.trans hd
  | fails d cause hopen hk =>
    refine rechecks_of_none rfl rfl rfl (fun _ => ?_) fun d' hd => ?_
    · unfold alarm
      split <;> rfl
    · obtain rfl := Option.some.inj (hopen.symm.trans hd)
      simp [analysisOf?, hk]
  | garbled d output errors cause hopen hk hreport =>
    refine rechecks_of_none rfl rfl rfl (fun _ => rfl) fun d' hd => ?_
    obtain rfl := Option.some.inj (hopen.symm.trans hd)
    simp [analysisOf?, hk, hreport]
  | succeeds d output errors a hk hv =>
    have hanalysis := analysisOf?_of_validates hv
    have hstored : (s.store uri a).document? uri = some { d with analysis := some a } := by
      rw [document?_store_self, hv.isOpen]
      rfl
    refine ⟨rfl, ?_, fun other hother => ?_, _, rfl, ?_, fun other hother => ?_⟩
    · rw [List.forall_mem_singleton]
      refine Eq.trans hstored ?_
      simp [hv.isOpen, rechecked, hanalysis]
    · exact document?_store_of_ne (fun hu => hother (by simp [hu])) a
    · rw [List.forall_mem_singleton]
      simp [publications, hv.isOpen, publication?, hanalysis]
    · have hne : uri ≠ other := fun hu => hother (by simp [hu])
      simp [publications, hne]

/-- A document is checked as it was before the other documents of the round were. -/
theorem Rechecks.cons (h : Rechecks answer s [uri] t) (hrest : Rechecks answer t order u)
    (hnew : uri ∉ order) : Rechecks answer s (uri :: order) u := by
  obtain ⟨noted, hlog, hnoted, hnoted'⟩ := h.log
  obtain ⟨further, hlog', hfurther, hfurther'⟩ := hrest.log
  rw [h.settings] at hfurther
  -- the first check leaves the other documents as they were
  have hsame : ∀ other ∈ order, t.document? other = s.document? other := fun other hother =>
    h.others other fun hu => hnew (List.mem_singleton.mp hu ▸ hother)
  refine ⟨hrest.settings.trans h.settings, ?_, fun other hother => ?_, noted ++ further, ?_, ?_,
    fun other hother => ?_⟩
  · rw [List.forall_mem_cons, hrest.others uri hnew]
    refine ⟨h.listed uri (by simp), fun other hother => ?_⟩
    rw [hrest.listed other hother, h.settings, hsame other hother]
  · rw [List.mem_cons, not_or] at hother
    rw [hrest.others other hother.2, h.others other (by simpa using hother.1)]
  · rw [hlog', hlog, List.append_assoc]
  · rw [List.forall_mem_cons, publications_append, hfurther' uri hnew, List.append_nil]
    refine ⟨hnoted uri (by simp), fun other hother => ?_⟩
    have hne : other ∉ [uri] := fun hu => hnew (List.mem_singleton.mp hu ▸ hother)
    rw [publications_append, hnoted' other hne, hfurther other hother, hsame other hother,
      List.nil_append]
  · rw [List.mem_cons, not_or] at hother
    rw [publications_append, hnoted' other (by simpa using hother.1), hfurther' other hother.2,
      List.nil_append]

theorem rechecks_foldl (answer : Launch → Text → Check) (s : Server) (hnodup : order.Nodup) :
    Rechecks answer s order (order.foldl (validate fun _ => answer) s) := by
  induction order generalizing s with
  | nil => exact ⟨rfl, by simp, fun uri _ => rfl, [], by simp, by simp, fun uri _ => rfl⟩
  | cons uri order ih =>
    obtain ⟨hnew, hnodup⟩ := List.nodup_cons.mp hnodup
    exact (rechecks_validate answer s uri).cons (ih _ hnodup) hnew

/-- After a round over all open documents every document and its publications are known, whatever
the order was. -/
theorem Rechecks.all (h : Rechecks answer s order t) (hall : ∀ uri, uri ∈ order ↔ uri ∈ s.uris) :
    (∀ uri, t.document? uri = (s.document? uri).map (rechecked answer s.settings)) ∧
      ∃ noted, t.log = s.log ++ noted ∧ ∀ uri, publications uri noted =
        ((s.document? uri).bind (publication? answer s.settings uri)).toList := by
  have hclosed : ∀ uri, uri ∉ order → s.document? uri = none := fun uri huri => by
    by_contra hopen
    exact huri ((hall uri).mpr (mem_uris_iff.mpr hopen))
  obtain ⟨noted, hlog, hnoted, hnoted'⟩ := h.log
  refine ⟨fun uri => ?_, noted, hlog, fun uri => ?_⟩
  · by_cases huri : uri ∈ order
    · exact h.listed uri huri
    · rw [h.others uri huri, hclosed uri huri]
      rfl
  · by_cases huri : uri ∈ order
    · exact hnoted uri huri
    · rw [hnoted' uri huri, hclosed uri huri]
      rfl

/-- In any state that messages lead to, and for a checker whose answer depends on the launch and the
text alone, the order in which the open documents are checked again after a change of the settings
does not matter to them: text and version stay, the analysis is that of the document's own check,
and the publications are the same, at most one of them new for each document. -/
theorem configureIn_any_order (k : Checker) (settings : Settings) (files : Files)
    (messages : List Message) (answer : Launch → Text → Check) (sent : Json)
    (order order' : List Uri) (h : order.Perm (serve k { settings, files } messages).uris)
    (h' : order'.Perm (serve k { settings, files } messages).uris) :
    let s := serve k { settings, files } messages
    let t := s.configureIn (fun _ => answer) sent order
    let t' := s.configureIn (fun _ => answer) sent order'
    (∀ uri, t.document? uri = t'.document? uri ∧
      t.document? uri = (s.document? uri).map (rechecked answer t.settings)) ∧
      (∀ uri, publications uri t.log = publications uri t'.log) ∧
      ∃ noted, t.log = s.log ++ noted ∧ ∀ uri, (publications uri noted).length ≤ 1 := by
  intro s t t'
  have hnodup : s.uris.Nodup := nodup_uris_serve (by simp [uris]) k messages
  let changed : Server := { s with settings := s.settings.apply sent }
  have ht : Rechecks answer changed order t := rechecks_foldl answer changed (h.nodup_iff.mpr hnodup)
  have ht' : Rechecks answer changed order' t' :=
    rechecks_foldl answer changed (h'.nodup_iff.mpr hnodup)
  obtain ⟨hdocs, noted, hlog, hnoted⟩ := ht.all fun _ => h.mem_iff
  obtain ⟨hdocs', noted', hlog', hnoted'⟩ := ht'.all fun _ => h'.mem_iff
  refine ⟨fun uri => ⟨?_, ?_⟩, fun uri => ?_, noted, hlog, fun uri => ?_⟩
  · rw [hdocs, hdocs']
  · rw [hdocs, ht.settings]
    rfl
  · rw [hlog, hlog', publications_append, publications_append, hnoted, hnoted']
  · rw [hnoted]
    exact Option.length_toList_le

end Runs

def threeAnswers : Launch → Text → Check := fun _ text =>
  if text = ['x'] then .finished "{}".toList []
  else if text = ['y'] then .finished ['?'] []
  else .broken (.notStarted ['?'])

/-- Three documents, one for each answer, forwards and backwards: only what the server remembers of
the outage depends on the order. -/
theorem configureIn_backwards :
    let uris : List Uri := [['a'], ['b'], ['c']].map fun path => { scheme := Uri.fileScheme, path }
    let messages : List Message := (uris.zip [['x'], ['y'], ['z']]).map fun p =>
      .notice (.opened p.1 p.2 1)
    let s := serve (fun _ => threeAnswers) {} messages
    let t := s.configureIn (fun _ => threeAnswers) .null uris
    let t' := s.configureIn (fun _ => threeAnswers) .null uris.reverse
    uris.Perm s.uris ∧ uris.reverse.Perm s.uris ∧ t.outageShown = true ∧ t'.outageShown = false ∧
      (∀ uri, t.document? uri = t'.document? uri) ∧
      ∀ uri, publications uri t.log = publications uri t'.log := by
  intro uris messages s t t'
  have huris : s.uris = uris := rfl
  have hforwards : uris.Perm s.uris := huris ▸ List.Perm.refl _
  have hbackwards : uris.reverse.Perm s.uris := huris ▸ List.reverse_perm _
  obtain ⟨hdocs, hlog, -⟩ := configureIn_any_order (fun _ => threeAnswers) {} .usual messages
    threeAnswers .null uris uris.reverse hforwards hbackwards
  exact ⟨hforwards, hbackwards, rfl, rfl, fun uri => (hdocs uri).1, hlog⟩

end Server

end ProofDesk
