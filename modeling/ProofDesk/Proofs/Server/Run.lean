import ProofDesk.Proofs.Trace
import ProofDesk.Server.Basic

namespace ProofDesk

/-- What a client tells the server. After a change of the settings the documents are checked again
in the order of a hash map, so any order may come. -/
inductive Notice where
  | opened (uri : Uri) (text : Text) (version : Int)
  | changed (uri : Uri) (version : Int) (texts : List Text)
  | closed (uri : Uri)
  | configured (settings : Json) (order : List Uri)
  | recheck (uri : Uri)

/-- One write to the documents or the settings, or one check of a document. -/
inductive Deed where
  | upsert (uri : Uri) (text : Text) (version : Option Int)
  | close (uri : Uri)
  | apply (settings : Json)
  | check (uri : Uri)

def Notice.deeds : Notice → List Deed
  | .opened uri text version => [.upsert uri text (some version), .check uri]
  | .changed uri version texts =>
    match texts.getLast? with
    | some text => [.upsert uri text (some version), .check uri]
    | none => []
  | .closed uri => [.close uri]
  | .configured settings order => .apply settings :: order.map .check
  | .recheck uri => [.check uri]

def Effect.Publishes (uri : Uri) : Effect → Prop
  | .published target _ _ => target = uri
  | _ => False

@[simp]
theorem Effect.publishes_published {uri target : Uri} {version : Option Int}
    {diagnostics : List Diagnostic} :
    (published target version diagnostics).Publishes uri ↔ target = uri :=
  Iff.rfl

@[simp]
theorem Effect.not_publishes_checked {uri : Uri} {launch : Launch} {text : Text} :
    ¬(checked launch text).Publishes uri :=
  id

instance (uri : Uri) : DecidablePred (Effect.Publishes uri)
  | .published target _ _ => inferInstanceAs (Decidable (target = uri))
  | .checked _ _ => .isFalse id
  | .showedError _ => .isFalse id
  | .askedFormat _ => .isFalse id

namespace Server

variable {k : Checker} {s s' : Server} {uri other : Uri} {d checked : OpenDocument} {a : Analysis}

section Notices

variable [Reader]

def receive (k : Checker) (s : Server) : Notice → Server
  | .opened uri text version => s.openDocument k uri text version
  | .changed uri version texts => s.changeDocument k uri version texts
  | .closed uri => s.closeDocument uri
  | .configured settings order => s.configureIn k settings order
  | .recheck uri => s.validate k uri

def run (k : Checker) (s : Server) (notices : List Notice) : Server :=
  notices.foldl (receive k) s

def perform (k : Checker) (s : Server) : Deed → Server
  | .upsert uri text version => s.upsert uri text version
  | .close uri => s.closeDocument uri
  | .apply settings => { s with settings := s.settings.apply settings }
  | .check uri => s.validate k uri

theorem receive_eq_foldl (k : Checker) (s : Server) (n : Notice) :
    s.receive k n = n.deeds.foldl (perform k) s := by
  cases n with
  | changed uri version texts =>
    cases h : texts.getLast? <;> simp [receive, Notice.deeds, changeDocument, perform, h]
  | configured settings order =>
    simp only [receive, Notice.deeds, configureIn, List.foldl_cons, List.foldl_map, perform]
  | _ => rfl

theorem run_eq_foldl (k : Checker) (s : Server) (notices : List Notice) :
    s.run k notices = (notices.flatMap Notice.deeds).foldl (perform k) s := by
  induction notices generalizing s with
  | nil => rfl
  | cons n notices ih =>
    rw [List.flatMap_cons, List.foldl_append, ← receive_eq_foldl, ← ih]
    rfl

/-- The check of an open document gives a report, and this is its analysis. -/
structure Validates (k : Checker) (s : Server) (uri : Uri) (checked : OpenDocument)
    (a : Analysis) : Prop where
  isOpen : s.document? uri = some checked
  decoded : ∃ output errors report,
    k s.log s.settings.launch checked.text = .finished output errors ∧
      Reader.read output = .ok report ∧
      a = ⟨report.unit, .ofFindings s.settings.maxProblems report.findings⟩

end Notices

section Document

theorem document?_congr (h : s'.documents = s.documents) : s'.document? uri = s.document? uri := by
  rw [document?, document?, h]

/-- A change of the entries with one URI acts on the entry that is looked up. -/
theorem find?_map_entry (entries : List (Uri × OpenDocument)) (f : OpenDocument → OpenDocument) :
    (entries.map fun e => if e.1 == other then (other, f e.2) else e).find? (·.1 == uri) =
      (entries.find? (·.1 == uri)).map fun e => if e.1 == other then (other, f e.2) else e := by
  rw [List.find?_map]
  congr 2
  funext e
  by_cases he : e.1 = other <;> simp [he]

theorem document?_map_self (entries : List (Uri × OpenDocument))
    (f : OpenDocument → OpenDocument) (hs : s.documents = entries.map fun e =>
      if e.1 == uri then (uri, f e.2) else e) :
    s.document? uri = ((entries.find? (·.1 == uri)).map Prod.snd).map f := by
  rw [document?, hs, find?_map_entry, Option.map_map, Option.map_map]
  refine Option.map_congr fun e he => ?_
  have huri : e.1 = uri := by simpa using List.find?_some he
  simp [huri]

theorem document?_map_of_ne (entries : List (Uri × OpenDocument))
    (f : OpenDocument → OpenDocument) (hs : s.documents = entries.map fun e =>
      if e.1 == other then (other, f e.2) else e) (hne : other ≠ uri) :
    s.document? uri = (entries.find? (·.1 == uri)).map Prod.snd := by
  rw [document?, hs, find?_map_entry, Option.map_map]
  refine Option.map_congr fun e he => ?_
  have huri : e.1 = uri := by simpa using List.find?_some he
  simp [huri, hne.symm]

theorem any_documents_iff : (s.documents.any (·.1 == uri)) = true ↔ s.document? uri ≠ none := by
  simp [document?, List.find?_eq_none]

theorem document?_upsert_of_none (hd : s.document? uri = none) (text : Text)
    (version : Option Int) :
    (s.upsert uri text version).document? uri = some ⟨text, version, none⟩ := by
  have hany : ¬(s.documents.any (·.1 == uri)) = true := fun h => any_documents_iff.mp h hd
  have hnone : s.documents.find? (·.1 == uri) = none := by simpa [document?] using hd
  simp [upsert, hany, document?, List.find?_append, hnone]

theorem document?_upsert_of_some (hd : s.document? uri = some d) (text : Text)
    (version : Option Int) :
    (s.upsert uri text version).document? uri = some { d with text, version } := by
  have hany : (s.documents.any (·.1 == uri)) = true := any_documents_iff.mpr (by simp [hd])
  have hmap : (s.upsert uri text version).document? uri = (s.document? uri).map fun d =>
      { d with text, version } :=
    document?_map_self s.documents (fun d => { d with text, version }) (by simp [upsert, hany])
  rw [hmap, hd]
  rfl

theorem document?_upsert_of_ne (hne : other ≠ uri) (text : Text) (version : Option Int) :
    (s.upsert other text version).document? uri = s.document? uri := by
  by_cases hany : (s.documents.any (·.1 == other)) = true
  · exact document?_map_of_ne s.documents (fun d => { d with text, version })
      (by simp [upsert, hany]) hne
  · simp [upsert, hany, document?, List.find?_append, hne]

section Upsert

variable (s : Server) (uri : Uri) (text : Text) (version : Option Int)

theorem upsert_eq : s.upsert uri text version =
    { s with documents := (s.upsert uri text version).documents } := by
  unfold upsert
  split <;> rfl

@[simp]
theorem log_upsert : (s.upsert uri text version).log = s.log := by
  rw [upsert_eq]

@[simp]
theorem lastValidated_upsert : (s.upsert uri text version).lastValidated = s.lastValidated := by
  rw [upsert_eq]

@[simp]
theorem outageShown_upsert : (s.upsert uri text version).outageShown = s.outageShown := by
  rw [upsert_eq]

end Upsert

theorem document?_store_self (a : Analysis) :
    (s.store uri a).document? uri = (s.document? uri).map fun d => { d with analysis := some a } :=
  document?_map_self s.documents (fun d => { d with analysis := some a }) rfl

theorem document?_store_of_ne (hne : other ≠ uri) (a : Analysis) :
    (s.store other a).document? uri = s.document? uri :=
  document?_map_of_ne s.documents (fun d => { d with analysis := some a }) rfl hne

theorem document?_close_self : (s.closeDocument uri).document? uri = none := by
  simp [closeDocument, document?, List.find?_eq_none]

theorem document?_close_of_ne (hne : other ≠ uri) :
    (s.closeDocument other).document? uri = s.document? uri := by
  have hfind : (s.documents.filter (·.1 != other)).find? (·.1 == uri) =
      s.documents.find? (·.1 == uri) := by
    rw [List.find?_filter]
    congr 1
    funext e
    by_cases he : e.1 = uri <;> simp [he, hne.symm]
  simp only [document?, closeDocument, hfind]

end Document

section Validate

variable [Reader]

theorem Validates.unique {checked' : OpenDocument} {a' : Analysis}
    (h : Validates k s uri checked a) (h' : Validates k s uri checked' a') :
    checked' = checked ∧ a' = a := by
  obtain ⟨hopen, output, errors, report, hk, hreport, rfl⟩ := h
  obtain ⟨hopen', output', errors', report', hk', hreport', rfl⟩ := h'
  obtain rfl := Option.some.inj (hopen'.symm.trans hopen)
  obtain ⟨rfl, -⟩ := Check.finished.inj (hk'.symm.trans hk)
  obtain rfl := Except.ok.inj (hreport'.symm.trans hreport)
  exact ⟨rfl, rfl⟩

def alarm (s : Server) (cause : Breakdown) : List Effect :=
  if s.outageShown then [] else [.showedError (cause.message s.settings.launch)]

/-- All that a check of a document can do. -/
inductive Checks (k : Checker) (s : Server) (uri : Uri) : Server → Prop
  | idle : s.document? uri = none → Checks k s uri s
  | fails (d : OpenDocument) (cause : Breakdown) : s.document? uri = some d →
      k s.log s.settings.launch d.text = .broken cause →
      Checks k s uri { s with
        outageShown := true
        log := s.log ++ .checked s.settings.launch d.text :: s.alarm cause }
  | garbled (d : OpenDocument) (output errors : Text) (cause : ReportError) :
      s.document? uri = some d → k s.log s.settings.launch d.text = .finished output errors →
      Reader.read output = .error cause →
      Checks k s uri { s with
        outageShown := false
        log := s.log ++ [.checked s.settings.launch d.text] }
  | succeeds (d : OpenDocument) (output errors : Text) (a : Analysis) :
      k s.log s.settings.launch d.text = .finished output errors → Validates k s uri d a →
      Checks k s uri { s.store uri a with
        outageShown := false
        lastValidated := some uri
        log := s.log ++
          [.checked s.settings.launch d.text, .published uri d.version a.diagnosis.diagnostics] }

theorem checks_validate (k : Checker) (s : Server) (uri : Uri) :
    Checks k s uri (s.validate k uri) := by
  cases hopen : s.document? uri with
  | none =>
    rw [validate, hopen]
    exact .idle hopen
  | some d =>
    cases hk : k s.log s.settings.launch d.text with
    | broken cause =>
      have h := Checks.fails d cause hopen hk
      cases hshown : s.outageShown <;>
        simpa [validate, hopen, hk, hshown, note, alarm] using h
    | finished output errors =>
      cases hreport : Reader.read output with
      | error cause =>
        have h := Checks.garbled d output errors cause hopen hk hreport
        simpa [validate, hopen, hk, hreport, note] using h
      | ok report =>
        have hv : Validates k s uri d ⟨report.unit, .ofFindings s.settings.maxProblems
            report.findings⟩ := ⟨hopen, output, errors, report, hk, hreport, rfl⟩
        have h := Checks.succeeds d output errors _ hk hv
        simpa [validate, hopen, hk, hreport, note, store] using h

theorem not_validates_of_idle (hopen : s.document? uri = none) (checked : OpenDocument)
    (a : Analysis) : ¬Validates k s uri checked a := by
  intro hv
  cases hopen.symm.trans hv.isOpen

theorem not_validates_of_fails {cause : Breakdown} (hopen : s.document? uri = some d)
    (hk : k s.log s.settings.launch d.text = .broken cause) (checked : OpenDocument)
    (a : Analysis) : ¬Validates k s uri checked a := by
  rintro ⟨hopen', output, errors, report, hk', -, -⟩
  obtain rfl := Option.some.inj (hopen.symm.trans hopen')
  cases hk.symm.trans hk'

theorem not_validates_of_garbled {output errors : Text} {cause : ReportError}
    (hopen : s.document? uri = some d)
    (hk : k s.log s.settings.launch d.text = .finished output errors)
    (hreport : Reader.read output = .error cause) (checked : OpenDocument) (a : Analysis) :
    ¬Validates k s uri checked a := by
  rintro ⟨hopen', output', errors', report, hk', hreport', -⟩
  obtain rfl := Option.some.inj (hopen.symm.trans hopen')
  obtain ⟨rfl, -⟩ := Check.finished.inj (hk.symm.trans hk')
  cases hreport.symm.trans hreport'

/-- The analysis of a successful check is stored and published with the version checked. -/
theorem validate_of_validates (h : Validates k s uri checked a) :
    (s.validate k uri).documents = (s.store uri a).documents ∧
      (s.validate k uri).log = s.log ++ [.checked s.settings.launch checked.text] ++
        [.published uri checked.version a.diagnosis.diagnostics] := by
  have hchecks := checks_validate k s uri
  generalize s.validate k uri = t at hchecks
  cases hchecks with
  | idle hopen => exact absurd h (not_validates_of_idle hopen checked a)
  | fails d cause hopen hk => exact absurd h (not_validates_of_fails hopen hk checked a)
  | garbled d output errors cause hopen hk hreport =>
    exact absurd h (not_validates_of_garbled hopen hk hreport checked a)
  | succeeds d output errors b hk hv =>
    obtain ⟨rfl, rfl⟩ := hv.unique h
    exact ⟨rfl, by simp⟩

/-- A check without a report changes no document and publishes nothing. -/
theorem validate_of_not_validates (h : ∀ checked a, ¬Validates k s uri checked a) :
    (s.validate k uri).documents = s.documents ∧
      ∃ noted, (s.validate k uri).log = s.log ++ noted ∧ ∀ e ∈ noted, ∀ u, ¬e.Publishes u := by
  have hchecks := checks_validate k s uri
  generalize s.validate k uri = t at hchecks
  cases hchecks with
  | idle hopen => exact ⟨rfl, [], by simp, by simp⟩
  | fails d cause hopen hk =>
    refine ⟨rfl, _, rfl, ?_⟩
    unfold alarm
    split <;> simp [Effect.Publishes]
  | garbled d output errors cause hopen hk hreport =>
    exact ⟨rfl, _, rfl, by simp [Effect.Publishes]⟩
  | succeeds d output errors a hk hv => exact absurd hv (h d a)

end Validate

end Server

end ProofDesk
