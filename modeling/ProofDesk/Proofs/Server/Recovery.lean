import ProofDesk.Proofs.Report.RoundTrip
import ProofDesk.Proofs.Server.InStep

namespace ProofDesk.Server

variable {k : Checker} {s : Server} {uri : Uri} {d : OpenDocument} {a : Analysis}
  {u : CompilationUnit}

theorem exists_document_of_ast? (h : s.ast? = some u) :
    ∃ uri d a, s.document? uri = some d ∧ d.analysis = some a ∧ a.unit = u := by
  obtain ⟨a, ha, hu⟩ := Option.map_eq_some_iff.mp h
  obtain ⟨uri, -, hanalysis⟩ := Option.bind_eq_some_iff.mp ha
  obtain ⟨d, hd, hda⟩ := Option.bind_eq_some_iff.mp hanalysis
  exact ⟨uri, d, a, hd, hda, hu⟩

theorem exists_report_of_ast? (hs : s.documents = []) (deeds : List Deed)
    (h : (deeds.foldl (perform k) s).ast? = some u) :
    ∃ output report, Report.ofText output = .ok report ∧ report.unit = u := by
  obtain ⟨uri, d, a, hd, ha, rfl⟩ := exists_document_of_ast? h
  obtain ⟨-, created, since, -, hstep⟩ := inStep_foldl k s hs deeds d hd
  obtain ⟨e, checked, -, hv⟩ := (hstep.analysed a).mp ha
  obtain ⟨output, errors, report, -, hreport, rfl⟩ := hv.decoded
  exact ⟨output, report, hreport, rfl⟩

/-- A report that was read is what its own text reads as, so that writing it out again changes
nothing more; and the unit that is handed out after any notices is what its text reads as. In each
case the text may not be nested deeper than a reader allows. -/
theorem reports_come_back (k : Checker) (settings : Settings) (files : Files)
    (notices : List Notice) :
    (∀ output report, Report.ofText output = .ok report →
      report.encode.height ≤ Json.maxLevels →
        Report.ofText report.encode.compact = .ok report) ∧
      (∀ output written, (Report.ofText output).map (·.encode.compact) = .ok written →
        (∀ j, Json.read? written = some j → j.height ≤ Json.maxLevels) →
          (Report.ofText written).map (·.encode.compact) = .ok written) ∧
      ∀ unit, (run k { settings, files } notices).ast? = some unit →
        unit.encode.height ≤ Json.maxLevels →
          (Json.read? unit.encode.compact).bind (CompilationUnit.decode Json.maxLevels) =
            some unit := by
  refine ⟨fun output report => Report.ofText_encode, ?_, ?_⟩
  · intro output written h hheight
    cases hreport : Report.ofText output with
    | error cause => simp [hreport, Except.map] at h
    | ok report =>
      obtain rfl : report.encode.compact = written := by simpa [hreport, Except.map] using h
      have hl := hheight _ (Json.read?_compact report.encode)
      rw [Report.ofText_encode hreport hl]
      rfl
  · intro unit h hl
    rw [run_eq_foldl] at h
    obtain ⟨output, report, hreport, rfl⟩ := exists_report_of_ast? rfl _ h
    obtain ⟨-, j, -, hj⟩ := Report.ofText_eq_ok_iff.mp hreport
    rw [Json.read?_compact, Option.bind_some]
    exact Report.recovers_unit hj Json.maxLevels hl

/-- A report in the older spelling, with a control character in a message and a module that has a
unit inside. -/
def olderJson : Json :=
  .record [
    ("Quickfixes", .array [.record [("error_message", .text ['"', '\x01', '∀'])]]),
    ("AST", .record [("Module", .record [("Name", .str "M: p"), ("AST", .record [])])])]

def olderReport : Report :=
  ⟨[{ message := ['"', '\x01', '∀'] }],
    { modules := [{ name := "M: p".toList, unit := some {} }] }⟩

theorem ofText_olderJson : Report.ofText olderJson.compact = .ok olderReport :=
  Report.ofText_compact (by rfl)

/-- The report in the older spelling comes back in the newer one, and so does its unit after a check
that gives it. -/
theorem olderReport_comes_back :
    let k : Checker := fun _ _ _ => .finished olderJson.compact []
    let uri : Uri := { scheme := Uri.fileScheme, path := "/a".toList }
    let x := olderReport
    Report.ofText x.encode.compact = .ok x ∧
      (Report.ofText x.encode.compact).map (·.encode.compact) = .ok x.encode.compact ∧
      (run k {} [.opened uri ['x'] 1]).ast? = some x.unit ∧
      (Json.read? x.unit.encode.compact).bind (CompilationUnit.decode Json.maxLevels) =
        some x.unit := by
  intro k uri x
  have hread := ofText_olderJson
  have hgiven : Reader.read olderJson.compact = .ok olderReport := hread
  have hall := reports_come_back k {} .usual [.opened uri ['x'] 1]
  have hheight : x.encode.height ≤ Json.maxLevels := by decide
  have hast : (run k {} [.opened uri ['x'] 1]).ast? = some x.unit := by
    simp [run, receive, openDocument, upsert, validate, document?, k, hgiven, ast?, analysis?, store,
      note, x]
  refine ⟨hall.1 _ _ hread hheight, hall.2.1 olderJson.compact _ ?_ ?_, hast,
    hall.2.2 _ hast (by decide)⟩
  · rw [hread]
    rfl
  · intro j hj
    rw [Json.read?_compact] at hj
    obtain rfl := Option.some.inj hj
    exact hheight

end ProofDesk.Server
