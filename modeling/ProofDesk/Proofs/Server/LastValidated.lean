import ProofDesk.Proofs.Server.Serving

namespace ProofDesk.Server

variable {k : Checker} {s s' : Server} {uri other : Uri} {a b : Analysis} {x : Turn}
  {e : Server × Turn} {turns : List (Server × Turn)}

theorem analysis?_congr (h : s'.document? uri = s.document? uri) :
    s'.analysis? uri = s.analysis? uri := by
  rw [analysis?, analysis?, h]

theorem analysis?_upsert (s : Server) (other uri : Uri) (text : Text) (version : Option Int) :
    (s.upsert other text version).analysis? uri = s.analysis? uri := by
  by_cases hu : other = uri
  · subst hu
    cases hd : s.document? other with
    | none => simp [analysis?, hd, document?_upsert_of_none hd]
    | some d => simp [analysis?, hd, document?_upsert_of_some hd]
  · exact analysis?_congr (document?_upsert_of_ne hu text version)

section Runs

variable [Reader]

def Yields (k : Checker) (uri : Uri) (a : Analysis) (e : Server × Turn) : Prop :=
  e.2 = .deed (.check uri) ∧ ∃ checked, Validates k e.1 uri checked a

/-- Of the checks in these turns that give an analysis the last one gives this analysis of this
document, and the document has not been closed since. -/
def Stands (k : Checker) (turns : List (Server × Turn)) (uri : Uri) (a : Analysis) : Prop :=
  ∃ before e after, turns = before ++ e :: after ∧ Yields k uri a e ∧
    ∀ x ∈ after, (∀ other b, ¬Yields k other b x) ∧ x.2 ≠ .deed (.close uri)

theorem Yields.unique (h : Yields k uri a e) (h' : Yields k other b e) : other = uri ∧ b = a := by
  obtain ⟨he, checked, hv⟩ := h
  obtain ⟨he', checked', hv'⟩ := h'
  obtain rfl : uri = other := Deed.check.inj (Turn.deed.inj (he.symm.trans he'))
  exact ⟨rfl, (hv.unique hv').2⟩

theorem stands_concat_of_yields (h : Yields k uri a e) :
    Stands k (turns ++ [e]) other b ↔ other = uri ∧ b = a := by
  constructor
  · rintro ⟨before, e', after, hturns, he', hafter⟩
    rcases concat_eq_append_cons hturns with ⟨-, rfl, -⟩ | ⟨mid, -, rfl⟩
    · exact h.unique he'
    · exact absurd h ((hafter e (by simp)).1 uri a)
  · rintro ⟨rfl, rfl⟩
    exact ⟨turns, e, [], rfl, h, fun x hx => by cases hx⟩

theorem stands_concat_of_not_yields (h : ∀ other b, ¬Yields k other b e) :
    Stands k (turns ++ [e]) uri a ↔ Stands k turns uri a ∧ e.2 ≠ .deed (.close uri) := by
  constructor
  · rintro ⟨before, e', after, hturns, he', hafter⟩
    rcases concat_eq_append_cons hturns with ⟨-, rfl, -⟩ | ⟨mid, rfl, rfl⟩
    · exact absurd he' (h uri a)
    · rw [List.forall_mem_append, List.forall_mem_singleton] at hafter
      exact ⟨⟨before, e', mid, rfl, he', hafter.1⟩, hafter.2.2⟩
  · rintro ⟨⟨before, e', after, rfl, he', hafter⟩, hclose⟩
    refine ⟨before, e', after ++ [e], by simp, he', ?_⟩
    rw [List.forall_mem_append, List.forall_mem_singleton]
    exact ⟨hafter, h, hclose⟩

/-- What a turn does to the pointer and to the analyses. -/
inductive Points (k : Checker) (s : Server) (x : Turn) (s' : Server) : Prop
  | yields (uri : Uri) (a : Analysis) : Yields k uri a (s, x) → s'.lastValidated = some uri →
      s'.analysis? uri = some a → Points k s x s'
  | keeps : (∀ uri a, ¬Yields k uri a (s, x)) →
      (∀ uri, s'.lastValidated = some uri ↔
        s.lastValidated = some uri ∧ x ≠ .deed (.close uri)) →
      (∀ uri, x ≠ .deed (.close uri) → s'.analysis? uri = s.analysis? uri) → Points k s x s'

theorem points_of_still (hcheck : ∀ uri, x ≠ .deed (.check uri))
    (hclose : ∀ uri, x ≠ .deed (.close uri)) (hlast : s'.lastValidated = s.lastValidated)
    (hanalysis : ∀ uri, s'.analysis? uri = s.analysis? uri) : Points k s x s' :=
  .keeps (fun uri _ h => hcheck uri h.1)
    (fun uri => by rw [hlast]; exact ⟨fun h => ⟨h, hclose uri⟩, And.left⟩)
    fun uri _ => hanalysis uri

theorem points_close (k : Checker) (s : Server) (other : Uri) :
    Points k s (.deed (.close other)) (s.closeDocument other) := by
  refine .keeps (fun _ _ h => by cases h.1) (fun uri => ?_) fun uri hne => ?_
  · simp only [closeDocument, Option.filter_eq_some_iff, bne_iff_ne, ne_eq, Turn.deed.injEq,
      Deed.close.injEq]
    exact and_congr_right fun _ => not_congr eq_comm
  · exact analysis?_congr (document?_close_of_ne fun hu => hne (by rw [hu]))

theorem points_check (k : Checker) (s : Server) (other : Uri) :
    Points k s (.deed (.check other)) (s.validate k other) := by
  have hfails (s' : Server) (hno : ∀ d a, ¬Validates k s other d a)
      (hdocs : s'.documents = s.documents) (hlast : s'.lastValidated = s.lastValidated) :
      Points k s (.deed (.check other)) s' := by
    refine .keeps ?_ (fun uri => by simp [hlast]) fun uri _ => ?_
    · rintro uri a ⟨hx, checked, hv⟩
      obtain rfl := Deed.check.inj (Turn.deed.inj hx)
      exact hno checked a hv
    · exact analysis?_congr (document?_congr hdocs)
  have hchecks := checks_validate k s other
  generalize s.validate k other = t at hchecks
  cases hchecks with
  | idle hopen => exact hfails s (not_validates_of_idle hopen) rfl rfl
  | fails d cause hopen hk => exact hfails _ (not_validates_of_fails hopen hk) rfl rfl
  | garbled d output errors cause hopen hk hreport =>
    exact hfails _ (not_validates_of_garbled hopen hk hreport) rfl rfl
  | succeeds d output errors a hk hv =>
    refine .yields other a ⟨rfl, d, hv⟩ rfl ?_
    have hstored : (s.store other a).document? other = some { d with analysis := some a } := by
      rw [document?_store_self, hv.isOpen]
      rfl
    exact congrArg (·.bind OpenDocument.analysis) hstored

theorem points_turn (k : Checker) (s : Server) (x : Turn) : Points k s x (s.turn k x) := by
  cases x with
  | deed x =>
    cases x with
    | upsert other text version =>
      exact points_of_still (fun _ h => by cases h) (fun _ h => by cases h)
        (lastValidated_upsert s other text version)
        fun uri => analysis?_upsert s other uri text version
    | close other => exact points_close k s other
    | apply settings =>
      exact points_of_still (fun _ h => by cases h) (fun _ h => by cases h) rfl fun _ => rfl
    | check other => exact points_check k s other
  | answer q =>
    obtain ⟨hdocs, -, hlast, -, -⟩ := unmoved_answer s q
    exact points_of_still (fun _ h => by cases h) (fun _ h => by cases h) hlast
      fun uri => analysis?_congr (document?_congr hdocs)

/-- Pointer and analyses agree with the turns of the run. -/
structure Tracks (k : Checker) (turns : List (Server × Turn)) (s : Server) : Prop where
  pointer : ∀ uri, s.lastValidated = some uri ↔ ∃ a, Stands k turns uri a
  analysis : ∀ uri a, Stands k turns uri a → s.analysis? uri = some a

theorem tracks_nil (hs : s.lastValidated = none) : Tracks k [] s := by
  have hnone : ∀ uri a, ¬Stands k [] uri a := by
    rintro uri a ⟨before, e, after, hturns, -⟩
    simp at hturns
  exact ⟨fun uri => by simp [hs, hnone], fun uri a h => absurd h (hnone uri a)⟩

theorem Tracks.concat (h : Tracks k turns s) (hpoints : Points k s x s') :
    Tracks k (turns ++ [(s, x)]) s' := by
  cases hpoints with
  | yields uri a hyields hlast hanalysis =>
    constructor
    · intro other
      simp [stands_concat_of_yields hyields, hlast, eq_comm]
    · intro other b hstands
      obtain ⟨rfl, rfl⟩ := (stands_concat_of_yields hyields).mp hstands
      exact hanalysis
  | keeps hno hlast hanalysis =>
    -- only a closing of its document takes from what stood before
    constructor
    · intro uri
      simp only [stands_concat_of_not_yields hno, exists_and_right, hlast, h.pointer]
    · intro uri a hstands
      obtain ⟨hstands, hclose⟩ := (stands_concat_of_not_yields hno).mp hstands
      rw [hanalysis uri hclose]
      exact h.analysis uri a hstands

theorem tracks_foldl (k : Checker) (s : Server) (hs : s.lastValidated = none)
    (turns : List Turn) : Tracks k (trace (turn k) s turns) (turns.foldl (turn k) s) := by
  induction turns using List.reverseRecOn with
  | nil => exact tracks_nil hs
  | append_singleton turns x ih =>
    rw [trace_concat, List.foldl_append, List.foldl_cons, List.foldl_nil]
    exact ih.concat (points_turn k _ x)

/-- After any messages, the unit that is handed out is that of the last check with an analysis whose
document has not been closed since, and there is none without such a check; the document that the
server remembers is the one of this check, is open and has this analysis. -/
theorem ast?_serve (k : Checker) (settings : Settings) (files : Files) (messages : List Message) :
    let s := serve k { settings, files } messages
    let turns := trace (turn k) { settings, files } (messages.flatMap Message.turns)
    (∀ unit, s.ast? = some unit ↔ ∃ uri a, Stands k turns uri a ∧ a.unit = unit) ∧
      ∀ uri, s.lastValidated = some uri ↔
        ∃ d a, Stands k turns uri a ∧ s.document? uri = some d ∧ d.analysis = some a := by
  intro s turns
  have h : Tracks k turns s := by
    have hfold := tracks_foldl k { settings, files } rfl (messages.flatMap Message.turns)
    rwa [← serve_eq_foldl] at hfold
  constructor
  · intro unit
    simp only [ast?, Option.map_eq_some_iff, Option.bind_eq_some_iff]
    constructor
    · rintro ⟨a, ⟨uri, hlast, ha⟩, hunit⟩
      obtain ⟨b, hstands⟩ := (h.pointer uri).mp hlast
      obtain rfl := Option.some.inj ((h.analysis uri b hstands).symm.trans ha)
      exact ⟨uri, b, hstands, hunit⟩
    · rintro ⟨uri, a, hstands, hunit⟩
      exact ⟨a, ⟨uri, (h.pointer uri).mpr ⟨a, hstands⟩, h.analysis uri a hstands⟩, hunit⟩
  · intro uri
    rw [h.pointer]
    constructor
    · rintro ⟨a, hstands⟩
      obtain ⟨d, hd, ha⟩ := Option.bind_eq_some_iff.mp (h.analysis uri a hstands)
      exact ⟨d, a, hstands, hd, ha⟩
    · rintro ⟨d, a, hstands, -, -⟩
      exact ⟨a, hstands⟩

end Runs

/-- Two documents are checked, and the second one is closed: no unit is handed out, though the first
one is open and has its analysis. -/
theorem ast?_after_close :
    let k : Checker := fun _ _ _ => .finished "{}".toList []
    let first : Uri := { scheme := Uri.fileScheme, path := "/a".toList }
    let second : Uri := { scheme := Uri.fileScheme, path := "/b".toList }
    let messages : List Message := [.notice (.opened first ['x'] 1),
      .notice (.opened second ['y'] 1), .request .ast, .notice (.closed second)]
    (serve k {} messages).analysis? first = some ⟨{}, {}⟩ ∧ (serve k {} messages).ast? = none ∧
      ∀ uri a, ¬Stands k (trace (turn k) {} (messages.flatMap Message.turns)) uri a := by
  intro k first second messages
  have hast : (serve k {} messages).ast? = none := rfl
  refine ⟨rfl, hast, fun uri a hstands => ?_⟩
  have hsome := ((ast?_serve k {} .usual messages).1 a.unit).mpr ⟨uri, a, hstands, rfl⟩
  cases hast.symm.trans hsome

end ProofDesk.Server
