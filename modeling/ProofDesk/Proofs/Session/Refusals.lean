import ProofDesk.Proofs.Canvas.Refused
import ProofDesk.Proofs.Session.Run

namespace ProofDesk

theorem error_of_bind_eq_error {ε α β : Type} {x : Except ε α} {r : α → Except ε β} {e : ε}
    (h : x >>= r = .error e) : x = .error e ∨ ∃ a, x = .ok a ∧ r a = .error e := by
  cases x with
  | error e' => exact Or.inl (congrArg Except.error (Except.error.inj h))
  | ok a => exact Or.inr ⟨a, rfl, h⟩

theorem Run.ne_stale_of_answer {l : Launch} {r : Run} {cause : Refusal}
    (h : r.answer l = .error cause) : cause ≠ .stale := by
  rintro rfl
  cases r with
  | notStarted why => cases h
  | finished output errors =>
    rw [Run.answer] at h
    split at h <;> cases h

namespace Answering

variable {cause : Refusal}

theorem ne_stale_of_object {output : Text} (h : object output = .error cause) : cause ≠ .stale := by
  rintro rfl
  rw [object] at h
  split at h <;> cases h

theorem ne_stale_of_premises {conclusion rule output : Text}
    (h : premises conclusion rule output = .error cause) : cause ≠ .stale := by
  rcases error_of_bind_eq_error h with h | ⟨answer, -, h⟩
  · exact ne_stale_of_object h
  · rintro rfl
    split at h <;> cases h

theorem ne_stale_of_conclusion {rule output : Text} (h : conclusion rule output = .error cause) :
    cause ≠ .stale := by
  rcases error_of_bind_eq_error h with h | ⟨answer, -, h⟩
  · exact ne_stale_of_object h
  · rintro rfl
    split at h <;> cases h

theorem ne_stale_of_substitution {output : Text} (h : substitution output = .error cause) :
    cause ≠ .stale := by
  rcases error_of_bind_eq_error h with h | ⟨answer, -, h⟩
  · exact ne_stale_of_object h
  · cases h

end Answering

namespace Bridge

/-- The bridge refuses a question, after the questions asked before. -/
def Declines (b : Bridge) (cause : Refusal) (asked : List Query) : Query → Prop
  | .parse conclusion rule => b.premises asked conclusion rule = .error cause
  | .topDown premises rule => b.conclusion asked premises rule = .error cause
  | .substitute text old new => b.substitution asked text old new = .error cause

/-- The cause is that of the bridge, which refused the last one of the questions. -/
def Relays (b : Bridge) (cause : Refusal) (before asked : List Query) : Prop :=
  ∃ earlier q, asked = earlier ++ [q] ∧ before <+: earlier ∧ b.Declines cause earlier q

/-- A checker that is run, whatever it writes, refuses nothing as stale. -/
theorem ne_stale_of_declines {l : Launch} {runs : List Query → Query → Run} {cause : Refusal}
    {asked : List Query} {q : Query}
    (h : (ofOutput fun asked q => (runs asked q).answer l).Declines cause asked q) :
    cause ≠ .stale := by
  cases q with
  | parse conclusion rule =>
    rcases error_of_bind_eq_error h with h | ⟨output, -, h⟩
    · exact Run.ne_stale_of_answer h
    · exact Answering.ne_stale_of_premises h
  | topDown premises rule =>
    rcases error_of_bind_eq_error h with h | ⟨output, -, h⟩
    · exact Run.ne_stale_of_answer h
    · exact Answering.ne_stale_of_conclusion h
  | substitute text old new =>
    rcases error_of_bind_eq_error h with h | ⟨output, -, h⟩
    · exact Run.ne_stale_of_answer h
    · exact Answering.ne_stale_of_substitution h

end Bridge

namespace Canvas

theorem ne_stale_of_exportRoots {c : Canvas} {theorems : List TheoremRequest} {cause : Refusal}
    (h : c.exportRoots theorems = .error cause) : cause ≠ .stale := by
  induction theorems with
  | nil => cases h
  | cons q rest ih =>
    rw [exportRoots] at h
    rcases error_of_bind_eq_error h with h | ⟨first, -, h⟩
    · rintro rfl
      rw [exportRoot] at h
      split at h
      next => cases h
      next =>
        split at h
        next => cases h
        next => split at h <;> cases h
    · rcases error_of_bind_eq_error h with h | ⟨others, -, h⟩
      · exact ih h
      · cases h

end Canvas

namespace Session

/-- The operation was done and left the canvas that one edit leaves, or it was refused, queued the
wording of the refusal and left the canvas. A stale refusal is one of the bridge. -/
inductive Settled {α : Type} (b : Bridge) (s : Session) : Except Refusal α × Session → Prop
  | done (a : α) (canvas : Canvas) (asked : List Query) :
      s.canvas.Edited (fun _ => True) canvas →
        Settled b s (.ok a, { s with bench := { s.bench with canvas }, asked })
  | refused (cause : Refusal) (asked : List Query) :
      (cause = .stale → b.Relays cause s.asked asked) →
        Settled b s (.error cause, { s with modals := s.modals ++ [cause.modalText], asked })

variable {b : Bridge} {s : Session}

theorem Settled.map {α β : Type} {r : Except Refusal α × Session} (h : s.Settled b r) (f : α → β) :
    s.Settled b (r.map (·.map f) id) := by
  cases h with
  | done a canvas asked he => exact .done (f a) canvas asked he
  | refused cause asked hr => exact .refused cause asked hr

theorem settled_of_ne_stale {α : Type} {cause : Refusal} (h : cause ≠ .stale) :
    s.Settled b (s.conclude (.error cause : Except Refusal α)) :=
  .refused cause s.asked fun hs => absurd hs h

theorem settled_of_atomic {α : Type} {o : Outcome α} (ho : s.canvas.Atomic (· ≠ .stale) o)
    (he : s.canvas.Edited (fun _ => True) o.canvas) : s.Settled b (s.settle o) := by
  cases ho with
  | refused cause hc => exact settled_of_ne_stale hc
  | done a c' => exact .done a c' s.asked he

theorem settled_of_ok {α : Type} {o : Outcome α} {a : α} (asked : List Query)
    (ha : o.answer = .ok a) (he : s.canvas.Edited (fun _ => True) o.canvas) :
    s.Settled b (({ s with asked } : Session).settle o) := by
  rw [settle, ha]
  exact .done a o.canvas asked he

theorem settled_of_declines {α : Type} {cause : Refusal} {earlier : List Query} {q : Query}
    (hp : s.asked <+: earlier) (h : b.Declines cause earlier q) :
    s.Settled b (({ s with asked := earlier ++ [q] } : Session).conclude
      (.error cause : Except Refusal α)) :=
  .refused cause (earlier ++ [q]) fun _ => ⟨earlier, q, rfl, hp, h⟩

theorem settled_dropRule (hs : s.canvas.Sound) (target : Nat) (rule : Text) :
    s.Settled b (s.dropRule b target rule) := by
  rw [dropRule]
  split
  next => exact settled_of_ne_stale (by simp)
  next t place _ =>
    split
    next =>
      rcases s.canvas.requestTopDown_cases target rule (s.unit.arity? rule) with
        ⟨cause, hc, he⟩ | ⟨u, premises, -, -, -, he⟩
      · rw [he]
        exact settled_of_ne_stale hc
      · simp only [he]
        split
        next cause hd => exact settled_of_declines (List.prefix_refl _) hd
        next conclusion _ =>
          exact settled_of_ok _ (hs.promote_at_once he conclusion) (.promote _ _)
    next =>
      rcases s.canvas.requestRule_cases target rule with ⟨cause, hc, he⟩ | ⟨u, -, -, he⟩
      · rw [he]
        exact settled_of_ne_stale hc
      · simp only [he]
        split
        next cause hd => exact settled_of_declines (List.prefix_refl _) hd
        next premises _ =>
          exact settled_of_ok _ (hs.attachRule_at_once he premises) (.attachRule _ _)

/-- Either every text has a result or the bridge refused the last question; in both cases only the
questions asked have changed. -/
theorem substituteAll_cases (b : Bridge) (s : Session) (old new : Text) (texts : List Text) :
    (∃ results asked, s.substituteAll b old new texts = (.ok results, { s with asked }) ∧
        results.length = texts.length) ∨
      ∃ cause earlier q,
        s.substituteAll b old new texts = (.error cause, { s with asked := earlier ++ [q] }) ∧
          s.asked <+: earlier ∧ b.Declines cause earlier q := by
  induction texts generalizing s with
  | nil => exact Or.inl ⟨[], s.asked, rfl, rfl⟩
  | cons text rest ih =>
    rw [substituteAll]
    cases hb : b.substitution s.asked text old new with
    | error cause =>
      exact Or.inr ⟨cause, s.asked, .substitute text old new, rfl, List.prefix_refl _, hb⟩
    | ok result =>
      rcases ih (s.ask (.substitute text old new)) with
        ⟨results, asked, he, hl⟩ | ⟨cause, earlier, q, he, hp, hd⟩
      · simp only [he]
        exact Or.inl ⟨result :: results, asked, rfl, by rw [List.length_cons, hl, List.length_cons]⟩
      · simp only [he]
        exact Or.inr ⟨cause, earlier, q, rfl, (List.prefix_append _ _).trans hp, hd⟩

theorem settled_replaceVariable (hs : s.canvas.Sound) (target : Nat) (old new : Text)
    (d : Direction) : s.Settled b (s.replaceVariable b target old new d) := by
  rw [replaceVariable]
  split
  next cause he =>
    rcases s.canvas.requestSubstitution_cases target old new d with
      ⟨other, hc, ho⟩ | ⟨t, place, -, -, ho⟩
    · rw [he] at ho
      obtain rfl := Except.error.inj ho
      exact settled_of_ne_stale hc
    · rw [he] at ho
      cases ho
  next q hq =>
    rcases substituteAll_cases b s q.old q.new q.conclusions with
      ⟨results, asked, he, hl⟩ | ⟨cause, earlier, last, he, hp, hd⟩
    · rw [he]
      rw [SubstitutionRequest.conclusions, List.length_map] at hl
      exact settled_of_ok asked (hs.substitute_at_once hq hl) (.substitute q results trivial)
    · rw [he]
      exact settled_of_declines hp hd

theorem settled_exportTheorems (theorems : List TheoremRequest) :
    s.Settled b (s.exportTheorems theorems) := by
  rw [exportTheorems]
  cases he : s.canvas.exportRoots theorems with
  | error cause => exact settled_of_ne_stale (Canvas.ne_stale_of_exportRoots he)
  | ok content => exact .done content s.canvas s.asked .same

theorem settled_save (files : Files) (path : Text) (theorems : List TheoremRequest) :
    s.Settled b ((s.save files path theorems).map id Prod.fst) := by
  rw [save]
  cases he : s.canvas.exportRoots theorems with
  | error cause => exact settled_of_ne_stale (Canvas.ne_stale_of_exportRoots he)
  | ok content =>
    simp only
    split
    next failure _ _ => exact settled_of_ne_stale (by simp)
    next => exact .done content s.canvas s.asked .same

theorem settled_perform (hs : s.canvas.Sound) (op : Operation) : s.Settled b (s.perform b op) := by
  cases op with
  | dropRule target rule => exact (settled_dropRule hs target rule).map _
  | dropCopy target source =>
    exact (settled_of_atomic (s.canvas.atomic_dropCopy target source) (.dropCopy _ _)).map _
  | dropPremise target premise =>
    exact (settled_of_atomic (s.canvas.atomic_dropPremise target premise) (.dropPremise _ _)).map _
  | deleteRule target =>
    exact (settled_of_atomic (s.canvas.atomic_deleteRule target) (.deleteRule _)).map _
  | replaceVariable target old new d => exact (settled_replaceVariable hs target old new d).map _
  | exportTheorems theorems => exact (settled_exportTheorems theorems).map _
  | save files path theorems => exact (settled_save files path theorems).map _

theorem sound_act (b : Bridge) (s : Session) (m : Move) (hs : s.canvas.Sound) :
    (s.act b m).canvas.Sound := by
  cases m with
  | operate op =>
    have h := settled_perform (b := b) hs op
    rw [act]
    generalize s.perform b op = r at h
    cases h with
    | done a canvas asked he => exact hs.edited he
    | refused cause asked _ => exact hs
  | edit a => exact s.bench.sound_act a hs
  | reload unit => exact hs
  | takeModals => exact hs

theorem sound_run (b : Bridge) (file : Text) (unit : CompilationUnit) (moves : List Move) :
    (run b { file, unit } moves).canvas.Sound := by
  have hempty : ({ file, unit } : Session).canvas.Sound := Canvas.sound_empty
  exact run_preserves (P := fun s => s.canvas.Sound) (sound_act b) hempty moves

/-- Whatever was done before, an operation is done and queues nothing, or it is refused, queues its
wording and leaves the canvas. It is stale only if the bridge says so of the last question; a
checker never does. -/
theorem done_or_refused (b : Bridge) (file : Text) (unit : CompilationUnit) (moves : List Move)
    (op : Operation) :
    let s := run b { file, unit } moves
    (∃ answer s', s.perform b op = (.ok answer, s') ∧ s'.modals = s.modals) ∨
      ∃ cause asked,
        s.perform b op =
          (.error cause, { s with modals := s.modals ++ [cause.modalText], asked }) ∧
        (cause = .stale → b.Relays .stale s.asked asked) ∧
        ∀ (l : Launch) (runs : List Query → Query → Run),
          b = .ofOutput (fun asked q => (runs asked q).answer l) → cause ≠ .stale := by
  intro s
  have h : s.Settled b (s.perform b op) := settled_perform (sound_run b file unit moves) op
  generalize s.perform b op = r at h
  cases h with
  | done answer canvas asked _ => exact Or.inl ⟨answer, _, rfl, rfl⟩
  | refused cause asked hr =>
    refine Or.inr ⟨cause, asked, rfl, fun hs => hs ▸ hr hs, fun l runs hb hs => ?_⟩
    obtain ⟨earlier, q, -, -, hd⟩ := hr hs
    rw [hb] at hd
    exact Bridge.ne_stale_of_declines hd hs

/-- A bridge that calls a question stale makes the operation stale that asked it. -/
theorem stale_of_stale_bridge :
    let b : Bridge :=
      ⟨fun _ _ _ => .error .stale, fun _ _ _ => .error .stale, fun _ _ _ _ => .error .stale⟩
    let s := run b { file := [], unit := {} } [.edit (.command (.addConclusion ['a'] true))]
    (s.perform b (.dropRule 1 ['r'])).1 = .error .stale := rfl

end Session

end ProofDesk
