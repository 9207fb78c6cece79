import ProofDesk.Proofs.Canvas.Sound

namespace ProofDesk

namespace Canvas

/-- The operation is done, or it is refused for one of the given causes and leaves the canvas. -/
inductive Atomic {α : Type} (c : Canvas) (Cause : Refusal → Prop) : Outcome α → Prop
  | refused (cause : Refusal) : Cause cause → Atomic c Cause (c.refuse cause)
  | done (a : α) (c' : Canvas) : Atomic c Cause ⟨.ok a, c'⟩

theorem Atomic.unchanged {α : Type} {c : Canvas} {Cause : Refusal → Prop} {o : Outcome α}
    (h : c.Atomic Cause o) {cause : Refusal} (he : o.answer = .error cause) :
    Cause cause ∧ o.canvas = c := by
  cases h with
  | refused other hc =>
    obtain rfl := Except.error.inj he
    exact ⟨hc, rfl⟩
  | done a c' => cases he

variable (c : Canvas)

theorem atomic_removeRoot (id : Nat) : c.Atomic (· ≠ .stale) (c.removeRoot id) := by
  rcases c.removeRoot_cases id with ⟨cause, hc, h⟩ | ⟨t, target, -, -, h⟩
  · exact h ▸ .refused cause hc
  · exact h ▸ .done _ _

theorem atomic_setName (id : Nat) (name : Text) : c.Atomic (· ≠ .stale) (c.setName id name) := by
  rcases c.setName_cases id name with ⟨cause, hc, h⟩ | ⟨t, target, -, h⟩
  · exact h ▸ .refused cause hc
  · exact h ▸ .done _ _

theorem atomic_toggle (id : Nat) : c.Atomic (· ≠ .stale) (c.toggle id) := by
  rcases c.toggle_cases id with ⟨cause, hc, h⟩ | ⟨t, target, -, h⟩
  · exact h ▸ .refused cause hc
  · exact h ▸ .done _ _

theorem atomic_attachRule (q : RuleRequest) (premises : List Text) :
    c.Atomic (· = .stale) (c.attachRule q premises) := by
  rcases c.attachRule_cases q premises with h | ⟨n, c', children, -, -, -, -, -, h⟩
  · exact h ▸ .refused _ rfl
  · exact h ▸ .done _ _

theorem atomic_promote (q : TopDownRequest) (conclusion : Text) :
    c.Atomic (· = .stale) (c.promote q conclusion) := by
  rcases c.promote_cases q conclusion with h | ⟨n, c', -, -, -, h⟩
  · exact h ▸ .refused _ rfl
  · exact h ▸ .done _ _

theorem atomic_deleteRule (id : Nat) : c.Atomic (· ≠ .stale) (c.deleteRule id) := by
  rcases c.deleteRule_cases id with ⟨-, h⟩ | ⟨t, target, -, ⟨-, h⟩ | ⟨-, c', -, h⟩⟩
  · exact h ▸ .refused _ (by simp)
  · exact h ▸ .done _ _
  · exact h ▸ .done _ _

theorem atomic_dropPremise (id : Nat) (premise : Text) :
    c.Atomic (· ≠ .stale) (c.dropPremise id premise) := by
  rcases c.dropPremise_cases id premise with ⟨cause, hc, h⟩ | ⟨t, target, -, -, -, h⟩
  · exact h ▸ .refused cause hc
  · exact h ▸ .done _ _

/-- A source that is finished is delivered, one that is not leaves a notice. -/
theorem atomic_dropCopy (target source : Nat) :
    c.Atomic (· ≠ .stale) (c.dropCopy target source) := by
  rcases c.dropCopy_cases target source with ⟨cause, hc, h⟩ |
    ⟨t, s, place, -, -, -, ⟨-, -, h⟩ | ⟨-, -, ⟨proof, -, h⟩ | ⟨-, h⟩⟩⟩
  · exact h ▸ .refused cause hc
  · exact h ▸ .done _ _
  · exact h ▸ .done _ _
  · exact h ▸ .done _ _

theorem atomic_substitute (q : SubstitutionRequest) (results : List (Option Text)) :
    c.Atomic (· = .stale) (c.substitute q results) := by
  rw [substitute]
  split
  next => exact .refused _ rfl
  next => exact .done _ _

variable {c} {id : Nat}

namespace Sound

variable (hs : c.Sound)

include hs

/-- The answer to a request is not stale on the canvas that the request was begun on. -/
theorem attachRule_at_once {rule : Text} {q : RuleRequest} (h : c.requestRule id rule = .ok q)
    (premises : List Text) : (c.attachRule q premises).answer = .ok () := by
  obtain ⟨t, ht, htop, rfl⟩ := exists_of_requestRule h
  have hn : c.node? t.value.key = some t.value := hs.node?_key (mem_of_resolve? ht)
  simp [attachRule, hn, htop]

theorem promote_at_once {rule : Text} {arity : Option Nat} {q : TopDownRequest}
    (h : c.requestTopDown id rule arity = .ok q) (conclusion : Text) :
    (c.promote q conclusion).answer = .ok () := by
  obtain ⟨t, premises, ht, hbody, rfl⟩ := exists_of_requestTopDown h
  have hn : c.node? t.value.key = some t.value := hs.node?_key (mem_of_resolve? ht)
  simp [promote, hn, hbody]

theorem substitute_at_once {old new : Text} {d : Direction} {q : SubstitutionRequest}
    (h : c.requestSubstitution id old new d = .ok q) {results : List (Option Text)}
    (hl : results.length = q.targets.length) : (c.substitute q results).answer = .ok () := by
  obtain ⟨t, target, ht, hq⟩ := exists_of_requestSubstitution h
  have hfresh : c.isFresh q = true := by
    rw [isFresh, List.all_eq_true]
    intro captured hc
    rw [hq] at hc
    obtain ⟨n, hn, rfl⟩ := List.mem_map.mp hc
    simp [hs.node?_key (hs.mem_of_mem_reached ht (List.mem_filter.mp hn).1)]
  simp [substitute, hl, hfresh]

end Sound

end Canvas

def Command.Answers : Command → Prop
  | attachRule _ _ | applyRule _ _ _ | promote _ _ | substitute _ _ => True
  | _ => False

namespace Workbench

variable {w : Workbench} {cause : CommandError}

theorem settle_error {α : Type} {answer : α → Answer} {o : Outcome α} {Cause : Refusal → Prop}
    (ho : w.canvas.Atomic Cause o) (h : (w.settle answer o).1 = .error cause) :
    (w.settle answer o).2 = w ∧ ∃ inner, cause = .refused inner ∧ Cause inner := by
  rw [settle] at h
  split at h
  next => cases h
  next inner hi =>
    obtain ⟨hc, hw⟩ := ho.unchanged hi
    refine ⟨?_, inner, (Except.error.inj h).symm, hc⟩
    rw [settle, hw]

/-- A command that fails changes nothing, and only an answer can fail because it is stale. -/
theorem perform_error {cmd : Command} (h : (w.perform cmd).1 = .error cause) :
    (w.perform cmd).2 = w ∧ (cause = .refused .stale → cmd.Answers) := by
  have plain : ∀ {α : Type} {answer : α → Answer} {o : Outcome α},
      w.canvas.Atomic (· ≠ .stale) o → (w.settle answer o).1 = .error cause →
        (w.settle answer o).2 = w ∧ (cause = .refused .stale → cmd.Answers) := by
    intro α answer o ho he
    obtain ⟨hw, inner, rfl, hc⟩ := settle_error ho he
    exact ⟨hw, fun hs => absurd (CommandError.refused.inj hs) hc⟩
  have begun : ∀ {inner : Refusal}, inner ≠ .stale →
      w.perform cmd = (.error (.refused inner), w) →
        (w.perform cmd).2 = w ∧ (cause = .refused .stale → cmd.Answers) := by
    intro inner hc he
    rw [he] at h ⊢
    obtain rfl := Except.error.inj h
    exact ⟨rfl, fun hs => absurd (CommandError.refused.inj hs) hc⟩
  cases cmd with
  | addConclusion conclusion free => cases h
  | addPremises premises free => cases h
  | removeRoot id => exact plain (w.canvas.atomic_removeRoot id) h
  | setName id name => exact plain (w.canvas.atomic_setName id name) h
  | toggle id => exact plain (w.canvas.atomic_toggle id) h
  | deleteRule id => exact plain (w.canvas.atomic_deleteRule id) h
  | dropCopy target source => exact plain (w.canvas.atomic_dropCopy target source) h
  | dropPremise target premise => exact plain (w.canvas.atomic_dropPremise target premise) h
  | requestRule id rule slot =>
    rcases w.canvas.requestRule_cases id rule with ⟨inner, hc, he⟩ | ⟨t, -, -, he⟩
    · exact begun hc (by rw [perform, he])
    · simp [perform, he] at h
  | requestTopDown id rule arity slot =>
    rcases w.canvas.requestTopDown_cases id rule arity with
      ⟨inner, hc, he⟩ | ⟨t, premises, -, -, -, he⟩
    · exact begun hc (by rw [perform, he])
    · simp [perform, he] at h
  | requestSubstitution id old new direction slot =>
    rcases w.canvas.requestSubstitution_cases id old new direction with
      ⟨inner, hc, he⟩ | ⟨t, target, -, -, he⟩
    · exact begun hc (by rw [perform, he])
    · simp [perform, he] at h
  | attachRule slot premises =>
    refine ⟨?_, fun _ => trivial⟩
    rw [perform] at h ⊢
    split at h
    next q _ => exact (settle_error (w.canvas.atomic_attachRule q premises) h).1
    next => rfl
  | applyRule id rule premises =>
    refine ⟨?_, fun _ => trivial⟩
    rw [perform] at h ⊢
    split at h
    next q _ => exact (settle_error (w.canvas.atomic_attachRule q premises) h).1
    next => rfl
  | promote slot conclusion =>
    refine ⟨?_, fun _ => trivial⟩
    rw [perform] at h ⊢
    split at h
    next q _ => exact (settle_error (w.canvas.atomic_promote q conclusion) h).1
    next => rfl
  | substitute slot results =>
    refine ⟨?_, fun _ => trivial⟩
    rw [perform] at h ⊢
    split at h
    next q _ => exact (settle_error (w.canvas.atomic_substitute q results) h).1
    next => rfl

/-- A command that fails might as well not have been tried, whatever it was and whatever requests
wait. -/
theorem unchanged_of_error (w : Workbench) (cmd : Command) (cause : CommandError)
    (h : (w.perform cmd).1 = .error cause) :
    (w.perform cmd).2 = w ∧ (cause = .refused .stale → cmd.Answers) ∧
      ∀ start before after, run start before = w →
        run start (before ++ .command cmd :: after) = run start (before ++ after) := by
  obtain ⟨hw, hstale⟩ := perform_error h
  refine ⟨hw, hstale, fun start before after hb => ?_⟩
  have hact : w.act (.command cmd) = w := hw
  rw [run_append, run_append, hb, run_cons, hact]

theorem unchanged_of_late_answer :
    let w := run {} [.command (.addConclusion ['a'] false),
      .command (.requestRule 1 ['r'] ['s']), .command (.removeRoot 0)]
    (w.perform (.attachRule ['s'] [['b']])).1 = .error (.refused .stale) ∧
      (w.perform (.attachRule ['s'] [['b']])).2 = w ∧
      run w [.command (.attachRule ['s'] [['b']]), .takeEvents] = run w [.takeEvents] := by
  intro w
  have h : (w.perform (.attachRule ['s'] [['b']])).1 = .error (.refused .stale) := rfl
  obtain ⟨hw, -, hrun⟩ := unchanged_of_error w _ _ h
  exact ⟨h, hw, hrun w [] [.takeEvents] rfl⟩

end Workbench

end ProofDesk
