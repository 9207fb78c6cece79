import ProofDesk.Proofs.Arena.Rewriting

namespace ProofDesk

namespace Arena

namespace Bench

def act (b : Bench) (w : Walk) : Action → Option Bench
  | .command cmd => (b.perform w cmd).map Prod.snd
  | .takeEvents => some { b with arena := b.arena.takeEvents.2 }

/-- The bench after some actions, each with an order of its own for the node map. None if one of
them does not end. -/
def run (b : Bench) (steps : List (Walk × Action)) : Option Bench :=
  steps.foldlM (fun b step => b.act step.1 step.2) b

/-- The bench has the proofs and the requests of the workbench. -/
structure Stores (b : Bench) (w : Workbench) : Prop where
  arena : b.arena.Stores w.canvas
  rules : b.rules = w.rules
  topDowns : b.topDowns = w.topDowns
  substitutions : b.substitutions = w.substitutions

/-- A command ends, answers as it does on the workbench and leaves the bench of the workbench that
it leaves there. -/
def Performs (r : Option (Except CommandError Answer × Bench))
    (o : Except CommandError Answer × Workbench) : Prop :=
  ∃ b : Bench, r = some (o.1, b) ∧ b.Stores o.2

variable {b : Bench} {w : Workbench}

theorem stores_empty : ({} : Bench).Stores {} :=
  ⟨Arena.stores_empty, rfl, rfl, rfl⟩

namespace Stores

variable (h : b.Stores w)

include h

theorem unchanged (answer : Except CommandError Answer) : Performs (some (answer, b)) (answer, w) :=
  ⟨b, rfl, h⟩

theorem settle {α : Type} (answer : α → Answer) {r : Option (Reply α)} {o : Outcome α}
    (hr : Follows r o) : Performs (r.map (b.settle answer)) (w.settle answer o) := by
  obtain ⟨a, rfl, ha⟩ := hr
  exact ⟨{ b with arena := a }, rfl, ha, h.rules, h.topDowns, h.substitutions⟩

theorem added {r : Option (Nat × Arena)} {o : Nat × Canvas}
    (hr : ∃ a, r = some (o.1, a) ∧ a.Stores o.2) :
    Performs (r.map b.added) (.ok (.id o.1), { w with canvas := o.2 }) := by
  obtain ⟨a, rfl, ha⟩ := hr
  exact ⟨{ b with arena := a }, rfl, ha, h.rules, h.topDowns, h.substitutions⟩

theorem perform (hs : w.canvas.Sound) (hrests : w.canvas.Rests) (walk : Walk) (cmd : Command) :
    Performs (b.perform walk cmd) (w.perform cmd) := by
  cases cmd with
  | addConclusion conclusion free => exact h.added (h.arena.addConclusion hs conclusion free)
  | addPremises premises free => exact h.added (h.arena.addPremises hs premises free)
  | removeRoot id => exact h.settle _ (h.arena.removeRoot hs id)
  | requestRule id rule slot =>
    simp only [Bench.perform, Workbench.perform, h.arena.requestRule hs]
    cases w.canvas.requestRule id rule with
    | error cause => exact h.unchanged _
    | ok q =>
      exact ⟨{ b with rules := Workbench.keep b.rules slot q }, rfl, h.arena,
        congrArg (Workbench.keep · slot q) h.rules, h.topDowns, h.substitutions⟩
  | attachRule slot premises =>
    simp only [Bench.perform, Workbench.perform, h.rules]
    cases Workbench.waiting? w.rules slot with
    | none => exact h.unchanged _
    | some q => exact h.settle _ (h.arena.attachRule hs walk q premises)
  | applyRule id rule premises =>
    simp only [Bench.perform, Workbench.perform, h.arena.requestRule hs]
    cases w.canvas.requestRule id rule with
    | error cause => exact h.unchanged _
    | ok q => exact h.settle _ (h.arena.attachRule hs walk q premises)
  | requestTopDown id rule arity slot =>
    simp only [Bench.perform, Workbench.perform, h.arena.requestTopDown hs]
    cases w.canvas.requestTopDown id rule arity with
    | error cause => exact h.unchanged _
    | ok q =>
      exact ⟨{ b with topDowns := Workbench.keep b.topDowns slot q }, rfl, h.arena, h.rules,
        congrArg (Workbench.keep · slot q) h.topDowns, h.substitutions⟩
  | promote slot conclusion =>
    simp only [Bench.perform, Workbench.perform, h.topDowns]
    cases Workbench.waiting? w.topDowns slot with
    | none => exact h.unchanged _
    | some q => exact h.settle _ (h.arena.promote hs hrests walk q conclusion)
  | deleteRule id => exact h.settle _ (h.arena.deleteRule hs walk id)
  | dropCopy target source => exact h.settle _ (h.arena.dropCopy hs walk target source)
  | dropPremise target premise => exact h.settle _ (h.arena.dropPremise hs target premise)
  | setName id name => exact h.settle _ (h.arena.setName hs id name)
  | toggle id => exact h.settle _ (h.arena.toggle hs id)
  | requestSubstitution id old new direction slot =>
    simp only [Bench.perform, Workbench.perform, h.arena.requestSubstitution hs]
    cases w.canvas.requestSubstitution id old new direction with
    | error cause => exact h.unchanged _
    | ok q =>
      exact ⟨{ b with substitutions := Workbench.keep b.substitutions slot q }, rfl, h.arena,
        h.rules, h.topDowns, congrArg (Workbench.keep · slot q) h.substitutions⟩
  | substitute slot results =>
    simp only [Bench.perform, Workbench.perform, h.substitutions]
    cases Workbench.waiting? w.substitutions slot with
    | none => exact h.unchanged _
    | some q => exact h.settle _ (h.arena.substitute hs q results)

theorem act (hs : w.canvas.Sound) (hrests : w.canvas.Rests) (walk : Walk) (action : Action) :
    ∃ b', b.act walk action = some b' ∧ b'.Stores (w.act action) := by
  cases action with
  | command cmd =>
    obtain ⟨b', hb, hstores⟩ := h.perform hs hrests walk cmd
    exact ⟨b', by rw [Bench.act, hb]; rfl, hstores⟩
  | takeEvents =>
    exact ⟨_, rfl, h.arena.takeEvents, h.rules, h.topDowns, h.substitutions⟩

end Stores

theorem exists_run (steps : List (Walk × Action)) :
    ∃ b, run {} steps = some b ∧ b.Stores (Workbench.run {} (steps.map Prod.snd)) := by
  induction steps using List.reverseRecOn with
  | nil => exact ⟨{}, rfl, stores_empty⟩
  | append_singleton steps step ih =>
    obtain ⟨b, hrun, hstores⟩ := ih
    obtain ⟨b', hact, hstores'⟩ := hstores.act (Workbench.sound_run _) (Workbench.rests_run _)
      step.1 step.2
    refine ⟨b', ?_, ?_⟩
    · rw [run] at hrun ⊢
      rw [List.foldlM_append, hrun]
      simp [hact]
    · rw [List.map_append, Workbench.run_append]
      exact hstores'

end Bench

end Arena

end ProofDesk
