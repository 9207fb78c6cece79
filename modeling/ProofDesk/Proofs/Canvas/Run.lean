import ProofDesk.Proofs.Canvas.Shape

namespace ProofDesk

/-- What is done to a workbench. -/
inductive Action where
  | command (cmd : Command)
  | takeEvents

namespace Workbench

def act (w : Workbench) : Action → Workbench
  | .command cmd => (w.perform cmd).2
  | .takeEvents => { w with canvas := w.canvas.takeEvents.2 }

def run (w : Workbench) (actions : List Action) : Workbench :=
  actions.foldl act w

/-- The command adds or removes a root, attaches a rule, deletes one from a node that is not empty,
or promotes a node. -/
def Restructures (w : Workbench) (cmd : Command) : Prop :=
  match cmd with
  | .addConclusion _ _ | .addPremises _ _ => True
  | .removeRoot _ | .attachRule _ _ | .applyRule _ _ _ | .promote _ _ =>
    ∃ a, (w.perform cmd).1 = .ok a
  | .deleteRule id =>
    ∃ t target, w.canvas.resolve? id = some (t, target) ∧ t.value.progress ≠ .empty
  | _ => False

@[simp] theorem run_nil (w : Workbench) : w.run [] = w := rfl

@[simp] theorem run_cons (w : Workbench) (a : Action) (actions : List Action) :
    w.run (a :: actions) = (w.act a).run actions := rfl

theorem run_append (w : Workbench) (first second : List Action) :
    w.run (first ++ second) = (w.run first).run second :=
  List.foldl_append

theorem run_preserves {P : Workbench → Prop} (step : ∀ w a, P w → P (w.act a)) {w : Workbench}
    (h : P w) (actions : List Action) : P (w.run actions) := by
  induction actions generalizing w with
  | nil => exact h
  | cons a actions ih => exact ih (step w a h)

theorem keeps_takeEvents (w : Workbench) : w.canvas.Keeps (w.act .takeEvents).canvas :=
  ⟨rfl, rfl, rfl, rfl⟩

/-- An edit that is refused or else reshapes restructures exactly when it succeeds. -/
theorem settle_cases {α : Type} (w : Workbench) (answer : α → Answer) {o : Outcome α}
    (h : (∃ cause, o = w.canvas.refuse cause) ∨
      ∃ a, o.answer = .ok a ∧ w.canvas.Reshapes o.canvas) :
    ((∃ a, (w.settle answer o).1 = .ok a) ∧ w.canvas.Reshapes (w.settle answer o).2.canvas) ∨
      (¬∃ a, (w.settle answer o).1 = .ok a) ∧ w.canvas.Keeps (w.settle answer o).2.canvas := by
  rcases h with ⟨cause, rfl⟩ | ⟨a, ha, hr⟩
  · exact Or.inr ⟨by simp [settle, Canvas.refuse], .refl _⟩
  · exact Or.inl ⟨⟨answer a, by rw [settle, ha]⟩, hr⟩

theorem answer_of_settle {α : Type} {w : Workbench} {answer : α → Answer} {o : Outcome α}
    (h : ∃ a, (w.settle answer o).1 = .ok a) : ∃ a, o.answer = .ok a := by
  obtain ⟨b, hb⟩ := h
  rw [settle] at hb
  split at hb
  next a ha => exact ⟨a, ha⟩
  next => cases hb

theorem perform_cases (w : Workbench) (cmd : Command) :
    (w.Restructures cmd ∧ w.canvas.Reshapes (w.perform cmd).2.canvas) ∨
      (¬w.Restructures cmd ∧ w.canvas.Keeps (w.perform cmd).2.canvas) := by
  cases cmd with
  | addConclusion conclusion free =>
    exact Or.inl ⟨trivial, Canvas.reshapes_addRoot _ _ _ _⟩
  | addPremises premises free =>
    exact Or.inl ⟨trivial, Canvas.reshapes_addRoot _ _ _ _⟩
  | removeRoot id =>
    exact w.settle_cases _ ((w.canvas.reshapes_removeRoot id).imp_right fun h => ⟨(), h⟩)
  | requestRule id rule slot =>
    refine Or.inr ⟨False.elim, ?_⟩
    rw [perform]
    split <;> exact .refl _
  | attachRule slot premises =>
    simp only [Restructures, perform]
    cases waiting? w.rules slot with
    | none => exact Or.inr ⟨by simp, .refl _⟩
    | some q => exact w.settle_cases _ ((w.canvas.reshapes_attachRule q _).imp_right fun h => ⟨(), h⟩)
  | applyRule id rule premises =>
    simp only [Restructures, perform]
    cases w.canvas.requestRule id rule with
    | error cause => exact Or.inr ⟨by simp, .refl _⟩
    | ok q => exact w.settle_cases _ ((w.canvas.reshapes_attachRule q _).imp_right fun h => ⟨(), h⟩)
  | requestTopDown id rule arity slot =>
    refine Or.inr ⟨False.elim, ?_⟩
    rw [perform]
    split <;> exact .refl _
  | promote slot conclusion =>
    simp only [Restructures, perform]
    cases waiting? w.topDowns slot with
    | none => exact Or.inr ⟨by simp, .refl _⟩
    | some q => exact w.settle_cases _ ((w.canvas.reshapes_promote q _).imp_right fun h => ⟨(), h⟩)
  | deleteRule id =>
    rcases w.canvas.reshapes_deleteRule id with ⟨hn, he⟩ | ⟨t, target, ht, ⟨hp, he⟩ | ⟨hp, hr⟩⟩
    · refine Or.inr ⟨by simp [Restructures, hn], ?_⟩
      simp [perform, settle, he, Canvas.refuse, Canvas.Keeps.refl]
    · refine Or.inr ⟨by simp [Restructures, ht, hp], ?_⟩
      simp [perform, settle, he, Canvas.Keeps.refl]
    · exact Or.inl ⟨⟨t, target, ht, hp⟩, hr⟩
  | dropCopy target source => exact Or.inr ⟨False.elim, Canvas.keeps_dropCopy _ _ _⟩
  | dropPremise target premise => exact Or.inr ⟨False.elim, Canvas.keeps_dropPremise _ _ _⟩
  | setName id name => exact Or.inr ⟨False.elim, Canvas.keeps_setName _ _ _⟩
  | toggle id => exact Or.inr ⟨False.elim, Canvas.keeps_toggle _ _⟩
  | requestSubstitution id old new direction slot =>
    refine Or.inr ⟨False.elim, ?_⟩
    rw [perform]
    split <;> exact .refl _
  | substitute slot results =>
    refine Or.inr ⟨False.elim, ?_⟩
    rw [perform]
    split
    next => exact Canvas.keeps_substitute _ _ _
    next => exact .refl _

theorem ok_of_restructures {w : Workbench} {cmd : Command} (h : w.Restructures cmd) :
    ∃ answer, (w.perform cmd).1 = .ok answer := by
  cases cmd with
  | addConclusion | addPremises => exact ⟨_, rfl⟩
  | removeRoot | attachRule | applyRule | promote => exact h
  | deleteRule id =>
    obtain ⟨t, target, ht, hp⟩ := h
    rcases w.canvas.deleteRule_cases id with ⟨hn, -⟩ | ⟨s, place, -, ⟨-, he⟩ | ⟨-, c', -, he⟩⟩
    · rw [ht] at hn
      cases hn
    all_goals exact ⟨.done, by rw [perform, settle, he]⟩
  | _ => exact h.elim

end Workbench

end ProofDesk
