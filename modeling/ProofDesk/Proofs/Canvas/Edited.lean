import ProofDesk.Proofs.Canvas.Sound

namespace ProofDesk

namespace Canvas

/-- The second canvas is the first one after an operation. The requests that a substitution may
answer are those of a given kind. -/
inductive Edited (c : Canvas) (Begun : SubstitutionRequest → Prop) : Canvas → Prop
  | same : Edited c Begun c
  | addConclusion (conclusion : Text) (free : Bool) :
      Edited c Begun (c.addConclusion conclusion free).2
  | addPremises (premises : List Text) (free : Bool) :
      Edited c Begun (c.addPremises premises free).2
  | removeRoot (id : Nat) : Edited c Begun (c.removeRoot id).canvas
  | setName (id : Nat) (name : Text) : Edited c Begun (c.setName id name).canvas
  | toggle (id : Nat) : Edited c Begun (c.toggle id).canvas
  | attachRule (q : RuleRequest) (premises : List Text) :
      Edited c Begun (c.attachRule q premises).canvas
  | promote (q : TopDownRequest) (conclusion : Text) :
      Edited c Begun (c.promote q conclusion).canvas
  | deleteRule (id : Nat) : Edited c Begun (c.deleteRule id).canvas
  | dropCopy (target source : Nat) : Edited c Begun (c.dropCopy target source).canvas
  | dropPremise (target : Nat) (premise : Text) :
      Edited c Begun (c.dropPremise target premise).canvas
  | substitute (q : SubstitutionRequest) (results : List (Option Text)) : Begun q →
      Edited c Begun (c.substitute q results).canvas
  | takeEvents : Edited c Begun c.takeEvents.2

variable {c c' : Canvas} {Begun : SubstitutionRequest → Prop}

/-- An operation keeps the keys and ids or gives the canvas another shape. -/
theorem Edited.keeps_or_reshapes (h : c.Edited Begun c') : c.Keeps c' ∨ c.Reshapes c' := by
  have ofRefused : ∀ {α : Type} {o : Outcome α}, (∃ cause, o = c.refuse cause) →
      c.Keeps o.canvas := by
    rintro α o ⟨cause, rfl⟩
    exact .refl c
  cases h with
  | same => exact Or.inl (.refl c)
  | addConclusion conclusion free => exact Or.inr (reshapes_addRoot c _ _ _)
  | addPremises premises free => exact Or.inr (reshapes_addRoot c _ _ _)
  | removeRoot id => exact (c.reshapes_removeRoot id).imp ofRefused And.right
  | setName id name => exact Or.inl (keeps_setName c id name)
  | toggle id => exact Or.inl (keeps_toggle c id)
  | attachRule q premises => exact (c.reshapes_attachRule q premises).imp ofRefused And.right
  | promote q conclusion => exact (c.reshapes_promote q conclusion).imp ofRefused And.right
  | deleteRule id =>
    rcases c.reshapes_deleteRule id with ⟨-, he⟩ | ⟨t, target, -, ⟨-, he⟩ | ⟨-, hr⟩⟩
    · exact Or.inl (ofRefused ⟨_, he⟩)
    · rw [he]
      exact Or.inl (.refl c)
    · exact Or.inr hr
  | dropCopy target source => exact Or.inl (keeps_dropCopy c target source)
  | dropPremise target premise => exact Or.inl (keeps_dropPremise c target premise)
  | substitute q results _ => exact Or.inl (keeps_substitute c q results)
  | takeEvents => exact Or.inl ⟨rfl, rfl, rfl, rfl⟩

theorem Sound.edited (hs : c.Sound) (h : c.Edited Begun c') : c'.Sound :=
  h.keeps_or_reshapes.elim hs.keeps hs.reshapes

end Canvas

namespace Workbench

theorem mem_of_waiting? {α : Type} {requests : List (Text × α)} {slot : Text} {q : α}
    (h : waiting? requests slot = some q) : ∃ e ∈ requests, e.2 = q := by
  obtain ⟨e, he, rfl⟩ := Option.map_eq_some_iff.mp h
  exact ⟨e, List.mem_of_find?_eq_some he, rfl⟩

def Substitutes (w : Workbench) (a : Action) (q : SubstitutionRequest) : Prop :=
  ∃ slot results, a = .command (.substitute slot results) ∧ waiting? w.substitutions slot = some q

theorem edited_act (w : Workbench) (a : Action) :
    w.canvas.Edited (w.Substitutes a) (w.act a).canvas := by
  cases a with
  | takeEvents => exact .takeEvents
  | command cmd =>
    cases cmd with
    | addConclusion conclusion free => exact .addConclusion conclusion free
    | addPremises premises free => exact .addPremises premises free
    | removeRoot id => exact .removeRoot id
    | setName id name => exact .setName id name
    | toggle id => exact .toggle id
    | deleteRule id => exact .deleteRule id
    | dropCopy target source => exact .dropCopy target source
    | dropPremise target premise => exact .dropPremise target premise
    | requestRule id rule slot => rw [act, perform]; split <;> exact .same
    | requestTopDown id rule arity slot => rw [act, perform]; split <;> exact .same
    | requestSubstitution id old new direction slot => rw [act, perform]; split <;> exact .same
    | attachRule slot premises =>
      rw [act, perform]
      split
      next q _ => exact .attachRule q premises
      next => exact .same
    | applyRule id rule premises =>
      rw [act, perform]
      split
      next q _ => exact .attachRule q premises
      next => exact .same
    | promote slot conclusion =>
      rw [act, perform]
      split
      next q _ => exact .promote q conclusion
      next => exact .same
    | substitute slot results =>
      rw [act, perform]
      split
      next q hq => exact .substitute q results ⟨slot, results, rfl, hq⟩
      next => exact .same

/-- What holds of all waiting substitutions holds of them after an action, if it holds of those that
the canvas can begin. -/
theorem forall_substitutions_act {w : Workbench} {P : SubstitutionRequest → Prop}
    (begun : ∀ id old new d q, w.canvas.requestSubstitution id old new d = .ok q → P q)
    (h : ∀ e ∈ w.substitutions, P e.2) (a : Action) : ∀ e ∈ (w.act a).substitutions, P e.2 := by
  cases a with
  | takeEvents => exact h
  | command cmd =>
    cases cmd with
    | requestSubstitution id old new direction slot =>
      rw [act, perform]
      split
      next q hq =>
        intro e he
        rcases List.mem_cons.mp he with rfl | he
        · exact begun _ _ _ _ q hq
        · exact h e (List.mem_filter.mp he).1
      next => exact h
    | requestRule id rule slot => rw [act, perform]; split <;> exact h
    | requestTopDown id rule arity slot => rw [act, perform]; split <;> exact h
    | attachRule slot premises => rw [act, perform]; split <;> exact h
    | applyRule id rule premises => rw [act, perform]; split <;> exact h
    | promote slot conclusion => rw [act, perform]; split <;> exact h
    | substitute slot results => rw [act, perform]; split <;> exact h
    | _ => exact h

end Workbench

end ProofDesk
