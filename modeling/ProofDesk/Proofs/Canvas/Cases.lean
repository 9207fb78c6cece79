import Mathlib.Logic.Basic
import Mathlib.Tactic.SplitIfs
import ProofDesk.Canvas.Command

namespace ProofDesk

namespace Canvas

/-- The canvas with the node of a key changed, new holes in the place of what was below it, and all
nodes numbered anew. -/
def refilled (c : Canvas) (key : Nat) (g : Node → Node) (free : Bool) (premises : List Text) :
    Canvas :=
  { c.change key fun t => ⟨g t.value, c.holes free premises⟩ with
    nextKey := c.nextKey + premises.length }.renumber

variable (c : Canvas)

theorem removeRoot_cases (id : Nat) :
    (∃ cause, cause ≠ .stale ∧ c.removeRoot id = c.refuse cause) ∨
      ∃ t target, c.resolve? id = some (t, target) ∧ t.value.key ∈ c.forest.tops.map Node.key ∧
        c.removeRoot id = ⟨.ok (), { c with
          forest := c.forest.eraseTops fun n => n.key == t.value.key }.renumber.note
            (.rootRemoved t.value.conclusion)⟩ := by
  rw [removeRoot]
  split
  next => exact Or.inl ⟨_, by simp, rfl⟩
  next t target ht =>
    by_cases hany : (c.forest.tops.any fun n => n.key == t.value.key) = true
    · rw [if_pos hany]
      obtain ⟨n, hn, hk⟩ := List.any_eq_true.mp hany
      exact Or.inr ⟨t, target, ht, List.mem_map.mpr ⟨n, hn, by simpa using hk⟩, rfl⟩
    · rw [if_neg hany]
      exact Or.inl ⟨_, by simp, rfl⟩

theorem setName_cases (id : Nat) (name : Text) :
    (∃ cause, cause ≠ .stale ∧ c.setName id name = c.refuse cause) ∨
      ∃ t target, c.resolve? id = some (t, target) ∧
        c.setName id name = ⟨.ok (), c.changeNode t.value.key fun n => { n with name }⟩ := by
  rw [setName]
  split
  next => exact Or.inl ⟨_, by simp, rfl⟩
  next t target ht => exact Or.inr ⟨t, target, ht, rfl⟩

theorem toggle_cases (id : Nat) :
    (∃ cause, cause ≠ .stale ∧ c.toggle id = c.refuse cause) ∨
      ∃ t target, c.resolve? id = some (t, target) ∧
        c.toggle id = ⟨.ok (!t.value.expanded),
          c.changeNode t.value.key fun n => { n with expanded := !t.value.expanded }⟩ := by
  rw [toggle]
  split
  next => exact Or.inl ⟨_, by simp, rfl⟩
  next t target ht => exact Or.inr ⟨t, target, ht, rfl⟩

theorem attachRule_cases (q : RuleRequest) (premises : List Text) :
    c.attachRule q premises = c.refuse .stale ∨
      ∃ n c' children, c.node? q.key = some n ∧ n.isTopDown = false ∧ n.conclusion = q.conclusion ∧
        c' = c.refilled q.key (fun m => { m with body := .ruled q.rule, expanded := true })
          n.free premises ∧
        children = ((c'.tree? q.key).map fun t => t.below.tops.map Node.id).getD [] ∧
        c.attachRule q premises =
          ⟨.ok (), (c'.note (.ruleAttached (c'.idOf q.key) q.rule children)).noteLineage q.key⟩ := by
  rw [attachRule]
  split
  next => exact Or.inl rfl
  next n hn =>
    by_cases hstale : n.isTopDown = true ∨ n.conclusion ≠ q.conclusion
    · rw [if_pos hstale]
      exact Or.inl rfl
    · rw [if_neg hstale]
      rw [not_or, not_not] at hstale
      exact Or.inr ⟨n, _, _, hn, by simpa using hstale.1, hstale.2, rfl, rfl, rfl⟩

theorem promote_cases (q : TopDownRequest) (conclusion : Text) :
    c.promote q conclusion = c.refuse .stale ∨
      ∃ n c', c.node? q.key = some n ∧ n.body = .gathering q.premises ∧
        c' = c.refilled q.key (fun m => { m with conclusion, body := .ruled q.rule })
          n.free q.premises ∧
        c.promote q conclusion =
          ⟨.ok (), (c'.note (.promoted (c'.idOf q.key) conclusion q.rule)).noteLineage q.key⟩ := by
  rw [promote]
  split
  next => exact Or.inl rfl
  next n hn =>
    by_cases hbody : n.body = .gathering q.premises
    · rw [if_neg (not_not.mpr hbody)]
      exact Or.inr ⟨n, _, hn, hbody, rfl, rfl⟩
    · rw [if_pos hbody]
      exact Or.inl rfl

theorem deleteRule_cases (id : Nat) :
    (c.resolve? id = none ∧ c.deleteRule id = c.refuse (.unknownTarget id)) ∨
      ∃ t target, c.resolve? id = some (t, target) ∧
        (t.value.progress = .empty ∧ c.deleteRule id = ⟨.ok (), c⟩ ∨
          t.value.progress ≠ .empty ∧ ∃ c',
            c' = c.refilled t.value.key (fun m => { m with body := .hole }) false [] ∧
            c.deleteRule id =
              ⟨.ok (), (c'.note (.ruleRemoved (c'.idOf t.value.key))).noteLineage
                t.value.key⟩) := by
  rw [deleteRule]
  split
  next h => exact Or.inl ⟨h, rfl⟩
  next t target ht =>
    refine Or.inr ⟨t, target, ht, ?_⟩
    split
    next hp => exact Or.inl ⟨hp, rfl⟩
    next hp => exact Or.inr ⟨hp, _, rfl, rfl⟩

variable {c} in
/-- A node that has something to remove is emptied. -/
theorem deleteRule_of_progress {id : Nat} {t : Tree Node} {target : Target}
    (ht : c.resolve? id = some (t, target)) (hp : t.value.progress ≠ .empty) :
    ∃ c', c' = c.refilled t.value.key (fun m => { m with body := .hole }) false [] ∧
      c.deleteRule id =
        ⟨.ok (), (c'.note (.ruleRemoved (c'.idOf t.value.key))).noteLineage t.value.key⟩ := by
  rcases c.deleteRule_cases id with ⟨hn, -⟩ | ⟨u, place, hu, ⟨hempty, -⟩ | ⟨-, hr⟩⟩
  · rw [hn] at ht
    cases ht
  · rw [ht] at hu
    cases hu
    exact absurd hempty hp
  · rw [ht] at hu
    cases hu
    exact hr

theorem dropPremise_cases (id : Nat) (premise : Text) :
    (∃ cause, cause ≠ .stale ∧ c.dropPremise id premise = c.refuse cause) ∨
      ∃ t target, c.resolve? id = some (t, target) ∧ t.value.isTopDown = true ∧
        Text.isBlankText premise = false ∧
        c.dropPremise id premise = ⟨.ok (), c.pushPremise t.value premise.trim⟩ := by
  rw [dropPremise]
  split
  next => exact Or.inl ⟨_, by simp, rfl⟩
  next t target ht =>
    cases htop : t.value.isTopDown with
    | false => exact Or.inl ⟨_, by simp, rfl⟩
    | true =>
      cases hblank : Text.isBlankText premise with
      | true => exact Or.inl ⟨_, by simp, rfl⟩
      | false => exact Or.inr ⟨t, target, ht, htop, rfl, rfl⟩

/-- A copy is refused, adds a premise, delivers a derivation or leaves a notice. -/
theorem dropCopy_cases (target source : Nat) :
    (∃ cause, cause ≠ .stale ∧ c.dropCopy target source = c.refuse cause) ∨
      ∃ t s place, c.resolve? target = some (t, .copy) ∧ c.resolve? source = some (s, place) ∧
        s.value.key ≠ t.value.key ∧
        ((t.value.isTopDown = true ∧ Text.isBlankText s.value.conclusion = false ∧
            c.dropCopy target source = ⟨.ok (), c.pushPremise t.value s.value.conclusion⟩) ∨
          (t.value.body = .hole ∧ s.value.conclusion.trim = t.value.conclusion.trim ∧
            ((∃ proof, s.derivation? = some proof ∧
                c.dropCopy target source = ⟨.ok (), c.deliver t.value proof⟩) ∨
              s.derivation? = none ∧ c.dropCopy target source =
                ⟨.ok (), c.note (.seeded t.value.id t.value.conclusion)⟩))) := by
  rw [dropCopy]
  split
  next => exact Or.inl ⟨_, by simp, rfl⟩
  next => exact Or.inl ⟨_, by simp, rfl⟩
  next t ht =>
    split
    next => exact Or.inl ⟨_, by simp, rfl⟩
    next s place hs =>
      split_ifs with hsame htop hblank hempty htrim
      · exact Or.inl ⟨_, by simp, rfl⟩
      · exact Or.inl ⟨_, by simp, rfl⟩
      · exact Or.inr ⟨t, s, place, ht, hs, hsame, Or.inl ⟨htop, by simpa using hblank, rfl⟩⟩
      · exact Or.inl ⟨_, by simp, rfl⟩
      · exact Or.inl ⟨_, by simp, rfl⟩
      · have hhole : t.value.body = .hole := by
          cases hb : t.value.body <;>
            simp [Node.isTopDown, Node.progress, hb] at htop hempty ⊢
        refine Or.inr ⟨t, s, place, ht, hs, hsame, Or.inr ⟨hhole, not_not.mp htrim, ?_⟩⟩
        split
        next proof hproof => exact Or.inl ⟨proof, hproof, rfl⟩
        next hnone => exact Or.inr ⟨hnone, rfl⟩

/-- A request that is begun holds what its node shows. -/
theorem requestRule_cases (id : Nat) (rule : Text) :
    (∃ cause, cause ≠ .stale ∧ c.requestRule id rule = .error cause) ∨
      ∃ t, c.resolve? id = some (t, .rule) ∧ t.value.isTopDown = false ∧
        c.requestRule id rule = .ok ⟨t.value.key, t.value.conclusion, rule⟩ := by
  rw [requestRule]
  split
  next => exact Or.inl ⟨_, by simp, rfl⟩
  next => exact Or.inl ⟨_, by simp, rfl⟩
  next t ht =>
    split
    next => exact Or.inl ⟨_, by simp, rfl⟩
    next htop => exact Or.inr ⟨t, ht, by simpa using htop, rfl⟩

theorem requestTopDown_cases (id : Nat) (rule : Text) (arity : Option Nat) :
    (∃ cause, cause ≠ .stale ∧ c.requestTopDown id rule arity = .error cause) ∨
      ∃ t premises, c.resolve? id = some (t, .rule) ∧ t.value.body = .gathering premises ∧
        arity = some premises.length ∧
        c.requestTopDown id rule arity = .ok ⟨t.value.key, premises, rule⟩ := by
  rw [requestTopDown]
  split
  next => exact Or.inl ⟨_, by simp, rfl⟩
  next => exact Or.inl ⟨_, by simp, rfl⟩
  next t ht =>
    split
    next premises hbody =>
      split
      next => exact Or.inl ⟨_, by simp, rfl⟩
      next expected =>
        split
        next harity => exact Or.inr ⟨t, premises, ht, hbody, congrArg some harity, rfl⟩
        next => exact Or.inl ⟨_, by simp, rfl⟩
    next => exact Or.inl ⟨_, by simp, rfl⟩

theorem requestSubstitution_cases (id : Nat) (old new : Text) (d : Direction) :
    (∃ cause, cause ≠ .stale ∧ c.requestSubstitution id old new d = .error cause) ∨
      ∃ t target, c.resolve? id = some (t, target) ∧ t.value.free = true ∧
        c.requestSubstitution id old new d =
          .ok ⟨((c.reached t d).filter fun n => n.conclusion ≠ []).map fun n =>
            (n.key, n.conclusion), old, new⟩ := by
  rw [requestSubstitution]
  split
  next => exact Or.inl ⟨_, by simp, rfl⟩
  next t target ht =>
    split
    next => exact Or.inl ⟨_, by simp, rfl⟩
    next hfree => exact Or.inr ⟨t, target, ht, by simpa using hfree, rfl⟩

variable {c} in
theorem exists_of_requestRule {id : Nat} {rule : Text} {q : RuleRequest}
    (h : c.requestRule id rule = .ok q) :
    ∃ t, c.resolve? id = some (t, .rule) ∧ t.value.isTopDown = false ∧
      q = ⟨t.value.key, t.value.conclusion, rule⟩ := by
  rcases c.requestRule_cases id rule with ⟨cause, -, he⟩ | ⟨t, ht, htop, he⟩
  · rw [h] at he
    cases he
  · rw [h] at he
    exact ⟨t, ht, htop, Except.ok.inj he⟩

variable {c} in
theorem exists_of_requestTopDown {id : Nat} {rule : Text} {arity : Option Nat}
    {q : TopDownRequest} (h : c.requestTopDown id rule arity = .ok q) :
    ∃ t premises, c.resolve? id = some (t, .rule) ∧ t.value.body = .gathering premises ∧
      q = ⟨t.value.key, premises, rule⟩ := by
  rcases c.requestTopDown_cases id rule arity with
    ⟨cause, -, he⟩ | ⟨t, premises, ht, hbody, -, he⟩
  · rw [h] at he
    cases he
  · rw [h] at he
    exact ⟨t, premises, ht, hbody, Except.ok.inj he⟩

variable {c} in
theorem exists_of_requestSubstitution {id : Nat} {old new : Text} {d : Direction}
    {q : SubstitutionRequest} (h : c.requestSubstitution id old new d = .ok q) :
    ∃ t target, c.resolve? id = some (t, target) ∧
      q = ⟨((c.reached t d).filter fun n => n.conclusion ≠ []).map fun n =>
        (n.key, n.conclusion), old, new⟩ := by
  rcases c.requestSubstitution_cases id old new d with ⟨cause, -, he⟩ | ⟨t, target, ht, -, he⟩
  · rw [h] at he
    cases he
  · rw [h] at he
    exact ⟨t, target, ht, Except.ok.inj he⟩

end Canvas

end ProofDesk
