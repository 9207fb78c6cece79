import ProofDesk.Proofs.Canvas.Refused
import ProofDesk.Proofs.Canvas.Regrafting

namespace ProofDesk

namespace Canvas

variable {c c' : Canvas} {key : Nat}

def Has (c : Canvas) (key : Nat) : Prop :=
  key ∈ c.shape.preorder

theorem Regrown.has_or_unused {f : Forest Nat} {next : Nat} (h : Regrown c f next)
    (hk : key ∈ f.preorder) : c.Has key ∨ c.nextKey ≤ key := by
  cases h with
  | root =>
    simp only [Forest.preorder_append, Forest.preorder, List.append_nil, List.mem_append,
      List.mem_singleton] at hk
    exact hk.imp_right fun he => Nat.le_of_eq he.symm
  | cut k => exact Or.inl ((Forest.preorder_eraseTops_sublist _ _).subset hk)
  | branch k n hm =>
    rcases Forest.mem_preorder_update hk with hk | ⟨t, ht, -, -, hnew⟩
    · exact Or.inl hk
    · rw [Forest.preorder_ofValues] at hnew
      rcases List.mem_cons.mp hnew with rfl | hnew
      · exact Or.inl ht
      · exact Or.inr (List.mem_range'_1.mp hnew).1

theorem Regrown.nextKey_le {f : Forest Nat} {next : Nat} (h : Regrown c f next) :
    c.nextKey ≤ next := by
  cases h <;> omega

def Gone (c : Canvas) (key : Nat) : Prop :=
  key < c.nextKey ∧ ¬c.Has key

theorem Gone.keeps (h : c.Gone key) (hk : Keeps c c') : c'.Gone key := by
  rw [Gone, Has, hk.nextKey, hk.shape]
  exact h

theorem Gone.reshapes (h : c.Gone key) (hr : Reshapes c c') : c'.Gone key := by
  obtain ⟨hlt, hno⟩ := h
  refine ⟨Nat.lt_of_lt_of_le hlt hr.shape.nextKey_le, fun hk => ?_⟩
  rcases hr.shape.has_or_unused hk with hk | hk
  · exact hno hk
  · omega

end Canvas

namespace Workbench

open Canvas

variable {w : Workbench} {key : Nat} {between : List Action}

theorem gone_act (w : Workbench) (a : Action) (h : w.canvas.Gone key) :
    (w.act a).canvas.Gone key :=
  (w.edited_act a).keeps_or_reshapes.elim h.keeps h.reshapes

theorem gone_run (h : w.canvas.Gone key) (actions : List Action) :
    (w.run actions).canvas.Gone key :=
  run_preserves (P := fun w => w.canvas.Gone key) gone_act h actions

def Stays (w : Workbench) (between : List Action) (key : Nat) : Prop :=
  ∀ earlier, earlier <+: between → (w.run earlier).canvas.Has key

theorem given_run (h : key < w.canvas.nextKey) (actions : List Action) :
    key < (w.run actions).canvas.nextKey := by
  refine run_preserves (P := fun w => key < w.canvas.nextKey) (fun w a hlt => ?_) h actions
  rcases (w.edited_act a).keeps_or_reshapes with hk | hr
  · rwa [hk.nextKey]
  · exact Nat.lt_of_lt_of_le hlt hr.shape.nextKey_le

theorem stays_iff (h : key < w.canvas.nextKey) :
    w.Stays between key ↔ (w.run between).canvas.Has key := by
  constructor
  · exact fun hs => hs between (List.prefix_refl _)
  · rintro hend earlier ⟨later, rfl⟩
    by_contra hno
    have hgone := gone_run ⟨given_run h earlier, hno⟩ later
    rw [← run_append] at hgone
    exact hgone.2 hend

/-- The action attaches a rule to the node with the key. -/
inductive Attaches (w : Workbench) (key : Nat) : Action → Prop
  | attachRule {slot : Text} {q : RuleRequest} {premises : List Text} :
      waiting? w.rules slot = some q → (w.canvas.attachRule q premises).answer = .ok () →
      q.key = key → Attaches w key (.command (.attachRule slot premises))
  | applyRule {id : Nat} {rule : Text} {q : RuleRequest} {premises : List Text} :
      w.canvas.requestRule id rule = .ok q → (w.canvas.attachRule q premises).answer = .ok () →
      q.key = key → Attaches w key (.command (.applyRule id rule premises))

theorem Attaches.exists_request {a : Action} (h : w.Attaches key a) :
    ∃ q premises, q.key = key ∧ (w.canvas.attachRule q premises).answer = .ok () ∧
      (w.act a).canvas = (w.canvas.attachRule q premises).canvas := by
  cases h with
  | @attachRule slot q premises hq hok hk =>
    exact ⟨q, premises, hk, hok, by simp only [act, perform, hq, settle]⟩
  | @applyRule id rule q premises hq hok hk =>
    exact ⟨q, premises, hk, hok, by simp only [act, perform, hq, settle]⟩

end Workbench

section Requests

/-- A request is returned for a drop on an id. The key is that of the node it is for, the answer
fits nodes of the same kind with the captured text, and to finish it changes a tree as given. -/
inductive Canvas.Begins (c : Canvas) (id : Nat) :
    Nat → (Node → Prop) → (Canvas → Outcome Unit) → (Tree Payload → Tree Payload) → Prop
  | rule (rule : Text) (q : RuleRequest) (premises : List Text) : c.requestRule id rule = .ok q →
      Begins c id q.key (fun n => n.isTopDown = false ∧ n.conclusion = q.conclusion)
        (·.attachRule q premises) (Payload.ruled rule premises)
  | topDown (rule : Text) (arity : Option Nat) (q : TopDownRequest) (conclusion : Text) :
      c.requestTopDown id rule arity = .ok q →
      Begins c id q.key (fun n => n.body = .gathering q.premises) (·.promote q conclusion)
        (Payload.promoted rule conclusion)

/-- Whatever happens between a request and its answer, the answer lands on the node that the request
was begun for or nowhere. -/
structure Workbench.Lands (w : Workbench) (between : List Action) (id key : Nat)
    (Fits : Node → Prop) (finish : Canvas → Outcome Unit)
    (change : Tree Payload → Tree Payload) : Prop where
  begun : ∃ t, w.canvas.resolve? id = some (t, .rule) ∧ t.value.key = key ∧ Fits t.value
  succeeds_iff : (finish (w.run between).canvas).answer = .ok () ↔
    w.Stays between key ∧ ∃ n, (w.run between).canvas.node? key = some n ∧ Fits n
  alone : (finish (w.run between).canvas).answer = .ok () →
    ∃ path, (w.run between).canvas.IsAt path key ∧
      (finish (w.run between).canvas).canvas.forest.map Node.payload =
        ((w.run between).canvas.forest.map Node.payload).changeAt change path ∧
      (w.run between).canvas.Spares (finish (w.run between).canvas).canvas path
  stale : (finish (w.run between).canvas).answer ≠ .ok () →
    finish (w.run between).canvas = (w.run between).canvas.refuse .stale
  gone : ¬w.Stays between key →
    ∀ later, finish (w.run (between ++ later)).canvas =
      (w.run (between ++ later)).canvas.refuse .stale

namespace Canvas

variable {c : Canvas} {id key : Nat} {Fits : Node → Prop} {finish : Canvas → Outcome Unit}
  {change : Tree Payload → Tree Payload}

theorem attachRule_answer_iff (c : Canvas) (q : RuleRequest) (premises : List Text) :
    (c.attachRule q premises).answer = .ok () ↔
      ∃ n, c.node? q.key = some n ∧ n.isTopDown = false ∧ n.conclusion = q.conclusion := by
  constructor
  · intro h
    rcases c.attachRule_cases q premises with hr | ⟨n, c', children, hn, htop, hcon, -, -, -⟩
    · rw [hr] at h
      cases h
    · exact ⟨n, hn, htop, hcon⟩
  · rintro ⟨n, hn, htop, hcon⟩
    simp [attachRule, hn, htop, hcon]

theorem promote_answer_iff (c : Canvas) (q : TopDownRequest) (conclusion : Text) :
    (c.promote q conclusion).answer = .ok () ↔
      ∃ n, c.node? q.key = some n ∧ n.body = .gathering q.premises := by
  constructor
  · intro h
    rcases c.promote_cases q conclusion with hr | ⟨n, c', hn, hbody, -, -⟩
    · rw [hr] at h
      cases h
    · exact ⟨n, hn, hbody⟩
  · rintro ⟨n, hn, hbody⟩
    simp [promote, hn, hbody]

theorem Begins.exists_node (h : c.Begins id key Fits finish change) :
    ∃ t, c.resolve? id = some (t, .rule) ∧ t.value.key = key ∧ Fits t.value := by
  cases h with
  | rule rule q premises hq =>
    obtain ⟨t, ht, htop, rfl⟩ := exists_of_requestRule hq
    exact ⟨t, ht, rfl, htop, rfl⟩
  | topDown rule arity q conclusion hq =>
    obtain ⟨t, captured, ht, hbody, rfl⟩ := exists_of_requestTopDown hq
    exact ⟨t, ht, rfl, hbody⟩

/-- A request is finished where a node with its key fits, and is refused as stale elsewhere. -/
theorem Begins.finish_iff (h : c.Begins id key Fits finish change) (c' : Canvas) :
    ((finish c').answer = .ok () ↔ ∃ n, c'.node? key = some n ∧ Fits n) ∧
      ((finish c').answer ≠ .ok () → finish c' = c'.refuse .stale) := by
  cases h with
  | rule rule q premises hq =>
    refine ⟨attachRule_answer_iff c' q premises, fun hno => ?_⟩
    rcases c'.attachRule_cases q premises with hr | ⟨n, d, children, -, -, -, -, -, hr⟩
    · exact hr
    · exact absurd (congrArg Outcome.answer hr) hno
  | topDown rule arity q conclusion hq =>
    refine ⟨promote_answer_iff c' q conclusion, fun hno => ?_⟩
    rcases c'.promote_cases q conclusion with hr | ⟨n, d, -, -, -, hr⟩
    · exact hr
    · exact absurd (congrArg Outcome.answer hr) hno

theorem Begins.alone (h : c.Begins id key Fits finish change) {c' : Canvas} (hs : c'.Sound)
    (hok : (finish c').answer = .ok ()) :
    ∃ path, c'.IsAt path key ∧
      (finish c').canvas.forest.map Node.payload =
        (c'.forest.map Node.payload).changeAt change path ∧
      c'.Spares (finish c').canvas path := by
  cases h with
  | rule rule q premises hq =>
    obtain ⟨t, -, -, rfl⟩ := exists_of_requestRule hq
    exact hs.regrafted_attachRule hok
  | topDown rule arity q conclusion hq =>
    obtain ⟨t, captured, -, -, rfl⟩ := exists_of_requestTopDown hq
    exact hs.regrafted_promote hok

end Canvas

namespace Workbench

/-- For every run, every request returned at its end and all that is done before the answer. -/
theorem lands_run (actions between : List Action) {id key : Nat} {Fits : Node → Prop}
    {finish : Canvas → Outcome Unit} {change : Tree Payload → Tree Payload}
    (h : (run {} actions).canvas.Begins id key Fits finish change) :
    (run {} actions).Lands between id key Fits finish change := by
  have hs : ((run {} actions).run between).canvas.Sound := by
    rw [← run_append]
    exact sound_run _
  obtain ⟨t, ht, hkey, hfits⟩ := h.exists_node
  have hgiven : key < (run {} actions).canvas.nextKey :=
    hkey ▸ (sound_run actions).fresh _ (Canvas.key_mem_shape (Canvas.mem_of_resolve? ht))
  have hsucceeds := fun c' : Canvas => (h.finish_iff c').1
  refine ⟨⟨t, ht, hkey, hfits⟩, ?_, h.alone hs, (h.finish_iff _).2, fun hgone later => ?_⟩
  · rw [hsucceeds, stays_iff hgiven]
    constructor
    · rintro ⟨n, hn, hf⟩
      exact ⟨Canvas.key_mem_of_node? hn, n, hn, hf⟩
    · exact And.right
  · refine (h.finish_iff _).2 fun hok => ?_
    obtain ⟨n, hn, -⟩ := (hsucceeds _).mp hok
    rw [stays_iff hgiven] at hgone
    have hlater := gone_run ⟨given_run hgiven between, hgone⟩ later
    rw [← run_append] at hlater
    exact hlater.2 (Canvas.key_mem_of_node? hn)

/-- A root is removed while a rule for it waits; one with the same conclusion takes its place. -/
theorem lands_nowhere_after_removal :
    let w := run {} [.command (.addConclusion ['a'] true)]
    let between := [Action.command (.removeRoot 0), .command (.addConclusion ['a'] true)]
    let q : RuleRequest := ⟨0, ['a'], ['r']⟩
    w.canvas.Begins 1 0 (fun n => n.isTopDown = false ∧ n.conclusion = ['a'])
        (·.attachRule q [['b']]) (Payload.ruled ['r'] [['b']]) ∧
      (w.run between).canvas.forest.preorder.map Node.conclusion = [['a']] ∧
      ((w.run between).canvas.attachRule q [['b']]).answer = .error .stale := by
  intro w between q
  have h : w.canvas.Begins 1 0 (fun n => n.isTopDown = false ∧ n.conclusion = ['a'])
      (·.attachRule q [['b']]) (Payload.ruled ['r'] [['b']]) := .rule ['r'] q [['b']] rfl
  have hl := lands_run [.command (.addConclusion ['a'] true)] between h
  have hgone : ¬w.Stays between 0 := fun hs => by
    have hhas := hs between (List.prefix_refl _)
    revert hhas
    unfold Canvas.Has
    decide
  have hstale := hl.gone hgone []
  refine ⟨h, rfl, ?_⟩
  rw [List.append_nil] at hstale
  exact congrArg Outcome.answer hstale

end Workbench

end Requests

end ProofDesk
