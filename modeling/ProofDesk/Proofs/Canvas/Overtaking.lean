import ProofDesk.Proofs.Canvas.Holding
import ProofDesk.Proofs.Canvas.Lifetime
import ProofDesk.Proofs.Trace

namespace ProofDesk.Workbench

/-- The action justifies the node with a key anew, or takes its justification away, and leaves it
with the given holding. -/
inductive Settles (w : Workbench) (key : Nat) : Action → Holding → Prop
  | attachRule {slot : Text} {q : RuleRequest} (premises : List Text) :
      waiting? w.rules slot = some q → (w.canvas.attachRule q premises).answer = .ok () →
      q.key = key → Settles w key (.command (.attachRule slot premises))
        ⟨some q.rule, none, List.range' w.canvas.nextKey premises.length⟩
  | applyRule {id : Nat} {rule : Text} {q : RuleRequest} (premises : List Text) :
      w.canvas.requestRule id rule = .ok q → (w.canvas.attachRule q premises).answer = .ok () →
      q.key = key → Settles w key (.command (.applyRule id rule premises))
        ⟨some q.rule, none, List.range' w.canvas.nextKey premises.length⟩
  | promote {slot : Text} {q : TopDownRequest} (conclusion : Text) :
      waiting? w.topDowns slot = some q → (w.canvas.promote q conclusion).answer = .ok () →
      q.key = key → Settles w key (.command (.promote slot conclusion))
        ⟨some q.rule, none, List.range' w.canvas.nextKey q.premises.length⟩
  | deleteRule {id : Nat} {t : Tree Node} {target : Target} :
      w.canvas.resolve? id = some (t, target) → t.value.progress ≠ .empty →
      t.value.key = key → Settles w key (.command (.deleteRule id)) ⟨none, none, []⟩
  | dropCopy {target source : Nat} {t s : Tree Node} {place : Target} {proof : Derivation} :
      w.canvas.resolve? target = some (t, .copy) → w.canvas.resolve? source = some (s, place) →
      t.value.body = .hole → s.derivation? = some proof →
      (w.canvas.dropCopy target source).answer = .ok () →
      t.value.key = key → Settles w key (.command (.dropCopy target source))
        ⟨none, some proof, t.below.tops.map Node.key⟩

/-- An entry of a run in which the node with a key is settled. -/
def Settling (key : Nat) (e : Workbench × Action) : Prop :=
  ∃ h, Settles e.1 key e.2 h

variable {w : Workbench} {key : Nat} {a : Action} {h h' : Holding}

theorem Settles.mem_holdings (hs : w.canvas.Sound) (hset : Settles w key a h) :
    (key, h) ∈ (w.act a).canvas.forest.holdings := by
  cases hset with
  | attachRule premises hq hok hk =>
    subst hk
    simp only [act, perform, hq]
    exact hs.mem_holdings_attachRule hok
  | applyRule premises hq hok hk =>
    subst hk
    simp only [act, perform, hq]
    exact hs.mem_holdings_attachRule hok
  | promote conclusion hq hok hk =>
    subst hk
    simp only [act, perform, hq]
    exact hs.mem_holdings_promote hok
  | deleteRule ht hp hk =>
    subst hk
    exact hs.mem_holdings_deleteRule ht hp
  | @dropCopy target source t s place proof ht hsource hhole hproof hok hk =>
    subst hk
    simp only [act, perform, settle]
    rcases w.canvas.dropCopy_cases target source with ⟨cause, -, he⟩ |
      ⟨t', s', place', ht', hs', -, ⟨htop, -, he⟩ | ⟨-, -, ⟨proof', hp', he⟩ | ⟨hnone, he⟩⟩⟩
    · rw [he] at hok
      cases hok
    · rw [ht] at ht'
      cases ht'
      simp [Node.isTopDown, hhole] at htop
    · rw [hsource] at hs'
      rw [ht] at ht'
      cases hs'
      cases ht'
      obtain rfl := Option.some.inj (hproof.symm.trans hp')
      rw [he]
      exact hs.mem_holdings_deliver ht proof
    · rw [hsource] at hs'
      cases hs'
      rw [hproof] at hnone
      cases hnone

theorem Settles.holding? (hs : w.canvas.Sound) (hset : Settles w key a h) :
    (w.act a).canvas.holding? key = some h :=
  (sound_act w a hs).mem_holdings_iff.mp (hset.mem_holdings hs)

theorem Settles.unique (hs : w.canvas.Sound) (hset : Settles w key a h)
    (hset' : Settles w key a h') : h' = h :=
  Option.some.inj ((hset'.holding? hs).symm.trans (hset.holding? hs))

theorem inherits_act (hlt : key < w.canvas.nextKey) (hno : ∀ h, ¬Settles w key a h) :
    w.canvas.Inherits (w.act a).canvas key := by
  cases a with
  | takeEvents => exact .refl _ key
  | command cmd =>
    cases cmd with
    | addConclusion conclusion free => exact Canvas.inherits_addRoot hlt _ _ _
    | addPremises premises free => exact Canvas.inherits_addRoot hlt _ _ _
    | removeRoot id => exact Canvas.inherits_removeRoot id
    | setName id name => exact Canvas.inherits_setName id name
    | toggle id => exact Canvas.inherits_toggle id
    | dropPremise target premise => exact Canvas.inherits_dropPremise target premise
    | requestRule id rule slot => rw [act, perform]; split <;> exact .refl _ key
    | requestTopDown id rule arity slot => rw [act, perform]; split <;> exact .refl _ key
    | requestSubstitution id old new direction slot =>
      rw [act, perform]; split <;> exact .refl _ key
    | deleteRule id =>
      exact Canvas.inherits_deleteRule hlt fun t target ht hp hk => hno _ (.deleteRule ht hp hk)
    | attachRule slot premises =>
      rw [act, perform]
      split
      next q hq =>
        exact Canvas.inherits_attachRule hlt fun hok hk => hno _ (.attachRule premises hq hok hk)
      next => exact .refl _ key
    | applyRule id rule premises =>
      rw [act, perform]
      split
      next q hq =>
        exact Canvas.inherits_attachRule hlt fun hok hk => hno _ (.applyRule premises hq hok hk)
      next => exact .refl _ key
    | promote slot conclusion =>
      rw [act, perform]
      split
      next q hq =>
        exact Canvas.inherits_promote hlt fun hok hk => hno _ (.promote conclusion hq hok hk)
      next => exact .refl _ key
    | substitute slot results =>
      rw [act, perform]
      split
      next q hq => exact Canvas.inherits_substitute q results
      next => exact .refl _ key
    | dropCopy target source =>
      simp only [act, perform, settle]
      rcases w.canvas.dropCopy_cases target source with ⟨cause, -, he⟩ |
        ⟨t, s, place, ht, hs, -, ⟨-, -, he⟩ | ⟨hhole, -, ⟨proof, hproof, he⟩ | ⟨-, he⟩⟩⟩
      · rw [he]
        exact .refl _ key
      · rw [he]
        exact Canvas.inherits_pushPremise _ _
      · have hne : t.value.key ≠ key := fun hk =>
          hno _ (.dropCopy ht hs hhole hproof (congrArg Outcome.answer he) hk)
        rw [he]
        exact ((Canvas.inherits_changeNode (g := fun n => { n with body := .delivered proof })
          (fun _ => rfl) fun hk => absurd hk hne).note _).noteLineage _
      · rw [he]
        exact (Canvas.Inherits.refl _ key).note _

/-- After a run the node holds what the last action that settled it left, or what it held before. -/
theorem holding_run (hs : w.canvas.Sound) (hlt : key < w.canvas.nextKey) (between : List Action)
    (hend : (w.run between).canvas.Has key) :
    (∃ e h, LastWith (Settling key) (trace act w between) e ∧ Settles e.1 key e.2 h ∧
        (w.run between).canvas.holding? key = some h) ∨
      (∀ e ∈ trace act w between, ¬Settling key e) ∧
        (w.run between).canvas.holding? key = w.canvas.holding? key := by
  induction between using List.reverseRecOn with
  | nil => exact Or.inr ⟨fun e he => (by cases he), rfl⟩
  | append_singleton between a ih =>
    have hsound : (w.run between).canvas.Sound := run_preserves sound_act hs between
    have hlt' : key < (w.run between).canvas.nextKey := given_run hlt between
    have hstays := (stays_iff hlt).mpr hend
    have hrun : w.run (between ++ [a]) = (w.run between).act a := run_append w between [a]
    have htrace : trace act w (between ++ [a]) =
        trace act w between ++ [(w.run between, a)] := trace_concat act w between a
    rw [hrun] at hend ⊢
    rw [htrace]
    by_cases hset : Settling key (w.run between, a)
    · obtain ⟨h, hh⟩ := hset
      exact Or.inl ⟨_, h, (lastWith_concat_of_pos ⟨h, hh⟩).mpr rfl, hh, hh.holding? hsound⟩
    · have hkeep : ((w.run between).act a).canvas.holding? key =
          (w.run between).canvas.holding? key :=
        hsound.holding?_of_inherits (sound_act _ a hsound)
          (inherits_act hlt' fun h hh => hset ⟨h, hh⟩) hend
      rw [hkeep]
      rcases ih (hstays between (List.prefix_append _ _)) with ⟨e, h, hl, hh, hheld⟩ | ⟨hno, hheld⟩
      · exact Or.inl ⟨e, h, (lastWith_concat_of_neg hset).mpr hl, hh, hheld⟩
      · refine Or.inr ⟨?_, hheld⟩
        rw [List.forall_mem_append, List.forall_mem_singleton]
        exact ⟨hno, hset⟩

theorem sound_of_mem_trace (hs : w.canvas.Sound) (actions : List Action) :
    ∀ e ∈ trace act w actions, e.1.canvas.Sound := by
  induction actions generalizing w with
  | nil => exact fun e he => by cases he
  | cons a actions ih =>
    exact List.forall_mem_cons.mpr ⟨hs, ih (sound_act w a hs)⟩

theorem holding_run_iff (hs : w.canvas.Sound) (hheld : w.canvas.holding? key = some h)
    (hlt : key < w.canvas.nextKey) (between : List Action)
    (hend : (w.run between).canvas.Has key) :
    (w.run between).canvas.holding? key = some h ↔
      ∀ e, LastWith (Settling key) (trace act w between) e → Settles e.1 key e.2 h := by
  rcases holding_run hs hlt between hend with ⟨e, h', hl, hset, hend'⟩ | ⟨hno, hend'⟩
  · rw [hend']
    constructor
    · intro hh e' he'
      obtain rfl := Option.some.inj hh
      obtain rfl := hl.unique he'
      exact hset
    · intro hall
      have hs' := sound_of_mem_trace hs between e hl.mem
      rw [(hall e hl).unique hs' hset]
  · rw [hend', hheld]
    exact ⟨fun _ e he => absurd he.holds (hno e he.mem), fun _ => rfl⟩

/-- An answer that is applied finds the node with the conclusion that it was asked about. Whether
the node also holds what it held then hangs on the last action that settled it; whatever it holds,
the rule of the request takes its place. -/
theorem holding_of_answer (actions between : List Action) {id : Nat} {rule : Text}
    {q : RuleRequest} {premises : List Text}
    (hq : (run {} actions).canvas.requestRule id rule = .ok q)
    (hok : (((run {} actions).run between).canvas.attachRule q premises).answer = .ok ()) :
    ∃ n m h, (run {} actions).canvas.node? q.key = some n ∧
      ((run {} actions).run between).canvas.node? q.key = some m ∧ m.conclusion = n.conclusion ∧
      (run {} actions).canvas.holding? q.key = some h ∧
      (((run {} actions).run between).canvas.holding? q.key = some h ↔
        ∀ e, LastWith (Settling q.key) (trace act (run {} actions) between) e →
          Settles e.1 q.key e.2 h) ∧
      (((run {} actions).run between).canvas.attachRule q premises).canvas.holding? q.key =
        some ⟨some rule, none, List.range' ((run {} actions).run between).canvas.nextKey
          premises.length⟩ := by
  have hs := sound_run actions
  have hs' : ((run {} actions).run between).canvas.Sound := run_preserves sound_act hs between
  obtain ⟨t, ht, -, rfl⟩ := Canvas.exists_of_requestRule hq
  have hmem := Canvas.mem_of_resolve? ht
  have hhas := Canvas.key_mem_shape hmem
  obtain ⟨m, hm, -, hconclusion⟩ := (Canvas.attachRule_answer_iff _ _ premises).mp hok
  obtain ⟨h, hheld⟩ := Canvas.exists_holding hhas
  have hheld' := hs.mem_holdings_iff.mp hheld
  refine ⟨t.value, m, h, hs.node?_key hmem, hm, hconclusion, hheld',
    holding_run_iff hs hheld' (hs.fresh _ hhas) between (Canvas.key_mem_of_node? hm), ?_⟩
  have hedited : ((run {} actions).run between).canvas.Edited (fun _ => False)
      (((run {} actions).run between).canvas.attachRule
        ⟨t.value.key, t.value.conclusion, rule⟩ premises).canvas := .attachRule _ premises
  exact (hs'.edited hedited).mem_holdings_iff.mp (hs'.mem_holdings_attachRule hok)

/-- Two rules are dropped on one node, and both are answered: the second answer finds another rule,
with a hole for its premise, and replaces both. -/
theorem holding_of_second_answer :
    let w := run {} [.command (.addConclusion ['a'] true), .command (.requestRule 1 ['r'] ['s'])]
    let between :=
      [Action.command (.requestRule 1 ['t'] ['u']), .command (.attachRule ['s'] [['b']])]
    let q : RuleRequest := ⟨0, ['a'], ['t']⟩
    w.canvas.requestRule 1 ['t'] = .ok q ∧
      ((w.run between).canvas.attachRule q [['c']]).answer = .ok () ∧
      ((w.run between).canvas.attachRule q [['c']]).canvas.holding? 0 =
        some ⟨some ['t'], none, [2]⟩ := by
  intro w between q
  have hq : w.canvas.requestRule 1 ['t'] = .ok q := rfl
  have hok : ((w.run between).canvas.attachRule q [['c']]).answer = .ok () := rfl
  obtain ⟨n, m, h, -, -, -, -, -, hheld⟩ := holding_of_answer
    [.command (.addConclusion ['a'] true), .command (.requestRule 1 ['r'] ['s'])] between hq hok
  exact ⟨hq, hok, hheld⟩

/-- The second answer succeeds, though the node has changed since its request was begun. -/
theorem changed_before_second_answer :
    let w := run {} [.command (.addConclusion ['a'] true), .command (.requestRule 1 ['r'] ['s'])]
    let w' := w.run [.command (.requestRule 1 ['t'] ['u']), .command (.attachRule ['s'] [['b']])]
    w.canvas.requestRule 1 ['t'] = .ok ⟨0, ['a'], ['t']⟩ ∧
      waiting? w'.rules ['u'] = some ⟨0, ['a'], ['t']⟩ ∧
      (w'.perform (.attachRule ['u'] [['c']])).1 = .ok .done ∧
      w'.canvas.holding? 0 ≠ w.canvas.holding? 0 := by
  refine ⟨by decide, by decide, by decide, by decide⟩

end ProofDesk.Workbench
