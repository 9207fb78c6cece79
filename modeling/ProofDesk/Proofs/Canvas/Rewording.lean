import ProofDesk.Proofs.Canvas.Delivery
import ProofDesk.Proofs.Canvas.Edited

namespace ProofDesk

/-- What the results of a substitution, with the nodes they are for, make of a node. -/
def Node.reword (pairs : List ((Nat × Text) × Option Text)) (n : Node) : Node :=
  match pairs.find? fun p => p.1.1 == n.key with
  | some (_, some conclusion) => { n with conclusion }
  | _ => n

/-- The results give a node another conclusion than the one that what was delivered to it proves. -/
def Canvas.Departs (c : Canvas) (q : SubstitutionRequest) (results : List (Option Text)) : Prop :=
  results.length = q.targets.length ∧ c.isFresh q = true ∧
    ∃ n ∈ c.forest.preorder, ∃ proof old conclusion, n.body = .delivered proof ∧
      ((n.key, old), some conclusion) ∈ q.targets.zip results ∧
      proof.value.conclusion.trim ≠ conclusion.trim

namespace Workbench

def Departs (w : Workbench) : Action → Prop
  | .command (.substitute slot results) =>
    ∃ q, waiting? w.substitutions slot = some q ∧ w.canvas.Departs q results
  | _ => False

def TargetsDistinct (w : Workbench) : Prop :=
  ∀ e ∈ w.substitutions, (e.2.targets.map Prod.fst).Nodup

end Workbench

namespace Node

theorem reword_eq_self {pairs : List ((Nat × Text) × Option Text)} {n : Node}
    (h : n.key ∉ pairs.map fun p => p.1.1) : n.reword pairs = n := by
  have hf : pairs.find? (fun p => p.1.1 == n.key) = none := by
    refine List.find?_eq_none.mpr fun p hp hk => h ?_
    exact List.mem_map.mpr ⟨p, hp, by simpa using hk⟩
  rw [reword, hf]

theorem reword_of_mem {pairs : List ((Nat × Text) × Option Text)}
    (distinct : (pairs.map fun p => p.1.1).Nodup) {n : Node} {old conclusion : Text}
    (h : ((n.key, old), some conclusion) ∈ pairs) : n.reword pairs = { n with conclusion } := by
  cases hf : pairs.find? fun p => p.1.1 == n.key with
  | none => exact absurd (List.find?_eq_none.mp hf _ h) (by simp)
  | some p =>
    have hp : p = ((n.key, old), some conclusion) :=
      List.inj_on_of_nodup_map distinct (List.mem_of_find?_eq_some hf) h
        (by simpa using List.find?_some hf)
    rw [reword, hf, hp]

theorem reword_cases (pairs : List ((Nat × Text) × Option Text)) (n : Node) :
    n.reword pairs = n ∨ ∃ old conclusion, ((n.key, old), some conclusion) ∈ pairs ∧
      n.reword pairs = { n with conclusion } := by
  rw [reword]
  split
  next key conclusion hf =>
    have hk : key.1 = n.key := by simpa using List.find?_some hf
    exact Or.inr ⟨key.2, conclusion, hk ▸ List.mem_of_find?_eq_some hf, rfl⟩
  next => exact Or.inl rfl

end Node

theorem SubstitutionRequest.keys_zip (q : SubstitutionRequest) {results : List (Option Text)}
    (hl : results.length = q.targets.length) :
    (q.targets.zip results).map (fun p => p.1.1) = q.targets.map Prod.fst := by
  have hz : (q.targets.zip results).map Prod.fst = q.targets := List.map_fst_zip hl.ge
  conv_rhs => rw [← hz, List.map_map]
  rfl

namespace Canvas

variable {c : Canvas}

theorem forest_setConclusion (hs : c.Sound) (key : Nat) (conclusion : Text) :
    (c.setConclusion key conclusion).forest =
      c.forest.map fun n => if n.key = key then { n with conclusion } else n := by
  rw [setConclusion]
  split
  next hn =>
    refine (Forest.map_eq_self fun n hn' => if_neg fun hk => ?_).symm
    have hall := Forest.find?_eq_none_iff.mp (Option.map_eq_none_iff.mp hn) n hn'
    simp [hk] at hall
  next n hn =>
    split
    next he =>
      refine (Forest.map_eq_self fun m hm => ?_).symm
      split
      next hk =>
        obtain ⟨t, ht, rfl⟩ := Option.map_eq_some_iff.mp hn
        obtain ⟨hmem, hkey⟩ := mem_of_tree? ht
        have hmn := hs.eq_of_key_eq hm hmem (hk.trans hkey.symm)
        rw [hmn, ← he]
      next => rfl
    next =>
      exact Forest.update_value_eq_map (g := fun n => { n with conclusion }) hs.distinct_keys

theorem forest_foldl_setConclusion (hs : c.Sound) {pairs : List ((Nat × Text) × Option Text)}
    (distinct : (pairs.map fun p => p.1.1).Nodup) :
    (pairs.foldl (fun c ((key, _), result) =>
      match result with
      | some conclusion => c.setConclusion key conclusion
      | none => c) c).forest = c.forest.map (Node.reword pairs) := by
  induction pairs generalizing c with
  | nil => exact (Forest.map_eq_self fun n _ => rfl).symm
  | cons pair pairs ih =>
    obtain ⟨⟨key, old⟩, result⟩ := pair
    obtain ⟨hkey, hrest⟩ := List.nodup_cons.mp distinct
    cases result with
    | none =>
      rw [List.foldl_cons, ih hs hrest]
      refine Forest.map_congr_left fun n _ => ?_
      by_cases hk : key = n.key
      · rw [Node.reword_eq_self (hk ▸ hkey), Node.reword]
        simp [hk]
      · simp [Node.reword, hk]
    | some conclusion =>
      rw [List.foldl_cons, ih (hs.keeps (keeps_setConclusion c key conclusion)) hrest,
        forest_setConclusion hs, Forest.map_map]
      refine Forest.map_congr_left fun n _ => ?_
      by_cases hk : n.key = key
      · subst hk
        have hself : Node.reword pairs { n with conclusion } = { n with conclusion } :=
          Node.reword_eq_self hkey
        rw [Function.comp_apply, if_pos rfl, hself, Node.reword]
        simp
      · have hk' : key ≠ n.key := fun he => hk he.symm
        simp [Node.reword, hk, hk']

theorem forest_substitute (hs : c.Sound) {q : SubstitutionRequest} {results : List (Option Text)}
    (distinct : (q.targets.map Prod.fst).Nodup) (hl : results.length = q.targets.length)
    (hf : c.isFresh q = true) :
    (c.substitute q results).canvas.forest =
      c.forest.map (Node.reword (q.targets.zip results)) := by
  rw [substitute, if_neg (by simp [hl, hf])]
  exact forest_foldl_setConclusion hs (q.keys_zip hl ▸ distinct)

/-- A substitution keeps deliveries true to their nodes exactly when its results do. -/
theorem agrees_substitute_iff (hs : c.Sound) (h : c.Agrees) {q : SubstitutionRequest}
    {results : List (Option Text)} (distinct : (q.targets.map Prod.fst).Nodup) :
    (c.substitute q results).canvas.Agrees ↔ ¬c.Departs q results := by
  by_cases hl : results.length = q.targets.length
  case neg =>
    rw [substitute, if_pos (Or.inl hl)]
    exact ⟨fun _ hd => hl hd.1, fun _ => h⟩
  by_cases hf : c.isFresh q = true
  case neg =>
    rw [substitute, if_pos (Or.inr (by simpa using hf))]
    exact ⟨fun _ hd => hf hd.2.1, fun _ => h⟩
  have hmem : ∀ b, b ∈ (c.substitute q results).canvas.forest.preorder ↔
      ∃ n ∈ c.forest.preorder, n.reword (q.targets.zip results) = b := by
    intro b
    rw [forest_substitute hs distinct hl hf, Forest.preorder_map, List.mem_map]
  constructor
  · rintro hagree ⟨-, -, n, hn, proof, old, conclusion, hb, hpair, hne⟩
    have hnew := Node.reword_of_mem (q.keys_zip hl ▸ distinct) hpair
    exact hne (hagree _ ((hmem _).mpr ⟨n, hn, hnew⟩) proof hb)
  · intro hd b hb proof hp
    obtain ⟨n, hn, rfl⟩ := (hmem b).mp hb
    rcases Node.reword_cases (q.targets.zip results) n with he | ⟨old, conclusion, hpair, he⟩
    · rw [he] at hp ⊢
      exact h n hn proof hp
    · rw [he] at hp ⊢
      by_contra hne
      exact hd ⟨hl, hf, n, hn, proof, old, conclusion, hp, hpair, hne⟩

theorem Agrees.edited (h : c.Agrees) (hs : c.Sound) {Begun : SubstitutionRequest → Prop}
    {c' : Canvas} (hnone : ∀ q, ¬Begun q) (he : c.Edited Begun c') : c'.Agrees := by
  cases he with
  | same => exact h
  | takeEvents => exact h
  | addConclusion conclusion free => exact agrees_addRoot h _ _ fun _ => by simp
  | addPremises premises free => exact agrees_addRoot h _ _ fun _ => by simp
  | removeRoot id => exact agrees_removeRoot h id
  | setName id name => exact agrees_setName h id name
  | toggle id => exact agrees_toggle h id
  | attachRule q premises => exact agrees_attachRule h q premises
  | promote q conclusion => exact agrees_promote h q conclusion
  | deleteRule id => exact agrees_deleteRule h id
  | dropCopy target source => exact agrees_dropCopy h hs target source
  | dropPremise target premise => exact agrees_dropPremise h target premise
  | substitute q results hq => exact absurd hq (hnone q)

theorem nodup_keys_reached (hs : c.Sound) {id : Nat} {t : Tree Node} {target : Target}
    (ht : c.resolve? id = some (t, target)) (d : Direction) :
    ((c.reached t d).map Node.key).Nodup := by
  obtain ⟨p, hp⟩ := find?_of_resolve? ht
  obtain ⟨e, he, hl⟩ := hs.exists_fill hp
  have hd := hs.distinct_keys
  rw [he, e.preorder_fill] at hd
  -- but for two reversals, the way up, the node and what is below it stand in this order in preorder
  have hall : ((e.above ++ t.value :: t.below.fromLast).map Node.key).Nodup := by
    have hsub : (e.above.reverse ++ t.value :: t.below.preorder).Sublist
        (e.left ++ t.value :: (t.below.preorder ++ e.right)) :=
      e.above_sublist_left.append ((List.sublist_append_left _ _).cons_cons _)
    have hperm : (e.above ++ t.value :: t.below.fromLast).Perm
        (e.above.reverse ++ t.value :: t.below.preorder) :=
      e.above.reverse_perm.symm.append (t.below.fromLast_perm_preorder.cons _)
    exact (hperm.map _).nodup_iff.mpr (hd.sublist (hsub.map _))
  have hfull : ((t.value :: (e.above ++ t.below.fromLast)).map Node.key).Nodup :=
    (List.perm_middle.symm.map Node.key).nodup_iff.mpr hall
  refine hfull.sublist (List.Sublist.map _ ?_)
  rw [reached, hl, List.cons_append]
  refine List.Sublist.cons_cons _ (List.Sublist.append ?_ ?_)
  · split <;> simp
  · split <;> simp

theorem nodup_targets_of_requestSubstitution (hs : c.Sound) {id : Nat} {old new : Text}
    {d : Direction} {q : SubstitutionRequest} (h : c.requestSubstitution id old new d = .ok q) :
    (q.targets.map Prod.fst).Nodup := by
  obtain ⟨t, target, ht, rfl⟩ := exists_of_requestSubstitution h
  rw [List.map_map]
  exact (nodup_keys_reached hs ht d).sublist (List.filter_sublist.map _)

end Canvas

namespace Workbench

theorem targetsDistinct_act {w : Workbench} (hs : w.canvas.Sound) (h : w.TargetsDistinct)
    (a : Action) : (w.act a).TargetsDistinct :=
  forall_substitutions_act
    (fun _ _ _ _ _ hq => Canvas.nodup_targets_of_requestSubstitution hs hq) h a

/-- From a canvas whose deliveries are true to their nodes, an action departs from that exactly
when it puts the results of a substitution in place that do. -/
theorem agrees_act_iff {w : Workbench} (hs : w.canvas.Sound) (hd : w.TargetsDistinct)
    (h : w.canvas.Agrees) (a : Action) : (w.act a).canvas.Agrees ↔ ¬w.Departs a := by
  cases a with
  | takeEvents => exact ⟨fun _ hf => hf, fun _ => h⟩
  | command cmd =>
    cases cmd
    case substitute slot results =>
      simp only [act, perform, Departs]
      cases hw : waiting? w.substitutions slot with
      | none => exact ⟨fun _ hf => by simp at hf, fun _ => h⟩
      | some q =>
        obtain ⟨e, he, rfl⟩ := Option.map_eq_some_iff.mp hw
        have hq := hd e (List.mem_of_find?_eq_some he)
        simpa [settle] using Canvas.agrees_substitute_iff hs h hq
    all_goals
      refine ⟨fun _ hf => hf, fun _ => h.edited hs (fun q hq => ?_) (w.edited_act _)⟩
      obtain ⟨slot, results, he, -⟩ := hq
      cases he

theorem targetsDistinct_run (actions : List Action) : (run {} actions).TargetsDistinct := by
  have h : (run {} actions).canvas.Sound ∧ (run {} actions).TargetsDistinct :=
    run_preserves (P := fun w => w.canvas.Sound ∧ w.TargetsDistinct)
      (fun w a hw => ⟨sound_act w a hw.1, targetsDistinct_act hw.1 hw.2 a⟩)
      ⟨Canvas.sound_empty, fun _ he => by cases he⟩ actions
  exact h.2

/-- Throughout a run the finished derivations prove what their nodes show, exactly when no
substitution of the run gives a delivered node another conclusion than the one that was proved. -/
theorem faithful_run_iff (actions : List Action) :
    (∀ earlier, earlier <+: actions → (run {} earlier).canvas.Faithful) ↔
      ∀ earlier a, earlier ++ [a] <+: actions → ¬(run {} earlier).Departs a := by
  simp only [fun earlier => (sound_run earlier).faithful_iff]
  have step : ∀ earlier a, (run {} earlier).canvas.Agrees →
      ((run {} (earlier ++ [a])).canvas.Agrees ↔ ¬(run {} earlier).Departs a) := by
    intro earlier a h
    rw [run_append]
    exact agrees_act_iff (sound_run earlier) (targetsDistinct_run earlier) h a
  constructor
  · intro h earlier a hpre
    exact (step earlier a (h earlier ((List.prefix_append _ _).trans hpre))).mp (h _ hpre)
  · intro h earlier
    -- the run is lengthened at its end, where the step lemma applies
    induction earlier using List.reverseRecOn with
    | nil => exact fun _ => Canvas.agrees_empty
    | append_singleton earlier a ih =>
      intro hpre
      have hbefore := ih ((List.prefix_append _ _).trans hpre)
      exact (step earlier a hbefore).mpr (h earlier a hpre)

/-- A copy of a finished proof of `a` shows `b` once `b` is put in the place of `a`. -/
theorem not_faithful_of_substituted_copy :
    ¬(run {} [.command (.addConclusion ['a'] true), .command (.applyRule 1 ['r'] []),
      .command (.addConclusion ['a'] true), .command (.dropCopy 6 4),
      .command (.requestSubstitution 6 ['a'] ['b'] .both []),
      .command (.substitute [] [some ['b']])]).canvas.Faithful := by
  intro h
  have hd := h.derivation 6
    ⟨{ key := 1, id := 6, conclusion := ['b'], free := true,
        body := .delivered ⟨⟨['a'], [], ['r']⟩, .nil⟩ }, .nil⟩
    .copy ⟨⟨['a'], [], ['r']⟩, .nil⟩ (by decide) (by decide)
  exact absurd hd (by decide)

end Workbench

end ProofDesk
