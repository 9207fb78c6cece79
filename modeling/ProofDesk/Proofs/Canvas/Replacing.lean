import ProofDesk.Proofs.Canvas.Lifetime
import ProofDesk.Proofs.Canvas.Numbering
import ProofDesk.Proofs.Canvas.States

namespace ProofDesk

namespace Canvas

/-- The notices that results give rise to: one for each result that is not the captured text, in the
order of the request. -/
def rewordings (c : Canvas) (pairs : List ((Nat × Text) × Option Text)) : List Event :=
  pairs.filterMap fun ((key, old), result) =>
    (result.filter fun text => text ≠ old).map (.substituted (c.idOf key))

/-- The second canvas is the first one with the results in the place of the captured conclusions. -/
structure Replaced (c c' : Canvas) (targets : List (Nat × Text)) (results : List (Option Text)) :
    Prop where
  nodes : ∃ g : Node → Node, c'.forest = c.forest.map g ∧ ∀ n ∈ c.forest.preorder,
    (n.key ∉ targets.map Prod.fst → g n = n) ∧
      ∀ (i : Nat) (old : Text) (result : Option Text),
        targets[i]? = some (n.key, old) → results[i]? = some result →
        g n = { n with conclusion := result.getD n.conclusion }
  counters : c'.nextKey = c.nextKey ∧ c'.nextId = c.nextId
  events : c'.events = c.events ++ c'.rewordings (targets.zip results)

variable {c : Canvas}

theorem isFresh_iff {q : SubstitutionRequest} : c.isFresh q = true ↔
    ∀ target ∈ q.targets, ∃ n, c.node? target.1 = some n ∧ n.conclusion = target.2 := by
  simp [isFresh, Option.any_eq_true]

theorem substitute_answer_iff (c : Canvas) (q : SubstitutionRequest)
    (results : List (Option Text)) :
    (c.substitute q results).answer = .ok () ↔
      results.length = q.targets.length ∧ c.isFresh q = true := by
  rw [substitute]
  split
  next hno =>
    constructor
    · intro h
      cases h
    · rintro ⟨hl, hf⟩
      rcases hno with hno | hno
      · exact absurd hl hno
      · rw [hf] at hno
        cases hno
  next hyes =>
    obtain ⟨hl, hf⟩ := not_or.mp hyes
    exact ⟨fun _ => ⟨not_not.mp hl, by simpa using hf⟩, fun _ => rfl⟩

theorem substitute_stale {q : SubstitutionRequest} {results : List (Option Text)}
    (h : (c.substitute q results).answer ≠ .ok ()) :
    c.substitute q results = c.refuse .stale := by
  rw [substitute] at h ⊢
  split at h
  next hno => rw [if_pos hno]
  next => exact absurd rfl h

theorem Sound.node?_setConclusion_of_ne (hs : c.Sound) {key other : Nat} (hne : other ≠ key)
    {n : Node} (hn : c.node? other = some n) (conclusion : Text) :
    (c.setConclusion key conclusion).node? other = some n := by
  obtain ⟨t, ht, rfl⟩ := Option.map_eq_some_iff.mp hn
  obtain ⟨hmem, hkey⟩ := mem_of_tree? ht
  have hstill : t.value ∈ (c.setConclusion key conclusion).forest.preorder := by
    rw [forest_setConclusion hs, Forest.preorder_map]
    refine List.mem_map.mpr ⟨t.value, hmem, if_neg ?_⟩
    rwa [hkey]
  have hfound := (hs.keeps (keeps_setConclusion c key conclusion)).node?_key hstill
  rwa [hkey] at hfound

theorem idOf_eq (c : Canvas) (key : Nat) : c.idOf key =
    (((c.shape.preorder.zip c.ids).find? fun mark => mark.1 == key).map Prod.snd).getD 4294967295 := by
  have hfound : c.node? key = c.forest.preorder.find? fun n => n.key == key :=
    Forest.find?_value c.forest
  rw [idOf, hfound, shape, ids, Forest.preorder_map, List.zip_map', List.find?_map, Option.map_map]
  rfl

theorem Keeps.idOf {c' : Canvas} (h : Keeps c c') (key : Nat) : c'.idOf key = c.idOf key := by
  rw [idOf_eq, idOf_eq, h.shape, h.ids]

theorem events_setConclusion {key : Nat} {n : Node} (hn : c.node? key = some n)
    (conclusion : Text) : (c.setConclusion key conclusion).events =
      c.events ++ c.rewordings [((key, n.conclusion), some conclusion)] := by
  rw [setConclusion, hn]
  by_cases he : n.conclusion = conclusion
  · simp [he, rewordings]
  · have hne : conclusion ≠ n.conclusion := fun h => he h.symm
    simp [he, hne, rewordings, note, idOf, hn, changeNode, change]

theorem Keeps.rewordings {c' : Canvas} (h : Keeps c c')
    (pairs : List ((Nat × Text) × Option Text)) : c'.rewordings pairs = c.rewordings pairs := by
  have hids : c'.idOf = c.idOf := funext h.idOf
  rw [Canvas.rewordings, Canvas.rewordings, hids]

theorem events_foldl_setConclusion (hs : c.Sound) {pairs : List ((Nat × Text) × Option Text)}
    (distinct : (pairs.map fun p => p.1.1).Nodup)
    (fresh : ∀ p ∈ pairs, ∃ n, c.node? p.1.1 = some n ∧ n.conclusion = p.1.2) :
    (pairs.foldl (fun c ((key, _), result) =>
      match result with
      | some conclusion => c.setConclusion key conclusion
      | none => c) c).events = c.events ++ c.rewordings pairs := by
  induction pairs generalizing c with
  | nil => exact (List.append_nil _).symm
  | cons pair pairs ih =>
    obtain ⟨⟨key, old⟩, result⟩ := pair
    obtain ⟨hkey, hrest⟩ := List.nodup_cons.mp distinct
    have hfresh : ∀ p ∈ pairs, ∃ n, c.node? p.1.1 = some n ∧ n.conclusion = p.1.2 :=
      fun p hp => fresh p (List.mem_cons_of_mem _ hp)
    cases result with
    | none =>
      rw [List.foldl_cons, ih hs hrest hfresh]
      rfl
    | some conclusion =>
      obtain ⟨n, hn, hold⟩ := fresh _ List.mem_cons_self
      have hother : ∀ p ∈ pairs, p.1.1 ≠ key := fun p hp he =>
        hkey (List.mem_map.mpr ⟨p, hp, he⟩)
      have hkeeps := keeps_setConclusion c key conclusion
      have hlater := ih (hs.keeps hkeeps) hrest fun p hp => by
        obtain ⟨m, hm, hc⟩ := hfresh p hp
        exact ⟨m, hs.node?_setConclusion_of_ne (hother p hp) hm conclusion, hc⟩
      rw [List.foldl_cons, hlater, hkeeps.rewordings, events_setConclusion hn, hold,
        List.append_assoc]
      exact congrArg (c.events ++ ·) (List.filterMap_append (l := [_])).symm

theorem reword_of_mem_zip {pairs : List ((Nat × Text) × Option Text)}
    (distinct : (pairs.map fun p => p.1.1).Nodup) {n : Node} {old : Text} {result : Option Text}
    (h : ((n.key, old), result) ∈ pairs) :
    n.reword pairs = { n with conclusion := result.getD n.conclusion } := by
  cases result with
  | some conclusion => exact Node.reword_of_mem distinct h
  | none =>
    rcases Node.reword_cases pairs n with he | ⟨old', conclusion, hpair, -⟩
    · exact he
    · have hsame := List.inj_on_of_nodup_map distinct hpair h rfl
      simp at hsame

theorem Sound.replaced_substitute (hs : c.Sound) {q : SubstitutionRequest}
    {results : List (Option Text)} (distinct : (q.targets.map Prod.fst).Nodup)
    (h : (c.substitute q results).answer = .ok ()) :
    c.Replaced (c.substitute q results).canvas q.targets results := by
  obtain ⟨hl, hf⟩ := (substitute_answer_iff c q results).mp h
  have hkeys := q.keys_zip hl
  have hkeeps := keeps_substitute c q results
  refine ⟨⟨Node.reword (q.targets.zip results), forest_substitute hs distinct hl hf, ?_⟩,
    ⟨hkeeps.nextKey, hkeeps.nextId⟩, ?_⟩
  · intro n _
    refine ⟨fun hno => Node.reword_eq_self (hkeys ▸ hno), fun i old result ht hr => ?_⟩
    have hpair : ((n.key, old), result) ∈ q.targets.zip results :=
      List.mem_of_getElem? (List.getElem?_zip_eq_some.mpr ⟨ht, hr⟩)
    exact reword_of_mem_zip (hkeys ▸ distinct) hpair
  · have hfresh : ∀ p ∈ q.targets.zip results,
        ∃ n, c.node? p.1.1 = some n ∧ n.conclusion = p.1.2 := fun p hp =>
      isFresh_iff.mp hf p.1 (List.of_mem_zip hp).1
    have hevents := events_foldl_setConclusion hs (hkeys ▸ distinct) hfresh
    have hpasses : ¬ (results.length ≠ q.targets.length ∨ (!c.isFresh q) = true) := by
      simp [hl, hf]
    rw [hkeeps.rewordings, ← hevents, substitute]
    exact congrArg (fun o : Outcome Unit => o.canvas.events) (if_neg hpasses)

end Canvas

section Requests

/-- The results for a request are put in place after other actions. They are when the captured nodes
have stayed and show what was captured, and if one does not, nothing happens. -/
structure Workbench.Replaces (w : Workbench) (between : List Action) (q : SubstitutionRequest)
    (results : List (Option Text)) : Prop where
  once : (q.targets.map Prod.fst).Nodup
  succeeds_iff : ((w.run between).canvas.substitute q results).answer = .ok () ↔
    results.length = q.targets.length ∧ ∀ target ∈ q.targets, w.Stays between target.1 ∧
      ∃ n, (w.run between).canvas.node? target.1 = some n ∧ n.conclusion = target.2
  done : ((w.run between).canvas.substitute q results).answer = .ok () →
    (w.run between).canvas.Replaced ((w.run between).canvas.substitute q results).canvas
      q.targets results
  stale : ((w.run between).canvas.substitute q results).answer ≠ .ok () →
    (w.run between).canvas.substitute q results = (w.run between).canvas.refuse .stale

namespace Workbench

/-- For every run, every request returned at its end, all that is done in between and all
results. -/
theorem replaces_run (actions between : List Action) {id : Nat} {old new : Text} {d : Direction}
    {q : SubstitutionRequest}
    (hq : (run {} actions).canvas.requestSubstitution id old new d = .ok q)
    (results : List (Option Text)) : (run {} actions).Replaces between q results := by
  have hs := sound_run actions
  have hs' : ((run {} actions).run between).canvas.Sound := by
    rw [← run_append]
    exact sound_run _
  have distinct := Canvas.nodup_targets_of_requestSubstitution hs hq
  have hgiven : ∀ target ∈ q.targets, target.1 < (run {} actions).canvas.nextKey := by
    intro target ht
    obtain ⟨t, place, hresolved, rfl⟩ := Canvas.exists_of_requestSubstitution hq
    obtain ⟨n, hn, rfl⟩ := List.mem_map.mp ht
    have hmem := hs.mem_of_mem_reached hresolved (List.mem_filter.mp hn).1
    exact hs.fresh _ (Canvas.key_mem_shape hmem)
  refine ⟨distinct, ?_, hs'.replaced_substitute distinct, Canvas.substitute_stale⟩
  rw [Canvas.substitute_answer_iff, Canvas.isFresh_iff]
  refine and_congr_right fun _ => forall₂_congr fun target ht => ?_
  rw [stays_iff (hgiven target ht)]
  exact ⟨fun ⟨n, hn, hc⟩ => ⟨Canvas.key_mem_of_node? hn, n, hn, hc⟩, And.right⟩

/-- Three conclusions are captured; one gets another text, one no result and one its own text. In
between the root is folded. -/
theorem replaces_one_of_three :
    let w := run {} [.command (.addConclusion ['a'] true), .command (.applyRule 1 ['r'] [['b']]),
      .command (.applyRule 5 ['s'] [['c'], []])]
    let q : SubstitutionRequest := ⟨[(1, ['b']), (0, ['a']), (2, ['c'])], ['x'], ['y']⟩
    let between := [Action.takeEvents, .command (.toggle 6)]
    let after := ((w.run between).canvas.substitute q [some ['d'], none, some ['c']]).canvas
    w.canvas.requestSubstitution 8 ['x'] ['y'] .both = .ok q ∧
      w.Replaces between q [some ['d'], none, some ['c']] ∧
      after.forest.preorder.map Node.conclusion = [['a'], ['d'], ['c'], []] ∧
      after.events = [.substituted 8 ['d']] := by
  intro w q between after
  have hq : w.canvas.requestSubstitution 8 ['x'] ['y'] .both = .ok q := rfl
  have hreplaces := replaces_run _ between hq [some ['d'], none, some ['c']]
  exact ⟨hq, hreplaces, by decide, by decide⟩

end Workbench

end Requests

end ProofDesk
