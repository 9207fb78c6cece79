import ProofDesk.Proofs.Canvas.States
import ProofDesk.Proofs.Forest.Descent

namespace ProofDesk

namespace Canvas

/-- The request of a node lists the node, the nodes above it and the nodes below it as the direction
says, those without a conclusion apart. -/
structure Captures (c : Canvas) (n : Node) (d : Direction) (above below : List Node)
    (q : SubstitutionRequest) : Prop where
  nearestFirst : List.IsChain (fun child parent => c.forest.Covers parent child) (n :: above)
  ancestors : ∀ m, m ∈ above ↔ Relation.TransGen c.forest.Covers m n
  descendants : ∀ m, m ∈ below ↔ Relation.TransGen c.forest.Covers n m
  once : ((n :: above ++ below).map Node.key).Nodup
  listed : q.targets = ((n :: (if d.reachesUp then above else []) ++
    (if d.reachesDown then below else [])).filter fun m => m.conclusion ≠ []).map fun m =>
      (m.key, m.conclusion)
  free : ∀ m ∈ n :: above ++ below, m.free = true

variable {c : Canvas}

theorem Rests.free_of_covers (h : c.Rests) {m n : Node} (hmn : c.forest.Covers m n) :
    n.free = m.free := by
  obtain ⟨children, hrow, hn⟩ := hmn
  exact ((h _ hrow).below n hn).2

theorem Rests.free_of_transGen (h : c.Rests) {m n : Node}
    (hmn : Relation.TransGen c.forest.Covers m n) : n.free = m.free := by
  induction hmn with
  | single hs => exact h.free_of_covers hs
  | tail _ hs ih => exact (h.free_of_covers hs).trans ih

theorem requestSubstitution_ok_iff {id : Nat} {old new : Text} {d : Direction} :
    (∃ q, c.requestSubstitution id old new d = .ok q) ↔
      ∃ t target, c.resolve? id = some (t, target) ∧ t.value.free = true := by
  constructor
  · rintro ⟨q, hq⟩
    rcases c.requestSubstitution_cases id old new d with ⟨cause, -, he⟩ | ⟨t, target, ht, hf, -⟩
    · rw [hq] at he
      cases he
    · exact ⟨t, target, ht, hf⟩
  · rintro ⟨t, target, ht, hf⟩
    simp [requestSubstitution, ht, hf]

theorem Sound.captures (hs : c.Sound) (hrests : c.Rests) {id : Nat} {old new : Text}
    {d : Direction} {t : Tree Node} {target : Target} {q : SubstitutionRequest}
    (ht : c.resolve? id = some (t, target)) (hfree : t.value.free = true)
    (hq : c.requestSubstitution id old new d = .ok q) :
    ∃ above below, c.Captures t.value d above below q := by
  obtain ⟨p, hp⟩ := find?_of_resolve? ht
  obtain ⟨e, he, hl⟩ := hs.exists_fill hp
  have hd : (e.fill t).preorder.Nodup := he ▸ hs.distinct_nodes
  have habove : ∀ m, m ∈ e.above ↔ Relation.TransGen c.forest.Covers m t.value := by
    intro m
    rw [he]
    exact Forest.Context.mem_above_iff hd
  have hbelow : ∀ m, m ∈ t.below.fromLast ↔ Relation.TransGen c.forest.Covers t.value m := by
    intro m
    rw [he, t.below.fromLast_perm_preorder.mem_iff]
    exact Forest.Context.mem_below_iff hd
  refine ⟨e.above, t.below.fromLast, ?_, habove, hbelow, ?_, ?_, ?_⟩
  · rw [he]
    exact (e.isChain_above t).1
  · have hnodup := nodup_keys_reached hs ht .both
    rwa [reached, hl] at hnodup
  · obtain ⟨t', target', ht', rfl⟩ := exists_of_requestSubstitution hq
    obtain ⟨rfl, -⟩ := Prod.mk.inj (Option.some.inj (ht'.symm.trans ht))
    rw [reached, hl]
    rfl
  · intro m hm
    rcases List.mem_append.mp hm with hm | hm
    · rcases List.mem_cons.mp hm with rfl | hm
      · exact hfree
      · rw [← hrests.free_of_transGen ((habove m).mp hm)]
        exact hfree
    · rw [hrests.free_of_transGen ((hbelow m).mp hm)]
      exact hfree

end Canvas

namespace Workbench

/-- On the canvas of any run a request for a substitution succeeds exactly at a free node, and it
lists that node and its relatives in the direction, each once, all of them free. -/
theorem captures_run (actions : List Action) (id : Nat) (old new : Text) (d : Direction) :
    ((∃ q, (run {} actions).canvas.requestSubstitution id old new d = .ok q) ↔
      ∃ t target, (run {} actions).canvas.resolve? id = some (t, target) ∧ t.value.free = true) ∧
    ∀ t target q, (run {} actions).canvas.resolve? id = some (t, target) →
      (run {} actions).canvas.requestSubstitution id old new d = .ok q →
      q.old = old ∧ q.new = new ∧
        ∃ above below, (run {} actions).canvas.Captures t.value d above below q := by
  have hs := sound_run actions
  have hrests := rests_run actions
  generalize (run {} actions).canvas = c at hs hrests
  refine ⟨Canvas.requestSubstitution_ok_iff, fun t target q ht hq => ?_⟩
  obtain ⟨t', target', ht', hfree⟩ := Canvas.requestSubstitution_ok_iff.mp ⟨q, hq⟩
  obtain ⟨rfl, -⟩ := Prod.mk.inj (Option.some.inj (ht'.symm.trans ht))
  obtain ⟨t'', target'', -, hrequest⟩ := Canvas.exists_of_requestSubstitution hq
  exact ⟨by rw [hrequest], by rw [hrequest], hs.captures hrests ht hfree hq⟩

/-- Asked at the middle node of a proof, a request lists that node, the root above it and of the two
nodes below it the one that has a conclusion. -/
theorem captures_middle_node :
    let c := (run {} [.command (.addConclusion ['a'] true), .command (.applyRule 1 ['r'] [['b']]),
      .command (.applyRule 5 ['s'] [['c'], []])]).canvas
    ∃ t target q, c.resolve? 8 = some (t, target) ∧
      c.requestSubstitution 8 ['x'] ['y'] .both = .ok q ∧
      q.targets = [(1, ['b']), (0, ['a']), (2, ['c'])] ∧ q.old = ['x'] ∧ q.new = ['y'] ∧
      ∃ above below, c.Captures t.value .both above below q :=
  ⟨_, _, _, rfl, rfl, rfl, (captures_run _ 8 ['x'] ['y'] .both).2 _ _ _ rfl rfl⟩

end Workbench

end ProofDesk
