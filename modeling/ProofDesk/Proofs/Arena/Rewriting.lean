import ProofDesk.Proofs.Arena.Simulation

namespace ProofDesk

namespace Arena

variable {a : Arena} {c : Canvas} {key : Nat} {t : Tree Node}

namespace Stores

variable (h : a.Stores c) (hs : c.Sound)

include h hs

theorem exists_getElem?_of_mem {n : Node} (hn : n ∈ c.forest.preorder) :
    ∃ children, a.nodes[n.key]? = some (n.slot children) := by
  obtain ⟨t, ht, rfl⟩ := Option.map_eq_some_iff.mp (hs.node?_key hn)
  exact ⟨t.below.tops, (h.tree ht).1⟩

/-- The conclusions of some nodes, without the empty ones, are those of their slots. -/
theorem filterMap_conclusions {ns : List Node} (hns : ∀ n ∈ ns, n ∈ c.forest.preorder) :
    (ns.map Node.key).filterMap (fun k =>
        (a.nodes[k]?.filter fun s => !s.conclusion.isEmpty).map fun s => (k, s.conclusion)) =
      (ns.filter fun n => n.conclusion ≠ []).map fun n => (n.key, n.conclusion) := by
  induction ns with
  | nil => rfl
  | cons n ns ih =>
    obtain ⟨hn, hns⟩ := List.forall_mem_cons.mp hns
    obtain ⟨children, hslot⟩ := h.exists_getElem?_of_mem hs hn
    rw [List.map_cons, List.filterMap_cons, hslot, ih hns, List.filter_cons, Option.filter_some,
      Node.conclusion_slot]
    cases hc : n.conclusion <;> simp [hc]

theorem requestSubstitution (w : Walk) (id : Nat) (old new : Text) (d : Direction) :
    a.requestSubstitution w id old new d = some (c.requestSubstitution id old new d) := by
  rw [Arena.requestSubstitution, Canvas.requestSubstitution, h.resolve?_eq hs]
  cases hr : c.resolve? id with
  | none => rfl
  | some r =>
    have ht : c.tree? r.1.value.key = some r.1 := hs.tree?_of_resolve? hr
    obtain ⟨hslot, hbelow⟩ := h.tree ht
    have hm : r.1.value ∈ c.forest.preorder := (Canvas.mem_of_tree? ht).1
    simp only [Option.map_some, hslot, Node.free_slot, Node.conclusion_slot]
    by_cases hfree : (!r.1.value.free) = true
    · rw [if_pos hfree, if_pos hfree]
    rw [if_neg hfree, if_neg hfree]
    obtain ⟨above, hlineage, hclimbs, -⟩ := h.exists_climbs hs w (Canvas.key_mem_shape hm)
    have hup : (if d.reachesUp = true then a.ancestors w r.1.value.key else some []) =
        some ((if d.reachesUp then (c.lineage r.1.value.key).drop 1 else []).map Node.key) := by
      cases d.reachesUp with
      | false => rfl
      | true =>
        rw [if_pos rfl, if_pos rfl, hclimbs.ancestors, List.map_drop, hlineage]
        rfl
    have hdown : (if d.reachesDown = true
          then a.descendants (r.1.value.slot r.1.below.tops).children.reverse else some []) =
        some ((if d.reachesDown then r.1.below.fromLast else []).map Node.key) := by
      cases d.reachesDown with
      | false => rfl
      | true =>
        have hwalk := descendants_eq hbelow []
        rw [List.append_nil, descendants.eq_1] at hwalk
        rw [if_pos rfl, if_pos rfl, Node.children_slot, hwalk, Option.map_some, List.append_nil]
    have hlive : ∀ n ∈ c.reached r.1 d, n ∈ c.forest.preorder := fun n hn => hs.mem_of_mem_reached hr hn
    have hkeys : r.1.value.key ::
        ((if d.reachesUp then (c.lineage r.1.value.key).drop 1 else []).map Node.key) ++
          ((if d.reachesDown then r.1.below.fromLast else []).map Node.key) =
        (c.reached r.1 d).map Node.key := by
      simp [Canvas.reached]
    rw [hup, hdown]
    simp only [Option.bind_eq_bind, Option.bind_some]
    rw [hkeys, h.filterMap_conclusions hs hlive]
    rfl

omit h hs in
/-- Writing results does not look at the events that wait. -/
theorem rewrite_note (a : Arena) (e : Event) (pairs : List ((Nat × Text) × Option Text)) :
    (a.note e).rewrite pairs = ((a.rewrite pairs).1, (a.rewrite pairs).2.note e) := by
  induction pairs generalizing a with
  | nil => rfl
  | cons pair pairs ih =>
    obtain ⟨⟨key, old⟩, result⟩ := pair
    cases result with
    | none => exact ih a
    | some conclusion =>
      have hnode : (a.note e).nodes[key]? = a.nodes[key]? := rfl
      rw [rewrite, rewrite, hnode]
      cases a.nodes[key]? with
      | none => exact ih a
      | some s =>
        by_cases hsame : s.conclusion = conclusion
        · simp only [hsame, if_true]
          exact ih a
        · have hedit := ih (a.edit key fun s => { s with conclusion })
          simp only [hsame, if_false]
          exact congrArg (fun r => ((key, conclusion) :: r.1, r.2)) hedit

omit h hs in
theorem mounted_rewrite (a : Arena) (pairs : List ((Nat × Text) × Option Text)) :
    (a.rewrite pairs).2.mounted = a.mounted := by
  induction pairs generalizing a with
  | nil => rfl
  | cons pair pairs ih =>
    obtain ⟨⟨key, old⟩, result⟩ := pair
    cases result with
    | none => exact ih a
    | some conclusion =>
      rw [rewrite]
      cases a.nodes[key]? with
      | none => exact ih a
      | some s =>
        by_cases hsame : s.conclusion = conclusion
        · simp only [hsame, if_true]
          exact ih a
        · simp only [hsame, if_false]
          exact ih _

/-- All results are written before any is told of, and it makes no difference. -/
theorem rewrites (pairs : List ((Nat × Text) × Option Text)) :
    ((a.rewrite pairs).1.foldl (fun a (key, conclusion) =>
        a.note (.substituted (a.mountId key) conclusion)) (a.rewrite pairs).2).Stores
      (pairs.foldl (fun c ((key, _), result) =>
        match result with
        | some conclusion => c.setConclusion key conclusion
        | none => c) c) := by
  induction pairs generalizing a c with
  | nil => exact h
  | cons pair pairs ih =>
    obtain ⟨⟨key, old⟩, result⟩ := pair
    rw [List.foldl_cons]
    cases result with
    | none => exact ih h hs
    | some conclusion =>
      simp only [rewrite, Canvas.setConclusion, Canvas.node?, h.getElem?_eq key]
      cases ht : c.tree? key with
      | none => exact ih h hs
      | some t =>
        simp only [Option.map_some, Node.conclusion_slot]
        by_cases hsame : t.value.conclusion = conclusion
        · simp only [hsame, if_true]
          exact ih h hs
        · simp only [hsame, if_false, List.foldl_cons]
          obtain ⟨hm, rfl⟩ := Canvas.mem_of_tree? ht
          have hedit := h.changeNode hs ht (g := fun n => { n with conclusion })
            (f := fun s => { s with conclusion }) (fun _ => rfl) (fun _ => rfl) rfl
          have hkeeps := c.keeps_changeNode t.value.key
            (g := fun n => { n with conclusion }) (fun _ => rfl) fun _ => rfl
          have hrest := ih (hedit.note (.substituted t.value.id conclusion))
            (hs.keeps (hkeeps.note _))
          rw [rewrite_note] at hrest
          have hid : ((a.edit t.value.key fun s => { s with conclusion }).rewrite pairs).2.mountId
              t.value.key = t.value.id := by
            rw [mountId, mounted_rewrite]
            exact h.mountId_of_mem hs hm
          rw [hid]
          exact hrest

theorem substitute (q : SubstitutionRequest) (results : List (Option Text)) :
    Follows (some (a.substitute q results)) (c.substitute q results) := by
  have hfresh : (q.targets.all fun (key, conclusion) =>
      a.nodes[key]?.any fun s => s.conclusion == conclusion) = c.isFresh q := by
    rw [Canvas.isFresh]
    refine congrArg q.targets.all (funext fun ⟨key, conclusion⟩ => ?_)
    simp only [h.getElem?_eq, Canvas.node?, Option.any_map]
    rfl
  rw [Arena.substitute, Canvas.substitute, hfresh]
  by_cases hlength : results.length ≠ q.targets.length
  · rw [if_pos hlength, if_pos (Or.inl hlength)]
    exact h.refuse _
  by_cases hstale : (!c.isFresh q) = true
  · rw [if_neg hlength, if_pos hstale, if_pos (Or.inr hstale)]
    exact h.refuse _
  · rw [if_neg hlength, if_neg hstale, if_neg (not_or.mpr ⟨hlength, hstale⟩)]
    exact ⟨_, rfl, h.rewrites hs _⟩

theorem exportRoots (requests : List TheoremRequest) :
    a.exportRoots requests = some (c.exportRoots requests) := by
  induction requests with
  | nil => rfl
  | cons q rest ih =>
    rw [Arena.exportRoots, Canvas.exportRoots, Canvas.exportRoot, h.resolve?_eq hs]
    cases hr : c.resolve? q.root with
    | none => rfl
    | some r =>
      have ht : c.tree? r.1.value.key = some r.1 := hs.tree?_of_resolve? hr
      have hroot : a.roots.contains r.1.value.key =
          c.forest.tops.any fun n => n.key == r.1.value.key := by
        rw [h.roots, Canvas.roots, List.contains_eq_any_beq, List.any_map]
        exact congrArg c.forest.tops.any (funext fun n => Bool.beq_comm)
      simp only [Option.map_some, hroot, h.derivationOf?_eq ht, (h.tree ht).1,
        Node.conclusion_slot, Option.getD_some]
      cases c.forest.tops.any fun n => n.key == r.1.value.key with
      | false => rfl
      | true =>
        cases hd : r.1.derivation? with
        | none => rfl
        | some d =>
          simp only [ih]
          cases c.exportRoots rest <;> rfl

theorem filterMap_mounted {ns : List Node} (hns : ∀ n ∈ ns, n ∈ c.forest.preorder) :
    (ns.map Node.key).filterMap (fun key => a.mounted[key]?) = ns.map Node.id := by
  rw [List.filterMap_map, ← List.filterMap_eq_map]
  refine List.filterMap_congr fun n hn => ?_
  rw [Function.comp_apply, h.mounted_eq hs, hs.node?_key (hns n hn)]
  rfl

theorem rootIds : a.rootIds = c.rootIds := by
  rw [Arena.rootIds, h.roots]
  exact h.filterMap_mounted hs fun n hn => c.forest.tops_subset_preorder hn

theorem childIds (id : Nat) : a.childIds id = c.childIds id := by
  rw [Arena.childIds, Canvas.childIds, h.resolve?_eq hs]
  cases hr : c.resolve? id with
  | none => rfl
  | some r =>
    have ht : c.tree? r.1.value.key = some r.1 := hs.tree?_of_resolve? hr
    simp only [Option.map_some, childrenOf_eq (h.tree ht).1, Node.children_slot]
    refine h.filterMap_mounted hs fun n hn => ?_
    obtain ⟨e, he, -, -⟩ := Forest.exists_fill_of_find? ht
    rw [he, e.preorder_fill]
    simp [Forest.tops_subset_preorder _ hn]

theorem parentId? (w : Walk) (id : Nat) : a.parentId? w id = c.parentId? id := by
  rw [Arena.parentId?, Canvas.parentId?, h.resolve?_eq hs]
  cases hr : c.resolve? id with
  | none => rfl
  | some r =>
    have ht : c.tree? r.1.value.key = some r.1 := hs.tree?_of_resolve? hr
    obtain ⟨above, hlineage, hclimbs, -⟩ :=
      h.exists_climbs hs w (Canvas.key_mem_shape (Canvas.mem_of_tree? ht).1)
    simp only [Option.map_some, Option.bind_eq_bind, Option.bind_some]
    cases hl : c.lineage r.1.value.key with
    | nil => simp [hl] at hlineage
    | cons n rest =>
      have hmem : ∀ m ∈ rest, m ∈ c.forest.preorder := fun m hm =>
        Canvas.mem_of_mem_lineage (hl ▸ List.mem_cons_of_mem n hm)
      rw [hl, List.map_cons, List.cons.injEq] at hlineage
      obtain ⟨-, rfl⟩ := hlineage
      cases rest with
      | nil =>
        have htop : a.parentOf? w r.1.value.key = none := hclimbs.top _ rfl
        rw [htop]
        rfl
      | cons parent rest =>
        have hparent := hclimbs.chain.rel
        rw [hparent, Option.bind_some, h.mounted_eq hs,
          hs.node?_key (hmem parent List.mem_cons_self)]
        rfl

theorem derivation? (id : Nat) : a.derivation? id = some (c.derivation? id) := by
  rw [Arena.derivation?, Canvas.derivation?, h.resolve?_eq hs]
  cases hr : c.resolve? id with
  | none => rfl
  | some r => exact h.derivationOf?_eq (hs.tree?_of_resolve? hr)

end Stores

end Arena

end ProofDesk
