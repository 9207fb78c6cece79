import Mathlib.Algebra.GroupWithZero.Nat
import Mathlib.Data.List.Forall2
import ProofDesk.Proofs.Canvas.Delivery
import ProofDesk.Proofs.Canvas.States

namespace ProofDesk

namespace Node

/-- The node is proved from its conclusion down, and a rule or a delivered derivation justifies
it. -/
def IsJustified (n : Node) : Prop :=
  n.isTopDown = false ∧ (n.attached? ≠ none ∨ n.subtree? ≠ none)

theorem isJustified_iff {n : Node} :
    n.IsJustified ↔ (∃ rule, n.body = .ruled rule) ∨ ∃ proof, n.body = .delivered proof := by
  cases hb : n.body <;> simp [IsJustified, isTopDown, attached?, subtree?, hb]

def stepCount (nodes : List Node) : Nat :=
  nodes.countP (fun n => n.attached?.isSome) +
    ((nodes.filterMap subtree?).map Derivation.stepCount).sum

theorem stepCount_append (nodes nodes' : List Node) :
    stepCount (nodes ++ nodes') = stepCount nodes + stepCount nodes' := by
  simp only [stepCount, List.countP_append, List.filterMap_append, List.map_append,
    List.sum_append]
  omega

theorem stepCount_cons_ruled {n : Node} {rule : Text} (h : n.body = .ruled rule)
    (nodes : List Node) : stepCount (n :: nodes) = stepCount nodes + 1 := by
  have hattached : n.attached?.isSome = true := by simp [attached?, h]
  have hsubtree : n.subtree? = none := by simp [subtree?, h]
  rw [stepCount, List.countP_cons_of_pos (p := fun n : Node => n.attached?.isSome) hattached,
    List.filterMap_cons_none hsubtree, stepCount]
  omega

theorem stepCount_cons_delivered {n : Node} {proof : Derivation} (h : n.body = .delivered proof)
    (nodes : List Node) : stepCount (n :: nodes) = proof.stepCount + stepCount nodes := by
  have hattached : ¬ n.attached?.isSome = true := by simp [attached?, h]
  have hsubtree : n.subtree? = some proof := by simp [subtree?, h]
  rw [stepCount, List.countP_cons_of_neg (p := fun n : Node => n.attached?.isSome) hattached,
    List.filterMap_cons_some hsubtree, List.map_cons, List.sum_cons, stepCount]
  omega

theorem stepCount_deliveredAs (n : Node) (proof : Derivation) :
    (n.deliveredAs proof).stepCount = proof.stepCount := by
  rw [deliveredAs]
  split <;> rfl

end Node

namespace Forest

theorem map_value_trees {α : Type} (f : Forest α) : f.trees.map Tree.value = f.tops := by
  induction f with
  | nil => rfl
  | cons a below rest _ ih => rw [trees, List.map_cons, ih, tops]

theorem find?_of_mem_trees {α : Type} {f : Forest α} {h : α → Nat} {t : Tree α}
    (distinct : (f.preorder.map h).Nodup) (ht : t ∈ f.trees) :
    f.find? (fun a => h a == h t.value) = some t := by
  obtain ⟨i, hi⟩ := List.mem_iff_getElem?.mp ht
  have hat : f.at? [i] = some t := hi
  obtain ⟨e, rfl, -⟩ := exists_fill_of_at? hat
  exact Context.find?_mark_fill distinct

def Rested (f : Forest Node) : Prop :=
  ∀ r ∈ f.rows, r.1.Rests r.2

variable {n : Node} {below rest f : Forest Node}

theorem Rested.of_below (h : (cons n below rest).Rested) : below.Rested :=
  fun r hr => h r (List.mem_cons_of_mem _ (List.mem_append_left _ hr))

theorem Rested.of_rest (h : (cons n below rest).Rested) : rest.Rested :=
  fun r hr => h r (List.mem_cons_of_mem _ (List.mem_append_right _ hr))

theorem Rested.eq_nil (h : (cons n below rest).Rested) (hn : ∀ rule, n.body ≠ .ruled rule) :
    below = nil :=
  eq_nil_of_tops ((h (n, below.tops) List.mem_cons_self).eq_nil hn)

theorem derivations?_cons (n : Node) (below rest : Forest Node) :
    (cons n below rest).derivations? = (Tree.derivation? ⟨n, below⟩).bind fun d =>
      rest.derivations?.map fun others => cons d.value d.below others := by
  rw [derivations?, Tree.derivation?_eq]
  cases n.body with
  | hole | gathering => rfl
  | delivered proof => cases rest.derivations? <;> rfl
  | ruled rule => cases below.derivations? <;> cases rest.derivations? <;> rfl

/-- Justified nodes have derivations, with the steps that the nodes account for. -/
theorem exists_derivations? (hb : f.Rested) (h : ∀ n ∈ f.preorder, n.IsJustified) :
    ∃ g, f.derivations? = some g ∧ g.size = Node.stepCount f.preorder := by
  induction f with
  | nil => exact ⟨nil, rfl, rfl⟩
  | cons n below rest ihb ihr =>
    obtain ⟨hn, hnodes⟩ := List.forall_mem_cons.mp h
    obtain ⟨hbelow, hrest⟩ := List.forall_mem_append.mp hnodes
    obtain ⟨others, hothers, hsize⟩ := ihr hb.of_rest hrest
    have htree : ∃ d, Tree.derivation? ⟨n, below⟩ = some d ∧
        d.stepCount = Node.stepCount (n :: below.preorder) := by
      rw [Tree.derivation?_eq]
      rcases Node.isJustified_iff.mp hn with ⟨rule, hrule⟩ | ⟨proof, hproof⟩
      · obtain ⟨premises, hpremises, hcount⟩ := ihb hb.of_below hbelow
        refine ⟨⟨n.step rule, premises⟩, by simp only [hrule, hpremises, Option.map_some], ?_⟩
        rw [Node.stepCount_cons_ruled hrule, ← hcount]
        rfl
      · -- nothing below a delivered derivation is left to count
        obtain rfl := hb.eq_nil fun rule hrule => by rw [hproof] at hrule; cases hrule
        refine ⟨n.deliveredAs proof, by simp only [hproof], ?_⟩
        rw [Node.stepCount_deliveredAs, Node.stepCount_cons_delivered hproof]
        rfl
    obtain ⟨d, hd, hcount⟩ := htree
    refine ⟨cons d.value d.below others, ?_, ?_⟩
    · rw [derivations?_cons, hd, hothers]
      rfl
    · rw [preorder, ← List.cons_append, Node.stepCount_append, ← hcount, ← hsize,
        Derivation.stepCount, Derivation.toForest, size, size, size]
      omega

theorem isJustified_of_derivations? (hb : f.Rested) {g : Forest Step}
    (h : f.derivations? = some g) : ∀ n ∈ f.preorder, n.IsJustified := by
  induction f generalizing g with
  | nil => exact fun n hn => by cases hn
  | cons n below rest ihb ihr =>
    rw [derivations?_cons] at h
    obtain ⟨d, hd, h⟩ := Option.bind_eq_some_iff.mp h
    obtain ⟨others, hothers, -⟩ := Option.map_eq_some_iff.mp h
    rw [Tree.derivation?_eq] at hd
    have hrest := ihr hb.of_rest hothers
    cases hbody : n.body with
    | hole | gathering => simp [hbody] at hd
    | ruled rule =>
      simp only [hbody] at hd
      obtain ⟨premises, hpremises, -⟩ := Option.map_eq_some_iff.mp hd
      have hn := Node.isJustified_iff.mpr (Or.inl ⟨rule, hbody⟩)
      exact List.forall_mem_cons.mpr
        ⟨hn, List.forall_mem_append.mpr ⟨ihb hb.of_below hpremises, hrest⟩⟩
    | delivered proof =>
      obtain rfl := hb.eq_nil fun rule hrule => by rw [hbody] at hrule; cases hrule
      exact List.forall_mem_cons.mpr ⟨Node.isJustified_iff.mpr (Or.inr ⟨proof, hbody⟩), hrest⟩

end Forest

namespace Tree

def nodes (t : Tree Node) : List Node :=
  t.value :: t.below.preorder

variable {t : Tree Node}

theorem nodes_eq (t : Tree Node) : t.nodes = (Forest.cons t.value t.below .nil).preorder := by
  rw [nodes, Forest.preorder, Forest.preorder, List.append_nil]

theorem derivations?_single (t : Tree Node) :
    (Forest.cons t.value t.below .nil).derivations? = t.derivation?.map Derivation.toForest := by
  rw [Forest.derivations?_cons, Option.map_eq_bind]
  rfl

/-- A tree has a derivation exactly when all its nodes are justified. -/
theorem exists_derivation?_iff (hb : (Forest.cons t.value t.below .nil).Rested) :
    (∃ d, t.derivation? = some d) ↔ ∀ n ∈ t.nodes, n.IsJustified := by
  rw [nodes_eq]
  constructor
  · rintro ⟨d, hd⟩
    refine Forest.isJustified_of_derivations? hb (g := d.toForest) ?_
    rw [derivations?_single, hd, Option.map_some]
  · intro h
    obtain ⟨g, hg, -⟩ := Forest.exists_derivations? hb h
    rw [derivations?_single] at hg
    obtain ⟨d, hd, -⟩ := Option.map_eq_some_iff.mp hg
    exact ⟨d, hd⟩

theorem stepCount_of_derivation? (hb : (Forest.cons t.value t.below .nil).Rested)
    {d : Derivation} (h : t.derivation? = some d) : d.stepCount = Node.stepCount t.nodes := by
  have hforest := derivations?_single t
  rw [h, Option.map_some] at hforest
  obtain ⟨g, hg, hsize⟩ :=
    Forest.exists_derivations? hb (Forest.isJustified_of_derivations? hb hforest)
  rw [Derivation.stepCount, ← Option.some.inj (hg.symm.trans hforest), hsize, nodes_eq]

end Tree

namespace Canvas

variable {c : Canvas} {q : TheoremRequest} {qs : List TheoremRequest} {cause : Refusal}

def IsRootAt (c : Canvas) (id : Nat) (t : Tree Node) : Prop :=
  (∃ target, c.resolve? id = some (t, target)) ∧ t ∈ c.forest.trees

/-- The request is for a root at and below which every node is justified. -/
def Exportable (c : Canvas) (q : TheoremRequest) : Prop :=
  ∃ t, c.IsRootAt q.root t ∧ ∀ n ∈ t.nodes, n.IsJustified

/-- Why a request is not written. -/
inductive Withholds (c : Canvas) (q : TheoremRequest) : Refusal → Prop
  | unknown (h : c.resolve? q.root = none) : Withholds c q (.unknownTarget q.root)
  | notRoot {t : Tree Node} {target : Target} (h : c.resolve? q.root = some (t, target))
      (inside : t ∉ c.forest.trees) : Withholds c q (.misfit (.notRoot q.root))
  | incomplete {t : Tree Node} (h : c.IsRootAt q.root t)
      (unjustified : ∃ n ∈ t.nodes, ¬n.IsJustified) :
      Withholds c q (.incomplete t.value.conclusion)

/-- The derivation of a request: that of its root, whose steps the nodes account for. -/
structure Derives (c : Canvas) (q : TheoremRequest) (d : Derivation) : Prop where
  derivation : c.derivation? q.root = some d
  steps : ∃ t, c.IsRootAt q.root t ∧ d.stepCount = Node.stepCount t.nodes

theorem Sound.any_tops_iff (hs : c.Sound) {id : Nat} {t : Tree Node} {target : Target}
    (ht : c.resolve? id = some (t, target)) :
    (c.forest.tops.any fun n => n.key == t.value.key) = true ↔ t ∈ c.forest.trees := by
  rw [← Forest.map_value_trees, List.any_map, List.any_eq_true]
  constructor
  · rintro ⟨t', ht', hk⟩
    have hkey : t'.value.key = t.value.key := by simpa using hk
    have hfound := Forest.find?_of_mem_trees hs.distinct_keys ht'
    rw [hkey] at hfound
    rwa [← Option.some.inj (hfound.symm.trans (hs.tree?_of_resolve? ht))]
  · exact fun hm => ⟨t, hm, by simp⟩

theorem Rests.rested_of_resolve? (h : c.Rests) {id : Nat} {t : Tree Node} {target : Target}
    (ht : c.resolve? id = some (t, target)) : (Forest.cons t.value t.below .nil).Rested := by
  obtain ⟨p, hp⟩ := find?_of_resolve? ht
  obtain ⟨e, he, -, -⟩ := Forest.exists_fill_of_find? hp
  intro r hr
  refine h r ?_
  rw [he]
  exact e.rows_subset_fill t (by simpa [Forest.rows] using hr)

theorem exportable_or_withholds (c : Canvas) (q : TheoremRequest) :
    c.Exportable q ∨ ∃ cause, c.Withholds q cause := by
  cases ht : c.resolve? q.root with
  | none => exact Or.inr ⟨_, .unknown ht⟩
  | some found =>
    obtain ⟨t, target⟩ := found
    by_cases hroot : t ∈ c.forest.trees
    · have hat : c.IsRootAt q.root t := ⟨⟨target, ht⟩, hroot⟩
      by_cases hall : ∀ n ∈ t.nodes, n.IsJustified
      · exact Or.inl ⟨t, hat, hall⟩
      · exact Or.inr ⟨_, .incomplete hat (by simpa using hall)⟩
    · exact Or.inr ⟨_, .notRoot ht hroot⟩

theorem all_exportable_or_withholds (c : Canvas) (qs : List TheoremRequest) :
    (∀ q ∈ qs, c.Exportable q) ∨ ∃ before q after cause, qs = before ++ q :: after ∧
      (∀ q' ∈ before, c.Exportable q') ∧ c.Withholds q cause := by
  induction qs with
  | nil => exact Or.inl (List.forall_mem_nil _)
  | cons q rest ih =>
    rcases c.exportable_or_withholds q with hq | ⟨cause, hwhy⟩
    · rcases ih with hall | ⟨before, q', after, cause, rfl, hall, hwhy⟩
      · exact Or.inl (List.forall_mem_cons.mpr ⟨hq, hall⟩)
      · exact Or.inr
          ⟨q :: before, q', after, cause, rfl, List.forall_mem_cons.mpr ⟨hq, hall⟩, hwhy⟩
    · exact Or.inr ⟨[], q, rest, cause, rfl, List.forall_mem_nil _, hwhy⟩

section Requests

variable (hs : c.Sound) (h : c.Rests)

include hs h

theorem exportRoot_of_exportable (hq : c.Exportable q) :
    ∃ d, c.Derives q d ∧ c.exportRoot q = .ok (Script.render q.name q.quantifiers d) := by
  obtain ⟨t, ⟨⟨target, ht⟩, hroot⟩, hall⟩ := hq
  have hb := h.rested_of_resolve? ht
  obtain ⟨d, hd⟩ := (Tree.exists_derivation?_iff hb).mpr hall
  refine ⟨d, ⟨by rw [derivation?_of_resolve? ht, hd], t, ⟨⟨target, ht⟩, hroot⟩,
    Tree.stepCount_of_derivation? hb hd⟩, ?_⟩
  simp [exportRoot, ht, (hs.any_tops_iff ht).mpr hroot, hd]

theorem exportRoot_of_withholds (hwhy : c.Withholds q cause) : c.exportRoot q = .error cause := by
  cases hwhy with
  | unknown ht => simp only [exportRoot, ht]
  | notRoot ht inside =>
    rw [← hs.any_tops_iff ht, Bool.not_eq_true] at inside
    simp [exportRoot, ht, inside]
  | incomplete hat unjustified =>
    obtain ⟨⟨target, ht⟩, hroot⟩ := hat
    obtain ⟨n, hn, hopen⟩ := unjustified
    have hd : _ = none := Option.eq_none_iff_forall_ne_some.mpr fun d hd =>
      hopen ((Tree.exists_derivation?_iff (h.rested_of_resolve? ht)).mp ⟨d, hd⟩ n hn)
    simp [exportRoot, ht, (hs.any_tops_iff ht).mpr hroot, hd]

theorem exportRoots_of_exportable (hall : ∀ q ∈ qs, c.Exportable q) :
    ∃ ds, List.Forall₂ c.Derives qs ds ∧ c.exportRoots qs =
      .ok (List.zipWith (fun q d => Script.render q.name q.quantifiers d) qs ds).flatten := by
  induction qs with
  | nil => exact ⟨[], .nil, rfl⟩
  | cons q rest ih =>
    obtain ⟨hq, hrest⟩ := List.forall_mem_cons.mp hall
    obtain ⟨d, hd, hfirst⟩ := exportRoot_of_exportable hs h hq
    obtain ⟨ds, hds, hothers⟩ := ih hrest
    refine ⟨d :: ds, .cons hd hds, ?_⟩
    rw [exportRoots, hfirst, hothers]
    rfl

theorem exportRoots_of_withholds {before : List TheoremRequest}
    (hall : ∀ q' ∈ before, c.Exportable q') (hwhy : c.Withholds q cause)
    (after : List TheoremRequest) : c.exportRoots (before ++ q :: after) = .error cause := by
  induction before with
  | nil =>
    rw [List.nil_append, exportRoots, exportRoot_of_withholds hs h hwhy]
    rfl
  | cons q' before ih =>
    obtain ⟨hq', hbefore⟩ := List.forall_mem_cons.mp hall
    obtain ⟨d, -, hfirst⟩ := exportRoot_of_exportable hs h hq'
    rw [List.cons_append, exportRoots, hfirst, ih hbefore]
    rfl

theorem exportable_of_exportRoots {text : Text} (htext : c.exportRoots qs = .ok text) :
    ∀ q ∈ qs, c.Exportable q := by
  refine (c.all_exportable_or_withholds qs).resolve_right ?_
  rintro ⟨before, q, after, cause, rfl, hall, hwhy⟩
  rw [exportRoots_of_withholds hs h hall hwhy after] at htext
  cases htext

theorem exportRoots_eq_error_iff : c.exportRoots qs = .error cause ↔
    ∃ before q after, qs = before ++ q :: after ∧ (∀ q' ∈ before, c.Exportable q') ∧
      c.Withholds q cause := by
  constructor
  · intro herror
    rcases c.all_exportable_or_withholds qs with
      hall | ⟨before, q, after, cause', rfl, hall, hwhy⟩
    · obtain ⟨ds, -, hok⟩ := exportRoots_of_exportable hs h hall
      rw [hok] at herror
      cases herror
    · have hfirst := exportRoots_of_withholds hs h hall hwhy after
      rw [← Except.error.inj (hfirst.symm.trans herror)]
      exact ⟨before, q, after, rfl, hall, hwhy⟩
  · rintro ⟨before, q, after, rfl, hall, hwhy⟩
    exact exportRoots_of_withholds hs h hall hwhy after

end Requests

end Canvas

namespace Workbench

/-- After every run roots are written exactly when all of them are finished, one theorem after the
other; else the first request that is not for a finished root decides why nothing is written. -/
theorem exportRoots_run (actions : List Action) (qs : List TheoremRequest) :
    ((∃ text, (run {} actions).canvas.exportRoots qs = .ok text) ↔
      ∀ q ∈ qs, (run {} actions).canvas.Exportable q) ∧
    (∀ text, (run {} actions).canvas.exportRoots qs = .ok text →
      ∃ ds, List.Forall₂ (run {} actions).canvas.Derives qs ds ∧
        text = (List.zipWith (fun q d => Script.render q.name q.quantifiers d) qs ds).flatten) ∧
    ∀ cause, (run {} actions).canvas.exportRoots qs = .error cause ↔
      ∃ before q after, qs = before ++ q :: after ∧
        (∀ q' ∈ before, (run {} actions).canvas.Exportable q') ∧
        (run {} actions).canvas.Withholds q cause := by
  have hs := sound_run actions
  have h := rests_run actions
  refine ⟨⟨?_, fun hall => ?_⟩, fun text htext => ?_,
    fun cause => Canvas.exportRoots_eq_error_iff hs h⟩
  · rintro ⟨text, htext⟩
    exact Canvas.exportable_of_exportRoots hs h htext
  · obtain ⟨ds, -, hok⟩ := Canvas.exportRoots_of_exportable hs h hall
    exact ⟨_, hok⟩
  · have hall := Canvas.exportable_of_exportRoots hs h htext
    obtain ⟨ds, hds, hok⟩ := Canvas.exportRoots_of_exportable hs h hall
    exact ⟨ds, hds, Except.ok.inj (htext.symm.trans hok)⟩

/-- The second of two roots is a hole, so the first one is not written either. -/
example : (run {} [.command (.addConclusion "a".toList false),
      .command (.addConclusion "b".toList false),
      .command (.applyRule 3 "axiom".toList [])]).canvas.exportRoots
        [⟨6, "first".toList, []⟩, ⟨8, "second".toList, []⟩] = .error (.incomplete "b".toList) := by
  decide

end Workbench

end ProofDesk
