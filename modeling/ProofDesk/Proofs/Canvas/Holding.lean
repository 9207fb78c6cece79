import ProofDesk.Proofs.Canvas.States
import ProofDesk.Proofs.Forest.Place

namespace ProofDesk

/-- What justifies a node, and the keys of the nodes right below it. -/
structure Holding where
  rule? : Option Text
  subtree? : Option Derivation
  children : List Nat
deriving DecidableEq

def Node.holding (n : Node) (children : List Node) : Holding :=
  ⟨n.attached?, n.subtree?, children.map Node.key⟩

namespace Forest

/-- Every key with what its node holds. -/
def holdings (f : Forest Node) : List (Nat × Holding) :=
  f.rows.map fun r => (r.1.key, r.1.holding r.2)

theorem mem_holdings_of_row {f : Forest Node} {n : Node} {children : List Node}
    (h : (n, children) ∈ f.rows) : (n.key, n.holding children) ∈ f.holdings :=
  List.mem_map.mpr ⟨(n, children), h, rfl⟩

theorem holdings_number (m : Nat) (f : Forest Node) : (f.number m).holdings = f.holdings := by
  induction f generalizing m with
  | nil => rfl
  | cons n below rest ihb ihr =>
    have hkeys : (below.number (m + 2)).tops.map Node.key = below.tops.map Node.key := by
      rw [← tops_map, map_key_number, tops_map]
    have htop : Node.holding { n with id := m } (below.number (m + 2)).tops =
        n.holding below.tops := by
      rw [Node.holding, hkeys]
      rfl
    simp only [holdings] at ihb ihr
    simp only [holdings, number, rows, List.map_cons, List.map_append, ihb, ihr, htop]

/-- After a change of trees a key holds what it held, if that is so inside the changed trees. -/
theorem mem_holdings_of_update {f : Forest Node} {k key : Nat} {g : Node → Node}
    {u : Forest Node → Forest Node} (hkey : ∀ n, (g n).key = n.key)
    (inside : ∀ n below, (n, below.tops) ∈ f.rows → below.rows ⊆ f.rows → n.key = k →
      (n.key = key → (key, (g n).holding (u below).tops) ∈ f.holdings) ∧
        ∀ r ∈ (u below).rows, r.1.key = key → (key, r.1.holding r.2) ∈ f.holdings)
    {h : Holding} (hh : (key, h) ∈
      (f.update (fun n => n.key == k) fun t => ⟨g t.value, u t.below⟩).holdings) :
    (key, h) ∈ f.holdings := by
  have hall := forall_rows_update (f := f) (p := fun n => n.key == k) (g := g) (k := u)
    (R := fun n children => n.key = key → (key, n.holding children) ∈ f.holdings)
    (fun n children hr _ hk => ?_) fun n below hr hb hp => ?_
  · obtain ⟨r, hr, he⟩ := List.mem_map.mp hh
    obtain ⟨hk, rfl⟩ := Prod.mk.inj he
    exact hall r hr hk
  · -- beside the changed trees only ids can differ, and keys of children do not
    have hchildren : (children.map fun m => if m.key == k then g m else m).map Node.key =
        children.map Node.key := by
      rw [List.map_map]
      refine List.map_congr_left fun m _ => ?_
      simp only [Function.comp_apply]
      split
      next => exact hkey m
      next => rfl
    rw [← hk, Node.holding, hchildren]
    exact mem_holdings_of_row hr
  · obtain ⟨htop, hrows⟩ := inside n below hr hb (by simpa using hp)
    exact ⟨fun hk => htop ((hkey n).symm.trans hk), hrows⟩

end Forest

namespace Canvas

/-- What the node with a key holds. -/
def holding? (c : Canvas) (key : Nat) : Option Holding :=
  (c.tree? key).map fun t => t.value.holding t.below.tops

/-- Whatever the key holds in the second canvas it held in the first. -/
def Inherits (c c' : Canvas) (key : Nat) : Prop :=
  ∀ h, (key, h) ∈ c'.forest.holdings → (key, h) ∈ c.forest.holdings

variable {c c' c'' : Canvas} {k key : Nat} {h : Holding} {t : Tree Node}

theorem Sound.mem_holdings_iff (hs : c.Sound) :
    (key, h) ∈ c.forest.holdings ↔ c.holding? key = some h := by
  have ofTree : ∀ {t}, c.tree? key = some t → (key, t.value.holding t.below.tops) ∈
      c.forest.holdings := by
    intro t ht
    obtain ⟨e, he, -, hk⟩ := Forest.exists_fill_of_find? ht
    obtain rfl : t.value.key = key := by simpa using hk
    rw [he]
    exact Forest.mem_holdings_of_row (e.row_mem_fill t)
  constructor
  · intro hm
    obtain ⟨⟨n, children⟩, hr, he⟩ := List.mem_map.mp hm
    obtain ⟨rfl, rfl⟩ := Prod.mk.inj he
    obtain ⟨t, ht⟩ := Forest.exists_find?_of_mem (p := fun m => m.key == n.key)
      (Forest.mem_preorder_of_row hr) (by simp)
    obtain ⟨⟨n', children'⟩, hr', he'⟩ := List.mem_map.mp (ofTree ht)
    obtain ⟨hk, hh⟩ := Prod.mk.inj he'
    have distinct : (c.forest.rows.map fun r => r.1.key).Nodup := by
      have hd := hs.distinct_keys
      rwa [← Forest.map_fst_rows, List.map_map] at hd
    obtain ⟨rfl, rfl⟩ := Prod.mk.inj (List.inj_on_of_nodup_map distinct hr' hr hk)
    rw [holding?, tree?, ht, Option.map_some, ← hh]
  · intro hh
    obtain ⟨t, ht, rfl⟩ := Option.map_eq_some_iff.mp hh
    exact ofTree ht

theorem exists_holding (hk : key ∈ c.shape.preorder) : ∃ h, (key, h) ∈ c.forest.holdings := by
  rw [shape, Forest.preorder_map] at hk
  obtain ⟨n, hn, rfl⟩ := List.mem_map.mp hk
  rw [← Forest.map_fst_rows] at hn
  obtain ⟨⟨n, children⟩, hr, rfl⟩ := List.mem_map.mp hn
  exact ⟨_, Forest.mem_holdings_of_row hr⟩

/-- A node that is still there holds what it held. -/
theorem Sound.holding?_of_inherits (hs : c.Sound) (hs' : c'.Sound) (hi : c.Inherits c' key)
    (hk : key ∈ c'.shape.preorder) : c'.holding? key = c.holding? key := by
  obtain ⟨h, hh⟩ := exists_holding hk
  rw [hs'.mem_holdings_iff.mp hh, hs.mem_holdings_iff.mp (hi h hh)]

section Frame

theorem Inherits.refl (c : Canvas) (key : Nat) : c.Inherits c key :=
  fun _ h => h

theorem Inherits.trans (h : c.Inherits c' key) (h' : c'.Inherits c'' key) :
    c.Inherits c'' key :=
  fun x hx => h x (h' x hx)

theorem Inherits.note (h : c.Inherits c' key) (e : Event) : c.Inherits (c'.note e) key := h

theorem Inherits.noteLineage (h : c.Inherits c' key) (k : Nat) :
    c.Inherits (c'.noteLineage k) key := h

theorem Inherits.renumber {d : Canvas} (h : c.Inherits d key) : c.Inherits d.renumber key := by
  intro x hx
  rw [Canvas.renumber, Forest.holdings_number] at hx
  exact h x hx

theorem inherits_changeNode {g : Node → Node} (hkey : ∀ n, (g n).key = n.key)
    (hsame : k = key → ∀ n, (g n).attached? = n.attached? ∧ (g n).subtree? = n.subtree?) :
    c.Inherits (c.changeNode k g) key := by
  refine fun h hh => Forest.mem_holdings_of_update (u := fun below => below) hkey
    (fun n below hr hb hn => ⟨fun hk => ?_, fun r hrow hk => ?_⟩) hh
  · obtain ⟨ha, hsub⟩ := hsame (hn.symm.trans hk) n
    rw [← hk, Node.holding, ha, hsub]
    exact Forest.mem_holdings_of_row hr
  · rw [← hk]
    exact Forest.mem_holdings_of_row (hb hrow)

theorem inherits_refilled {g : Node → Node} (hkey : ∀ n, (g n).key = n.key) (hne : k ≠ key)
    (hlt : key < c.nextKey) (free : Bool) (premises : List Text) :
    c.Inherits (c.refilled k g free premises) key := by
  refine Inherits.renumber (d := { c.change k fun t => ⟨g t.value, c.holes free premises⟩ with
    nextKey := c.nextKey + premises.length }) ?_
  refine fun h hh => Forest.mem_holdings_of_update (u := fun _ => c.holes free premises) hkey
    (fun n below hr hb hn => ⟨fun hk => absurd (hn.symm.trans hk) hne, fun r hrow hk => ?_⟩) hh
  -- the new holes have keys that were not given out before
  rw [holes, Forest.rows_ofValues] at hrow
  obtain ⟨m, hm, rfl⟩ := List.mem_map.mp hrow
  obtain ⟨⟨conclusion, i⟩, -, rfl⟩ := List.mem_map.mp hm
  have hge : c.nextKey ≤ key := hk ▸ Nat.le_add_right _ _
  omega

theorem inherits_addRoot (hlt : key < c.nextKey) (conclusion : Text) (free : Bool) (body : Body) :
    c.Inherits (c.addRoot conclusion free body).2 key := by
  refine Inherits.renumber (d := { c with
    forest := c.forest.append (.cons ⟨c.nextKey, 0, conclusion, [], free, true, body⟩ .nil .nil),
    nextKey := c.nextKey + 1 }) fun h hh => ?_
  obtain ⟨r, hr, he⟩ := List.mem_map.mp hh
  rw [Forest.rows_append] at hr
  rcases List.mem_append.mp hr with hr | hr
  · exact List.mem_map.mpr ⟨r, hr, he⟩
  · obtain rfl := List.mem_singleton.mp hr
    have hk : c.nextKey = key := congrArg Prod.fst he
    omega

theorem inherits_removeRoot (id : Nat) : c.Inherits (c.removeRoot id).canvas key := by
  rcases c.removeRoot_cases id with ⟨cause, -, hr⟩ | ⟨t, target, -, -, hr⟩
  · rw [hr]
    exact .refl c key
  · rw [hr]
    refine Inherits.renumber (d := { c with
      forest := c.forest.eraseTops fun n => n.key == t.value.key }) fun h hh => ?_
    obtain ⟨r, hm, he⟩ := List.mem_map.mp hh
    exact List.mem_map.mpr ⟨r, Forest.rows_eraseTops_subset _ _ hm, he⟩

theorem inherits_setName (id : Nat) (name : Text) :
    c.Inherits (c.setName id name).canvas key := by
  rcases c.setName_cases id name with ⟨cause, -, hr⟩ | ⟨t, target, -, hr⟩
  · rw [hr]
    exact .refl c key
  · rw [hr]
    exact inherits_changeNode (fun _ => rfl) fun _ _ => ⟨rfl, rfl⟩

theorem inherits_toggle (id : Nat) : c.Inherits (c.toggle id).canvas key := by
  rcases c.toggle_cases id with ⟨cause, -, hr⟩ | ⟨t, target, -, hr⟩
  · rw [hr]
    exact .refl c key
  · rw [hr]
    exact inherits_changeNode (fun _ => rfl) fun _ _ => ⟨rfl, rfl⟩

theorem inherits_pushPremise (n : Node) (premise : Text) :
    c.Inherits (c.pushPremise n premise) key := by
  refine (inherits_changeNode (fun m => ?_) fun _ m => ?_).note _
  · split <;> rfl
  · split
    next premises hb => simp [Node.attached?, Node.subtree?, hb]
    next => exact ⟨rfl, rfl⟩

theorem inherits_dropPremise (id : Nat) (premise : Text) :
    c.Inherits (c.dropPremise id premise).canvas key := by
  rcases c.dropPremise_cases id premise with ⟨cause, -, hr⟩ | ⟨t, target, -, -, -, hr⟩
  · rw [hr]
    exact .refl c key
  · rw [hr]
    exact inherits_pushPremise _ _

theorem inherits_setConclusion (k : Nat) (conclusion : Text) :
    c.Inherits (c.setConclusion k conclusion) key := by
  rw [setConclusion]
  split
  next => exact .refl c key
  next =>
    split
    next => exact .refl c key
    next => exact (inherits_changeNode (fun _ => by rfl) fun _ _ => ⟨by rfl, by rfl⟩).note _

theorem inherits_foldl_setConclusion (pairs : List ((Nat × Text) × Option Text)) :
    c.Inherits (pairs.foldl (fun c ((key, _), result) =>
      match result with
      | some conclusion => c.setConclusion key conclusion
      | none => c) c) key := by
  induction pairs generalizing c with
  | nil => exact .refl c key
  | cons pair pairs ih =>
    obtain ⟨⟨k, old⟩, result⟩ := pair
    cases result with
    | none => exact ih
    | some conclusion => exact (inherits_setConclusion k conclusion).trans ih

theorem inherits_substitute (q : SubstitutionRequest) (results : List (Option Text)) :
    c.Inherits (c.substitute q results).canvas key := by
  rw [substitute]
  split
  next => exact .refl c key
  next => exact inherits_foldl_setConclusion _

end Frame

/-- The node of a changed tree holds what the change gave it. -/
theorem Sound.mem_holdings_change (hs : c.Sound) (ht : c.tree? key = some t)
    {u : Tree Node → Tree Node} (hk : (u t).value.key = key) :
    (key, (u t).value.holding (u t).below.tops) ∈ (c.change key u).forest.holdings := by
  obtain ⟨e, -, -, -, hu⟩ := Forest.exists_fill_of_distinct hs.distinct_keys ht
  rw [change, hu u, ← hk]
  exact Forest.mem_holdings_of_row (e.row_mem_fill _)

theorem Sound.mem_holdings_refilled (hs : c.Sound) (ht : c.tree? key = some t) {g : Node → Node}
    (hkey : ∀ n, (g n).key = n.key) (free : Bool) (premises : List Text) :
    (key, ⟨(g t.value).attached?, (g t.value).subtree?, List.range' c.nextKey premises.length⟩) ∈
      (c.refilled key g free premises).forest.holdings := by
  have hm := hs.mem_holdings_change ht (u := fun t => ⟨g t.value, c.holes free premises⟩)
    ((hkey _).trans (mem_of_tree? ht).2)
  have hholes : (c.holes free premises).tops.map Node.key =
      List.range' c.nextKey premises.length := by
    rw [holes, Forest.tops_ofValues, List.map_map]
    refine List.ext_getElem (by simp) fun i hi hj => ?_
    simp
  simp only [Node.holding, hholes] at hm
  rw [refilled, renumber, Forest.holdings_number]
  exact hm

section Settling

variable {q : RuleRequest} {r : TopDownRequest} {premises : List Text} {conclusion : Text}
  {id : Nat} {target : Target}

theorem Sound.mem_holdings_attachRule (hs : c.Sound)
    (hok : (c.attachRule q premises).answer = .ok ()) :
    (q.key, ⟨some q.rule, none, List.range' c.nextKey premises.length⟩) ∈
      (c.attachRule q premises).canvas.forest.holdings := by
  rcases c.attachRule_cases q premises with hr | ⟨n, c', children, hn, -, -, hc, -, hr⟩
  · rw [hr] at hok
    cases hok
  · obtain ⟨t, ht, -⟩ := Option.map_eq_some_iff.mp hn
    rw [hr, hc]
    exact hs.mem_holdings_refilled ht
      (g := fun m => { m with body := .ruled q.rule, expanded := true }) (fun _ => rfl) _ _

theorem inherits_attachRule (hlt : key < c.nextKey)
    (hne : (c.attachRule q premises).answer = .ok () → q.key ≠ key) :
    c.Inherits (c.attachRule q premises).canvas key := by
  rcases c.attachRule_cases q premises with hr | ⟨n, c', children, -, -, -, hc, -, hr⟩
  · rw [hr]
    exact .refl c key
  · have hq : q.key ≠ key := hne (congrArg Outcome.answer hr)
    have hi : c.Inherits c' key := by
      rw [hc]
      exact inherits_refilled (fun _ => by rfl) hq hlt _ _
    rw [hr]
    exact (hi.note _).noteLineage _

theorem Sound.mem_holdings_promote (hs : c.Sound)
    (hok : (c.promote r conclusion).answer = .ok ()) :
    (r.key, ⟨some r.rule, none, List.range' c.nextKey r.premises.length⟩) ∈
      (c.promote r conclusion).canvas.forest.holdings := by
  rcases c.promote_cases r conclusion with hr | ⟨n, c', hn, -, hc, hr⟩
  · rw [hr] at hok
    cases hok
  · obtain ⟨t, ht, -⟩ := Option.map_eq_some_iff.mp hn
    rw [hr, hc]
    exact hs.mem_holdings_refilled ht
      (g := fun m => { m with conclusion, body := .ruled r.rule }) (fun _ => rfl) _ _

theorem inherits_promote (hlt : key < c.nextKey)
    (hne : (c.promote r conclusion).answer = .ok () → r.key ≠ key) :
    c.Inherits (c.promote r conclusion).canvas key := by
  rcases c.promote_cases r conclusion with hr | ⟨n, c', -, -, hc, hr⟩
  · rw [hr]
    exact .refl c key
  · have hq : r.key ≠ key := hne (congrArg Outcome.answer hr)
    have hi : c.Inherits c' key := by
      rw [hc]
      exact inherits_refilled (fun _ => by rfl) hq hlt _ _
    rw [hr]
    exact (hi.note _).noteLineage _

theorem Sound.mem_holdings_deleteRule (hs : c.Sound) (ht : c.resolve? id = some (t, target))
    (hp : t.value.progress ≠ .empty) :
    (t.value.key, ⟨none, none, []⟩) ∈ (c.deleteRule id).canvas.forest.holdings := by
  obtain ⟨c', hc, hr⟩ := deleteRule_of_progress ht hp
  rw [hr, hc]
  exact hs.mem_holdings_refilled (hs.tree?_of_resolve? ht)
    (g := fun m => { m with body := .hole }) (fun _ => rfl) _ _

theorem inherits_deleteRule (hlt : key < c.nextKey)
    (hne : ∀ t target, c.resolve? id = some (t, target) → t.value.progress ≠ .empty →
      t.value.key ≠ key) : c.Inherits (c.deleteRule id).canvas key := by
  rcases c.deleteRule_cases id with ⟨-, hr⟩ | ⟨t, target, ht, ⟨-, hr⟩ | ⟨hp, c', hc, hr⟩⟩
  · rw [hr]
    exact .refl c key
  · rw [hr]
    exact .refl c key
  · have hi : c.Inherits c' key := by
      rw [hc]
      exact inherits_refilled (fun _ => by rfl) (hne t target ht hp) hlt _ _
    rw [hr]
    exact (hi.note _).noteLineage _

/-- A derivation that is delivered takes the place of nothing. -/
theorem Sound.mem_holdings_deliver (hs : c.Sound) (ht : c.resolve? id = some (t, target))
    (proof : Derivation) : (t.value.key, ⟨none, some proof, t.below.tops.map Node.key⟩) ∈
      (c.deliver t.value proof).forest.holdings := by
  exact hs.mem_holdings_change (hs.tree?_of_resolve? ht)
    (u := fun t => ⟨{ t.value with body := .delivered proof }, t.below⟩) rfl

end Settling

end Canvas

end ProofDesk
