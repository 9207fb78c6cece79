import ProofDesk.Proofs.Canvas.Lifetime

namespace ProofDesk

namespace Forest

variable {α β : Type}

theorem find?_map (h : α → β) (p : β → Bool) (f : Forest α) :
    (f.map h).find? p = (f.find? fun a => p (h a)).map fun t => ⟨h t.value, t.below.map h⟩ := by
  induction f with
  | nil => rfl
  | cons a below rest ihb ihr =>
    by_cases ha : p (h a) = true
    · simp [map, find?, ha]
    · simp [map, find?, ha, ihb, ihr, Option.map_or]

theorem path?_map (h : α → β) (p : β → Bool) (f : Forest α) :
    (f.map h).path? p = (f.path? fun a => p (h a)).map (List.map h) := by
  induction f with
  | nil => rfl
  | cons a below rest ihb ihr =>
    by_cases ha : p (h a) = true
    · simp [map, path?, ha]
    · simp [map, path?, ha, ihb, ihr, Option.map_or, Function.comp_def]

theorem find?_append (p : α → Bool) (f g : Forest α) :
    (f.append g).find? p = (f.find? p).or (g.find? p) := by
  induction f with
  | nil => rfl
  | cons a below rest _ ih =>
    by_cases ha : p a = true
    · simp [append, find?, ha]
    · simp [append, find?, ha, ih, Option.or_assoc]

/-- With distinct marks a tree that is still found after a removal is the one found before. -/
theorem find?_of_find?_eraseTops {f : Forest α} {h : α → Nat} {k : Nat} {t : Tree α}
    {q : α → Bool} (distinct : (f.preorder.map h).Nodup)
    (ht : (f.eraseTops q).find? (fun a => h a == k) = some t) :
    f.find? (fun a => h a == k) = some t := by
  induction f with
  | nil => cases ht
  | cons a below rest _ ih =>
    simp only [preorder, List.map_cons, List.map_append] at distinct
    obtain ⟨ha, hbr⟩ := List.nodup_cons.mp distinct
    -- what is found among the other trees is neither the first value nor below it
    have later : (rest.eraseTops q).find? (fun a => h a == k) = some t →
        (cons a below rest).find? (fun a => h a == k) = some t := by
      intro hr
      have hfound := ih hbr.of_append_right hr
      obtain ⟨hm, hk⟩ := mem_preorder_of_find? hfound
      have hmem : h t.value ∈ rest.preorder.map h := List.mem_map_of_mem hm
      obtain rfl : h t.value = k := by simpa using hk
      have hne : (h a == h t.value) = false := by
        have hne' : h a ≠ h t.value := fun he => ha (he ▸ List.mem_append_right _ hmem)
        simpa using hne'
      have hbelow : below.find? (fun a => h a == h t.value) = none :=
        find?_mark_eq_none fun hb => List.disjoint_of_nodup_append hbr hb hmem
      rw [find?, hne, hbelow, hfound]
      rfl
    by_cases hq : q a = true
    · rw [eraseTops, if_pos hq] at ht
      exact later ht
    · rw [eraseTops, if_neg hq, find?] at ht
      by_cases hk : (h a == k) = true
      · rw [find?, if_pos hk]
        rwa [if_pos hk] at ht
      · rw [if_neg hk] at ht
        rcases Option.or_eq_some_iff.mp ht with hb | ⟨-, hr⟩
        · rw [find?, if_neg hk, hb]
          rfl
        · exact later hr

/-- A value that is not above the open place keeps its tree, as far as it is seen. -/
theorem Context.map_find?_fill {p : α → Bool} {e : Context α} {t t' : Tree α}
    (seen : Tree α → β) (ht : p t.value = false) (ht' : p t'.value = false)
    (hbelow : (t'.below.find? p).map seen = (t.below.find? p).map seen)
    (habove : ∀ a ∈ e.above, p a = false) :
    ((e.fill t').find? p).map seen = ((e.fill t).find? p).map seen := by
  induction e with
  | here rest => simp [fill, find?, ht, ht', Option.map_or, hbelow]
  | under a below rest ih =>
    rw [above] at habove
    have ha : p a = false := habove a (by simp)
    have hin := ih fun b hb => habove b (List.mem_append_left _ hb)
    simp [fill, find?, ha, Option.map_or, hin]
  | after a below rest ih =>
    by_cases ha : p a = true
    · simp [fill, find?, ha]
    · simp [fill, find?, ha, Option.map_or, ih habove]

/-- Every derivation is finished, seen from keys and progress. -/
def finished : Forest (Nat × Progress) → Bool
  | nil => true
  | cons mark below rest =>
    (match mark.2 with
      | .empty => false
      | .argumentsPending => below.finished
      | .hasSubtree => true) && rest.finished

theorem isSome_derivations? (f : Forest Node) :
    f.derivations?.isSome = (f.map fun n => (n.key, n.progress)).finished := by
  induction f with
  | nil => rfl
  | cons n below rest ihb ihr =>
    rw [derivations?, map, finished, ← ihb, ← ihr]
    cases hb : n.body with
    | hole => simp [Node.progress, hb]
    | gathering premises => simp [Node.progress, hb]
    | ruled rule =>
      simp only [Node.progress, hb]
      cases below.derivations? <;> cases rest.derivations? <;> rfl
    | delivered proof =>
      simp only [Node.progress, hb]
      cases rest.derivations? <;> rfl

end Forest

theorem Tree.isSome_derivation? (t : Tree Node) : t.derivation?.isSome =
    ((Forest.cons t.value t.below .nil).map fun n => (n.key, n.progress)).finished := by
  rw [← Forest.isSome_derivations?, derivation?, Forest.derivations?]
  cases t.value.body with
  | hole => rfl
  | gathering premises => rfl
  | delivered proof => rfl
  | ruled rule => cases t.below.derivations? <;> rfl

namespace Canvas

/-- The keys of the nodes and how far each one has come. -/
def marks (c : Canvas) : Forest (Nat × Progress) :=
  c.forest.map fun n => (n.key, n.progress)

/-- Whether the derivation of the node with a key is finished, if there is such a node. -/
def finished? (c : Canvas) (key : Nat) : Option Bool :=
  (c.tree? key).map fun t => t.derivation?.isSome

variable {c c' : Canvas} {key other : Nat}

theorem finished?_eq (c : Canvas) (key : Nat) : c.finished? key =
    (c.marks.find? fun mark => mark.1 == key).map fun t =>
      (Forest.cons t.value t.below .nil).finished := by
  rw [finished?, marks, Forest.find?_map, Option.map_map, tree?]
  exact congrArg (Option.map · _) (funext Tree.isSome_derivation?)

theorem finished?_congr (h : c'.marks = c.marks) (key : Nat) :
    c'.finished? key = c.finished? key := by
  rw [finished?_eq, finished?_eq, h]

theorem marks_note (c : Canvas) (e : Event) : (c.note e).marks = c.marks := rfl

theorem marks_renumber (c : Canvas) : c.renumber.marks = c.marks :=
  Forest.map_number (fun _ _ => rfl) _ _

theorem marks_changeNode (key : Nat) {g : Node → Node} (hkey : ∀ n, (g n).key = n.key)
    (hprogress : ∀ n, (g n).progress = n.progress) : (c.changeNode key g).marks = c.marks :=
  Forest.map_update_value (fun n => by rw [hkey, hprogress]) _ _

theorem marks_setConclusion (c : Canvas) (key : Nat) (conclusion : Text) :
    (c.setConclusion key conclusion).marks = c.marks := by
  rw [setConclusion]
  split
  next => rfl
  next =>
    split
    next => rfl
    next =>
      have hm := marks_changeNode (c := c) key (g := fun n => { n with conclusion })
        (fun _ => rfl) fun _ => rfl
      exact hm

theorem marks_foldl_setConclusion (c : Canvas) (pairs : List ((Nat × Text) × Option Text)) :
    (pairs.foldl (fun c ((key, _), result) =>
      match result with
      | some conclusion => c.setConclusion key conclusion
      | none => c) c).marks = c.marks := by
  induction pairs generalizing c with
  | nil => rfl
  | cons pair pairs ih =>
    obtain ⟨⟨key, old⟩, result⟩ := pair
    cases result with
    | none => exact ih c
    | some conclusion => exact (ih _).trans (marks_setConclusion c key conclusion)

theorem marks_substitute (c : Canvas) (q : SubstitutionRequest) (results : List (Option Text)) :
    (c.substitute q results).canvas.marks = c.marks := by
  rw [substitute]
  split
  next => rfl
  next => exact marks_foldl_setConclusion c _

theorem marks_pushPremise (c : Canvas) (n : Node) (premise : Text) :
    (c.pushPremise n premise).marks = c.marks := by
  rw [pushPremise, marks_note]
  refine marks_changeNode n.key (fun m => ?_) fun m => ?_
  · split <;> rfl
  · cases hb : m.body <;> simp [Node.progress, hb]

theorem map_key_lineage (c : Canvas) (key : Nat) :
    (c.lineage key).map Node.key = (c.shape.path? (· == key)).getD [] := by
  rw [lineage, shape, Forest.path?_map]
  cases c.forest.path? fun n => n.key == key <;> rfl

/-- A change at one key leaves the keys on the way up from it, and to all other keys that stay
neither finishes a derivation nor unfinishes one. -/
theorem Sound.finished?_change (hs : c.Sound) {t : Tree Node} (ht : c.tree? key = some t)
    {g : Tree Node → Tree Node} (hkey : (g t).value.key = key) :
    ((c.change key g).lineage key).map Node.key = (c.lineage key).map Node.key ∧
      ∀ other, other ∉ (c.lineage key).map Node.key →
        ((g t).below.find? fun n => n.key == other) = (t.below.find? fun n => n.key == other) →
        (c.change key g).finished? other = c.finished? other := by
  obtain ⟨e, he, hk, hleft, hu⟩ := Forest.exists_fill_of_distinct hs.distinct_keys ht
  have hchanged : (c.change key g).forest = e.fill (g t) := hu g
  have hno : ∀ a ∈ e.left, (a.key == key) = false := fun a ha => by simpa using hleft a ha
  have hl : c.lineage key = t.value :: e.above := by
    rw [lineage, he, Forest.Context.path?_fill hno (by simpa using hk), Option.getD_some]
  have hl' : (c.change key g).lineage key = (g t).value :: e.above := by
    rw [lineage, hchanged, Forest.Context.path?_fill hno (by simpa using hkey), Option.getD_some]
  refine ⟨by rw [hl, hl', List.map_cons, List.map_cons, hk, hkey], fun other hoff hbelow => ?_⟩
  rw [hl, List.map_cons, List.mem_cons, not_or, hk] at hoff
  have hne : (key == other) = false := by simpa using fun h => hoff.1 h.symm
  rw [finished?, finished?, tree?, tree?, hchanged, he]
  refine Forest.Context.map_find?_fill _ (by rwa [hk]) (by rwa [hkey]) (by rw [hbelow]) ?_
  intro a ha
  have hne' : a.key ≠ other := fun hao => hoff.2 (List.mem_map.mpr ⟨a, ha, hao⟩)
  simpa using hne'

/-- The keys of nodes that were finished or unfinished are on the way up from a key. -/
def ChangesAbove (c c' : Canvas) (key : Nat) : Prop :=
  ∀ other, c.Has other → c'.Has other → c'.finished? other ≠ c.finished? other →
    other ∈ (c'.lineage key).map Node.key

theorem Sound.exists_tree? (hs : c.Sound) (hk : c.Has key) :
    ∃ t, c.tree? key = some t ∧ t.value.key = key := by
  rw [Has, shape, Forest.preorder_map] at hk
  obtain ⟨n, hn, rfl⟩ := List.mem_map.mp hk
  obtain ⟨t, ht, hv⟩ := Option.map_eq_some_iff.mp (hs.node?_key hn)
  exact ⟨t, ht, by rw [hv]⟩

theorem keys_holes (c : Canvas) (free : Bool) (conclusions : List Text) :
    ∀ n ∈ (c.holes free conclusions).preorder, c.nextKey ≤ n.key := by
  intro n hn
  rw [holes, Forest.preorder_ofValues] at hn
  obtain ⟨⟨conclusion, i⟩, -, rfl⟩ := List.mem_map.mp hn
  exact Nat.le_add_right _ _

theorem ChangesAbove.of_marks {d : Canvas} (h : c.ChangesAbove c' key) (hm : d.marks = c'.marks)
    (hshape : d.shape = c'.shape) : c.ChangesAbove d key := by
  intro other hold hnew hchanged
  rw [Has, hshape] at hnew
  rw [finished?_congr hm] at hchanged
  rw [map_key_lineage, hshape, ← map_key_lineage]
  exact h other hold hnew hchanged

/-- What a change keeps below a node has the keys of old nodes, so a key that stays is found there
or was not there. -/
theorem Sound.changesAbove_change (hs : c.Sound) {t : Tree Node} (ht : c.tree? key = some t)
    {g : Tree Node → Tree Node} (hkey : (g t).value.key = key)
    (hbelow : ∀ n ∈ (g t).below.preorder, c.nextKey ≤ n.key) :
    c.ChangesAbove (c.change key g) key := by
  intro other hold hnew hchanged
  obtain ⟨hlineage, hsteady⟩ := hs.finished?_change ht hkey
  by_contra hoff
  rw [hlineage] at hoff
  refine hchanged (hsteady other hoff ?_)
  obtain ⟨e, he, hk, -, hu⟩ := Forest.exists_fill_of_distinct hs.distinct_keys ht
  have hlt := hs.fresh other hold
  have hfresh : other ∉ (g t).below.preorder.map Node.key := by
    intro hm
    obtain ⟨n, hn, rfl⟩ := List.mem_map.mp hm
    have hge := hbelow n hn
    omega
  have hgone : other ∉ t.below.preorder.map Node.key := by
    intro hm
    have hchangedForest : (c.change key g).forest = e.fill (g t) := hu g
    have hd := hs.distinct_keys
    rw [Has, shape, Forest.preorder_map, hchangedForest, e.preorder_fill] at hnew
    rw [he, e.preorder_fill] at hd
    simp only [List.map_append, List.map_cons, List.mem_append, List.mem_cons, hkey, hk] at hnew hd
    obtain ⟨-, hrest, hleft⟩ := List.nodup_append.mp hd
    obtain ⟨hkeyOut, hbelowRight⟩ := List.nodup_cons.mp hrest
    rcases hnew with hnew | rfl | hnew | hnew
    · exact hleft other hnew other (List.mem_cons_of_mem _ (List.mem_append_left _ hm)) rfl
    · exact hkeyOut (List.mem_append_left _ hm)
    · exact hfresh hnew
    · exact List.disjoint_of_nodup_append hbelowRight hm hnew
  rw [Forest.find?_mark_eq_none hfresh, Forest.find?_mark_eq_none hgone]

theorem Sound.changesAbove_refilled (hs : c.Sound) (hk : c.Has key) {g : Node → Node}
    (hg : ∀ n, (g n).key = n.key) (free : Bool) (premises : List Text) :
    c.ChangesAbove (c.refilled key g free premises) key := by
  obtain ⟨t, ht, hkey⟩ := hs.exists_tree? hk
  have hchange := hs.changesAbove_change ht
    (g := fun u => ⟨g u.value, c.holes free premises⟩) ((hg t.value).trans hkey)
    (keys_holes c free premises)
  refine hchange.of_marks ?_ (Forest.map_key_number _ _)
  exact marks_renumber { c.change key fun u => ⟨g u.value, c.holes free premises⟩ with
    nextKey := c.nextKey + premises.length }

theorem Sound.changesAbove_deliver (hs : c.Sound) {n : Node} (hn : n ∈ c.forest.preorder)
    (proof : Derivation) : c.ChangesAbove (c.deliver n proof) n.key := by
  have hk : c.Has n.key := key_mem_shape hn
  obtain ⟨t, ht, hkey⟩ := hs.exists_tree? hk
  have hchange := hs.finished?_change ht
    (g := fun u => ⟨{ u.value with body := .delivered proof }, u.below⟩) hkey
  have habove : c.ChangesAbove (c.changeNode n.key fun m => { m with body := .delivered proof })
      n.key := by
    intro other _ _ hchanged
    by_contra hoff
    rw [changeNode, hchange.1] at hoff
    exact hchanged (hchange.2 other hoff rfl)
  exact habove

theorem finished?_addRoot (hs : c.Sound) (hk : c.Has key) (conclusion : Text) (free : Bool)
    (body : Body) : (c.addRoot conclusion free body).2.finished? key = c.finished? key := by
  obtain ⟨t, ht, -⟩ := hs.exists_tree? hk
  let root : Node := { key := c.nextKey, conclusion, free, body }
  let d : Canvas := { c with
    forest := c.forest.append (.cons root .nil .nil), nextKey := c.nextKey + 1 }
  have hrenumbered : (c.addRoot conclusion free body).2.finished? key = d.finished? key :=
    finished?_congr (marks_renumber d) key
  have hfound : d.tree? key = c.tree? key := by
    rw [tree?, Forest.find?_append, ← tree?, ht]
    rfl
  rw [hrenumbered, finished?, finished?, hfound]

theorem finished?_removeRoot (hs : c.Sound) {id : Nat} (hk : (c.removeRoot id).canvas.Has key) :
    (c.removeRoot id).canvas.finished? key = c.finished? key := by
  rcases c.removeRoot_cases id with ⟨cause, -, hr⟩ | ⟨t, target, -, -, hr⟩
  · rw [hr]
    rfl
  · rw [hr] at hk ⊢
    let d : Canvas := { c with forest := c.forest.eraseTops fun n => n.key == t.value.key }
    have hrenumbered : (d.renumber.note (.rootRemoved t.value.conclusion)).finished? key =
        d.finished? key := finished?_congr (marks_renumber d) key
    have hstill : key ∈ d.shape.preorder := by
      rwa [Has, shape, show (d.renumber.note _).forest.map Node.key = d.shape from
        Forest.map_key_number _ _] at hk
    rw [shape, Forest.preorder_map] at hstill
    obtain ⟨n, hn, rfl⟩ := List.mem_map.mp hstill
    obtain ⟨u, hu⟩ := Forest.exists_find?_of_mem (p := fun m => m.key == n.key) hn (by simp)
    have hbefore := Forest.find?_of_find?_eraseTops hs.distinct_keys hu
    have hfound : d.tree? n.key = c.tree? n.key := hu.trans hbefore.symm
    rw [hrenumbered, finished?, finished?, hfound]

end Canvas

end ProofDesk
