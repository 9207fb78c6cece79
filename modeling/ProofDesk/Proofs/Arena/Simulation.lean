import ProofDesk.Arena.Bench
import ProofDesk.Proofs.Arena.Stores

namespace ProofDesk

namespace Arena

/-- An edit of an arena ends, answers as the edit of the canvas and leaves the arena of the canvas
that this leaves. -/
def Follows {α : Type} (r : Option (Reply α)) (o : Outcome α) : Prop :=
  ∃ a : Arena, r = some (o.answer, a) ∧ a.Stores o.canvas

/-- A key of a list with distinct keys is found, and its place is the one to erase. -/
theorem exists_findIdx?_of_mem {keys : List Nat} {key : Nat} (distinct : keys.Nodup)
    (hk : key ∈ keys) :
    ∃ index, (keys.findIdx? fun k => k == key) = some index ∧
      keys.eraseIdx index = keys.filter fun k => !(k == key) := by
  cases hi : keys.findIdx? fun k => k == key with
  | none => simpa using List.findIdx?_eq_none_iff.mp hi key hk
  | some index =>
    have herase := List.erase_eq_eraseIdx keys key
    have hidx : keys.idxOf? key = some index := hi
    rw [distinct.erase_eq_filter, hidx] at herase
    exact ⟨index, rfl, herase.symm⟩

variable {a : Arena} {c : Canvas} {key : Nat} {t : Tree Node}

theorem Stores.refuse {α : Type} (h : a.Stores c) (cause : Refusal) :
    Follows (a.refuse cause : Option (Reply α)) (c.refuse cause) :=
  ⟨a, rfl, h⟩

section Slots

/-- A change of the tree of one key changes its slot and those below it. -/
theorem exists_slots_change (hs : c.Sound) (ht : c.tree? key = some t) {k : Tree Node → Tree Node}
    (hk : (k t).value.key = t.value.key) :
    ∃ l r, c.forest.slots = l ++ (key, t.value.slot t.below.tops) :: (t.below.slots ++ r) ∧
      (c.change key k).forest.slots =
        l ++ (key, (k t).value.slot (k t).below.tops) :: ((k t).below.slots ++ r) ∧
      (c.change key k).roots = c.roots := by
  obtain ⟨e, he, hkey, -, hu⟩ := Forest.exists_fill_of_distinct hs.distinct_keys ht
  obtain ⟨l, r, hl, hr⟩ := e.exists_slots_fill hk
  rw [← he] at hl
  rw [← hu, hkey] at hr
  rw [hkey] at hl
  refine ⟨l, r, hl, hr, ?_⟩
  rw [Canvas.roots, Canvas.change, hu, e.map_tops_fill hk, ← he]
  rfl

theorem map_key_tops_holes (c : Canvas) (free : Bool) (premises : List Text) :
    (c.holes free premises).tops.map Node.key = List.range' c.nextKey premises.length := by
  rw [Canvas.holes, Forest.tops_ofValues, List.map_map, ← map_fst_placeholders _ free, placeholders,
    List.map_map]
  rfl

theorem exists_slots_refilled (hs : c.Sound) (ht : c.tree? key = some t) {g : Node → Node}
    (hg : ∀ n, (g n).key = n.key) (free : Bool) (premises : List Text) :
    ∃ l r, c.forest.slots = l ++ (key, t.value.slot t.below.tops) :: (t.below.slots ++ r) ∧
      (c.refilled key g free premises).forest.slots =
        l ++ (key, { (g t.value).payload with
          children := List.range' c.nextKey premises.length }) ::
          (placeholders c.nextKey free premises ++ r) ∧
      (c.refilled key g free premises).roots = c.roots := by
  obtain ⟨l, r, hl, hr, hroots⟩ := exists_slots_change hs ht
    (k := fun t => ⟨g t.value, c.holes free premises⟩) (hg t.value)
  refine ⟨l, r, hl, ?_, ?_⟩
  · rw [Canvas.refilled, Canvas.renumber, Forest.slots_number, hr, Node.slot, map_key_tops_holes,
      slots_holes]
  · rw [← hroots]
    have hmap := congrArg Forest.tops (Forest.map_key_number c.nextId
      (c.change key fun t => ⟨g t.value, c.holes free premises⟩).forest)
    rw [Forest.tops_map, Forest.tops_map] at hmap
    exact hmap

end Slots

namespace Stores

variable (h : a.Stores c) (hs : c.Sound)

include h hs

theorem changeNode (ht : c.tree? key = some t) {g : Node → Node} {f : Slot → Slot}
    (hkey : ∀ n, (g n).key = n.key) (hid : ∀ n, (g n).id = n.id)
    (hf : f (t.value.slot t.below.tops) = (g t.value).slot t.below.tops) :
    (a.edit key f).Stores (c.changeNode key g) := by
  obtain ⟨l, r, hl, hr, hroots⟩ := exists_slots_change hs ht
    (k := fun t => ⟨g t.value, t.below⟩) (hkey t.value)
  have hnodes : Lists a.nodes (l ++ (key, t.value.slot t.below.tops) :: (t.below.slots ++ r)) :=
    hl ▸ h.nodes
  have hmarks : ∀ mark : Node → Nat × Nat, (∀ n, mark (g n) = mark n) →
      (c.changeNode key g).forest.preorder.map mark = c.forest.preorder.map mark := by
    intro mark hmark
    have hmap := congrArg Forest.preorder
      (Forest.map_update_value hmark (fun n => n.key == key) c.forest)
    rwa [Forest.preorder_map, Forest.preorder_map] at hmap
  refine ⟨⟨?_, h.nextKey, h.roots.trans hroots.symm, h.nextId, h.events⟩, ?_, ?_⟩
  · have hmodify := hnodes.modify f
    rw [hf] at hmodify
    exact hr ▸ hmodify
  · rw [hmarks _ fun n => by rw [hkey, hid]]
    exact h.ids.byId
  · rw [hmarks _ fun n => by rw [hkey, hid]]
    exact h.ids.byKey

/-- The arena with the slots of a refilled canvas is mounted as that canvas is. -/
theorem exists_mount_refilled (ht : c.tree? key = some t) {g : Node → Node}
    (hg : ∀ n, (g n).key = n.key) {free : Bool} {premises : List Text}
    (hsound : (c.refilled key g free premises).Sound) {nodes : Std.HashMap Nat Slot}
    (hn : Lists nodes (c.refilled key g free premises).forest.slots) :
    ∃ a', { a with nodes, nextKey := a.nextKey + premises.length }.mount = some a' ∧
      a'.Stores (c.refilled key g free premises) := by
  let before : Canvas := { c.change key fun t => ⟨g t.value, c.holes free premises⟩ with
    nextKey := c.nextKey + premises.length }
  have hkeys : before.renumber.forest.map Node.key = before.forest.map Node.key :=
    Forest.map_key_number _ _
  have hdistinct : (before.forest.preorder.map Node.key).Nodup := by
    rw [← Forest.preorder_map, ← hkeys, Forest.preorder_map]
    exact hsound.distinct_keys
  refine Carries.exists_mount (c := before) ⟨?_, ?_, ?_, h.nextId, h.events⟩ hdistinct
  · rwa [Canvas.refilled, Canvas.renumber, Forest.slots_number] at hn
  · exact congrArg (· + premises.length) h.nextKey
  · obtain ⟨-, -, -, -, hroots⟩ := exists_slots_refilled hs ht hg free premises
    have htops := congrArg Forest.tops hkeys
    rw [Forest.tops_map, Forest.tops_map] at htops
    exact h.roots.trans (hroots.symm.trans htops)

/-- The arena with the slots of a refilled canvas is mounted and told of as that canvas is. -/
theorem exists_announce (ht : c.tree? key = some t) {g : Node → Node}
    (hg : ∀ n, (g n).key = n.key) {free : Bool} {premises : List Text} {c' : Canvas}
    (hc : c' = c.refilled key g free premises) {nodes : Std.HashMap Nat Slot}
    (hn : Lists nodes c'.forest.slots) (w : Walk) (own : Nat → List Nat → Event) :
    ∃ a', { a with nodes, nextKey := a.nextKey + premises.length }.announce w key (fun a₁ =>
        own (a₁.mountId key) ((List.range' a.nextKey premises.length).map a₁.mountId)) =
          some (.ok (), a') ∧
      a'.Stores ((c'.note (own (c'.idOf key)
        (((c'.tree? key).map fun t => t.below.tops.map Node.id).getD []))).noteLineage key) := by
  subst hc
  generalize hc : c.refilled key g free premises = c' at hn ⊢
  have hlive : key ∈ c.shape.preorder := by
    obtain ⟨hm, hk⟩ := Canvas.mem_of_tree? ht
    exact hk ▸ Canvas.key_mem_shape hm
  have hsound : c'.Sound := hc ▸ hs.reshapes (c.reshapes_refilled hlive hg free premises)
  obtain ⟨a₁, hmount, hstores⟩ := h.exists_mount_refilled hs ht hg (hc ▸ hsound) (hc ▸ hn)
  rw [hc] at hstores
  have hslot : a₁.nodes[key]? = some { (g t.value).payload with
      children := List.range' c.nextKey premises.length } := by
    obtain ⟨l, r, -, hslots, -⟩ := exists_slots_refilled hs ht hg free premises
    rw [hc] at hslots
    refine hstores.nodes.getElem?_iff.mpr ?_
    rw [hslots]
    exact List.mem_append_right l List.mem_cons_self
  rw [hstores.getElem?_eq key] at hslot
  obtain ⟨u, hu, hslot⟩ := Option.map_eq_some_iff.mp hslot
  have hchildren : u.below.tops.map Node.key = List.range' a.nextKey premises.length := by
    rw [h.nextKey]
    exact congrArg Slot.children hslot
  have hlive' : key ∈ c'.shape.preorder := by
    obtain ⟨hm, hk⟩ := Canvas.mem_of_tree? hu
    exact hk ▸ Canvas.key_mem_shape hm
  let e := own (c'.idOf key) (((c'.tree? key).map fun t => t.below.tops.map Node.id).getD [])
  have hnoted : (c'.note e).Sound := hsound.keeps ((Canvas.Keeps.refl c').note _)
  obtain ⟨a₂, hnotify, hstores'⟩ := (hstores.note e).exists_notifyAncestors hnoted w hlive'
  refine ⟨a₂, ?_, hstores'⟩
  have hown : own (a₁.mountId key) ((List.range' a.nextKey premises.length).map a₁.mountId) = e := by
    rw [hstores.mountId_eq hsound, ← hchildren, hstores.map_mountId_tops hsound hu]
    simp only [e, hu, Option.map_some, Option.getD_some]
  rw [announce, hmount]
  simp only [Option.bind_eq_bind, Option.bind_some]
  rw [hown, hnotify]
  rfl

theorem setName (id : Nat) (name : Text) :
    Follows (some (a.setName id name)) (c.setName id name) := by
  rw [Arena.setName, Canvas.setName, h.resolve?_eq hs]
  cases hr : c.resolve? id with
  | none => exact h.refuse _
  | some r =>
    have ht : c.tree? r.1.value.key = some r.1 := hs.tree?_of_resolve? hr
    exact ⟨_, rfl, h.changeNode hs ht (g := fun n => { n with name }) (fun _ => rfl)
      (fun _ => rfl) rfl⟩

theorem toggle (id : Nat) : Follows (some (a.toggle id)) (c.toggle id) := by
  rw [Arena.toggle, Canvas.toggle, h.resolve?_eq hs]
  cases hr : c.resolve? id with
  | none => exact h.refuse _
  | some r =>
    have ht : c.tree? r.1.value.key = some r.1 := hs.tree?_of_resolve? hr
    simp only [Option.map_some, (h.tree ht).1]
    exact ⟨_, rfl, h.changeNode hs ht (g := fun n => { n with expanded := !r.1.value.expanded })
      (fun _ => rfl) (fun _ => rfl) rfl⟩

theorem requestRule (id : Nat) (rule : Text) : a.requestRule id rule = c.requestRule id rule := by
  rw [Arena.requestRule, Canvas.requestRule, h.resolve?_eq hs]
  cases hr : c.resolve? id with
  | none => rfl
  | some r =>
    obtain ⟨t, target⟩ := r
    cases target with
    | copy => rfl
    | rule =>
      simp only [Option.map_some, (h.tree (hs.tree?_of_resolve? hr)).1, Node.isTopDown_slot,
        Node.conclusion_slot]

theorem requestTopDown (id : Nat) (rule : Text) (arity : Option Nat) :
    a.requestTopDown id rule arity = c.requestTopDown id rule arity := by
  rw [Arena.requestTopDown, Canvas.requestTopDown, h.resolve?_eq hs]
  cases hr : c.resolve? id with
  | none => rfl
  | some r =>
    obtain ⟨t, target⟩ := r
    cases target with
    | copy => rfl
    | rule =>
      simp only [Option.map_some, (h.tree (hs.tree?_of_resolve? hr)).1, Node.gathered?_slot]
      cases hb : t.value.body with
      | gathering premises =>
        cases arity with
        | none => simp [Node.gathered?, hb]
        | some expected => by_cases he : expected = premises.length <;> simp [Node.gathered?, hb, he]
      | _ => simp [Node.gathered?, hb]

theorem pushPremise (ht : c.tree? key = some t) (htop : t.value.isTopDown = true)
    (premise : Text) :
    Follows (a.pushPremise key premise) ⟨.ok (), c.pushPremise t.value premise⟩ := by
  obtain ⟨hm, hk⟩ := Canvas.mem_of_tree? ht
  obtain ⟨premises, hb⟩ := Node.isTopDown_iff.mp htop
  have hgathered : t.value.gathered? = some premises := by rw [Node.gathered?, hb]
  have hid : a.mountId key = t.value.id := hk ▸ h.mountId_of_mem hs hm
  rw [Arena.pushPremise, (h.tree ht).1]
  simp only [Option.bind_some, Node.gathered?_slot, hgathered]
  refine ⟨_, rfl, ?_⟩
  rw [Canvas.pushPremise, hk, ← hid]
  refine Stores.note (h.changeNode hs ht (fun n => ?_) (fun n => ?_) ?_) _
  · cases n.body <;> rfl
  · cases n.body <;> rfl
  · simp [hb, Node.slot, Node.payload, Node.attached?, Node.subtree?, Node.gathered?]

theorem dropPremise (id : Nat) (premise : Text) :
    Follows (a.dropPremise id premise) (c.dropPremise id premise) := by
  rw [Arena.dropPremise, Canvas.dropPremise, h.resolve?_eq hs]
  cases hr : c.resolve? id with
  | none => exact h.refuse _
  | some r =>
    have ht : c.tree? r.1.value.key = some r.1 := hs.tree?_of_resolve? hr
    simp only [Option.map_some, (h.tree ht).1, Option.any_some, Node.isTopDown_slot]
    cases htop : r.1.value.isTopDown with
    | false => exact h.refuse _
    | true =>
      cases Text.isBlankText premise with
      | true => exact h.refuse _
      | false => exact h.pushPremise hs ht htop _

theorem deliver (ht : c.tree? key = some t) (hhole : t.value.body = .hole) (w : Walk)
    (proof : Derivation) :
    ∃ a', a.deliver w key proof = some a' ∧ a'.Stores (c.deliver t.value proof) := by
  obtain ⟨hm, hk⟩ := Canvas.mem_of_tree? ht
  have hedit := h.changeNode hs ht (g := fun n => { n with body := .delivered proof })
    (f := fun s => { s with rule? := none, subtree? := some proof })
    (fun _ => rfl) (fun _ => rfl) (by
      simp [hhole, Node.slot, Node.payload, Node.attached?, Node.subtree?, Node.gathered?])
  have hkeeps : c.Keeps (c.changeNode key fun n => { n with body := .delivered proof }) :=
    c.keeps_changeNode key (fun _ => rfl) fun _ => rfl
  have hid : a.mountId key = t.value.id := hk ▸ h.mountId_of_mem hs hm
  have hnoted := hs.keeps (hkeeps.note (.subtreeDelivered t.value.id proof))
  have hlive : key ∈ ((c.changeNode key fun n => { n with body := .delivered proof }).note
      (.subtreeDelivered t.value.id proof)).shape.preorder := by
    rw [(hkeeps.note _).shape]
    exact hk ▸ Canvas.key_mem_shape hm
  obtain ⟨a', ha, hstores⟩ := (hedit.note (.subtreeDelivered t.value.id proof)).exists_notifyAncestors
    hnoted w hlive
  refine ⟨a', ?_, ?_⟩
  · rw [Arena.deliver]
    rw [← hid] at ha
    exact ha
  · rw [Canvas.deliver, hk]
    exact hstores

theorem dropCopy (w : Walk) (target source : Nat) :
    Follows (a.dropCopy w target source) (c.dropCopy target source) := by
  rw [Arena.dropCopy, Canvas.dropCopy, h.resolve?_eq hs]
  cases hr : c.resolve? target with
  | none => exact h.refuse _
  | some r =>
    obtain ⟨t, place⟩ := r
    cases place with
    | rule => exact h.refuse _
    | copy =>
      simp only [Option.map_some, h.resolve?_eq hs]
      cases hr' : c.resolve? source with
      | none => exact h.refuse _
      | some r' =>
        obtain ⟨s, place⟩ := r'
        have ht := hs.tree?_of_resolve? hr
        have hsource := hs.tree?_of_resolve? hr'
        simp only [Option.map_some, (h.tree ht).1, (h.tree hsource).1, Node.isTopDown_slot,
          Node.progress_slot, Node.conclusion_slot]
        by_cases hsame : s.value.key = t.value.key
        · rw [if_pos hsame, if_pos hsame]
          exact h.refuse _
        rw [if_neg hsame, if_neg hsame]
        by_cases htop : t.value.isTopDown = true
        · rw [if_pos htop, if_pos htop]
          by_cases hblank : Text.isBlankText s.value.conclusion = true
          · rw [if_pos hblank, if_pos hblank]
            exact h.refuse _
          · rw [if_neg hblank, if_neg hblank]
            exact h.pushPremise hs ht htop _
        rw [if_neg htop, if_neg htop]
        by_cases hempty : t.value.progress = .empty
        · rw [if_neg (not_not.mpr hempty), if_neg (not_not.mpr hempty)]
          by_cases htrim : s.value.conclusion.trim = t.value.conclusion.trim
          · rw [if_neg (not_not.mpr htrim), if_neg (not_not.mpr htrim)]
            have hhole : t.value.body = .hole := by
              cases hb : t.value.body <;>
                simp [Node.isTopDown, Node.progress, hb] at htop hempty ⊢
            rw [h.derivationOf?_eq hsource]
            cases hd : s.derivation? with
            | none =>
              have hid := h.mountId_of_mem hs (Canvas.mem_of_tree? ht).1
              refine ⟨_, rfl, ?_⟩
              rw [hid]
              exact h.note _
            | some proof =>
              obtain ⟨a', ha, hstores⟩ := h.deliver hs ht hhole w proof
              refine ⟨a', ?_, hstores⟩
              simp only [Option.bind_eq_bind, Option.bind_some, ha]
              rfl
          · rw [if_pos htrim, if_pos htrim]
            exact h.refuse _
        · rw [if_pos hempty, if_pos hempty]
          exact h.refuse _

theorem lt_nextKey {l r : List (Nat × Slot)} {s s' : Slot}
    (hl : c.forest.slots = l ++ (key, s) :: r) {r' : List (Nat × Slot)} (hr : r'.Sublist r) :
    ∀ k ∈ (l ++ (key, s') :: r').map Prod.fst, k < a.nextKey := by
  intro k hk
  have hsub : ((l ++ (key, s') :: r').map Prod.fst).Sublist (c.forest.slots.map Prod.fst) := by
    rw [hl, List.map_append, List.map_append, List.map_cons, List.map_cons]
    exact ((hr.map Prod.fst).cons_cons key).append_left _
  have hm := hsub.subset hk
  rw [Forest.map_fst_slots] at hm
  obtain ⟨n, hn, rfl⟩ := List.mem_map.mp hm
  rw [h.nextKey]
  exact hs.fresh _ (Canvas.key_mem_shape hn)

theorem addRoot (conclusion : Text) (free : Bool) (body : Body) {s : Slot}
    (hslot : s = Node.slot ⟨c.nextKey, 0, conclusion, [], free, true, body⟩ []) :
    ∃ a', (a.insert s).2.addRoot (a.insert s).1 =
        some ((c.addRoot conclusion free body).1, a') ∧
      a'.Stores (c.addRoot conclusion free body).2 := by
  let node : Node := ⟨c.nextKey, 0, conclusion, [], free, true, body⟩
  let before : Canvas := { c with
    forest := c.forest.append (.cons node .nil .nil), nextKey := c.nextKey + 1 }
  have hsound : before.renumber.Sound :=
    (hs.reshapes (c.reshapes_addRoot conclusion free body)).keeps ⟨rfl, rfl, rfl, rfl⟩
  have hdistinct : (before.forest.preorder.map Node.key).Nodup := by
    have hkeys := hsound.distinct_keys
    rwa [Canvas.renumber, ← Forest.preorder_map, Forest.map_key_number,
      Forest.preorder_map] at hkeys
  have hnew : a.nextKey ∉ (c.forest.slots ++ []).map Prod.fst := by
    rw [List.append_nil, Forest.map_fst_slots, h.nextKey]
    intro hm
    obtain ⟨n, hn, hk⟩ := List.mem_map.mp hm
    exact Nat.lt_irrefl _ (hk ▸ hs.fresh _ (Canvas.key_mem_shape hn))
  have hnodes : Lists a.nodes (c.forest.slots ++ []) := by
    rw [List.append_nil]
    exact h.nodes
  have hcarries : { (a.insert s).2 with roots := a.roots ++ [(a.insert s).1] }.Carries before := by
    refine ⟨?_, congrArg (· + 1) h.nextKey, ?_, h.nextId, h.events⟩
    · have hinsert := hnodes.insert hnew s
      rw [hslot, h.nextKey] at hinsert
      simpa [before, node, insert, hslot, h.nextKey, Forest.tops] using hinsert
    · simp [before, node, insert, Canvas.roots, Forest.tops, ← h.nextKey, h.roots]
  obtain ⟨a₁, hmount, hstores⟩ := hcarries.exists_mount hdistinct
  have hid : a₁.mountId (a.insert s).1 = before.renumber.idOf node.key := by
    rw [hstores.mountId_eq hsound]
    exact congrArg before.renumber.idOf h.nextKey
  refine ⟨_, ?_, hstores.note _⟩
  rw [Arena.addRoot]
  change (Option.bind ({ (a.insert s).2 with
    roots := a.roots ++ [(a.insert s).1] } : Arena).mount _) = _
  rw [hmount, Option.bind_some, hid]
  rfl

theorem removeRoot (id : Nat) : Follows (a.removeRoot id) (c.removeRoot id) := by
  rw [Arena.removeRoot, Canvas.removeRoot, h.resolve?_eq hs]
  cases hr : c.resolve? id with
  | none => exact h.refuse _
  | some r =>
    have ht : c.tree? r.1.value.key = some r.1 := hs.tree?_of_resolve? hr
    simp only [Option.map_some]
    generalize r.1.value.key = key at ht ⊢
    rw [h.roots]
    by_cases hroot : key ∈ c.roots
    · obtain ⟨i, t', hti, htk, herase⟩ :=
        Forest.exists_position_of_distinct hs.distinct_roots hroot
      obtain ⟨l, r', hl, hr'⟩ := Forest.exists_slots_eraseAt hti
      let before : Canvas := { c with forest := c.forest.eraseTops fun n => n.key == key }
      have hany : (c.forest.tops.any fun n => n.key == key) = true := by
        obtain ⟨n, hn, hk⟩ := List.mem_map.mp hroot
        exact List.any_eq_true.mpr ⟨n, hn, by simpa using hk⟩
      obtain ⟨index, hindex, hleft⟩ := exists_findIdx?_of_mem hs.distinct_roots hroot
      have hnodes : Lists a.nodes (l ++ ((Forest.cons t'.value t'.below .nil).slots ++ r')) :=
        hl ▸ h.nodes
      obtain ⟨nodes, hn, hrelease⟩ := exists_releaseFrom [] hnodes
      have hcarries : { a with nodes, roots := c.roots.eraseIdx index }.Carries before := by
        refine ⟨?_, h.nextKey, ?_, h.nextId, h.events⟩
        · simpa [before, herase, hr'] using hn
        · rw [hleft, Canvas.roots, Canvas.roots, Forest.tops_eraseTops, List.filter_map]
          rfl
      have hdistinct : (before.forest.preorder.map Node.key).Nodup :=
        hs.distinct_keys.sublist ((Forest.preorder_eraseTops_sublist _ _).map _)
      obtain ⟨a₁, hmount, hstores⟩ := hcarries.exists_mount hdistinct
      have hgone : releaseFrom a.nodes [key] = nodes := by
        rw [List.append_nil, releaseFrom.eq_1] at hrelease
        rw [← hrelease, ← htk]
        rfl
      refine ⟨a₁.note (.rootRemoved r.1.value.conclusion), ?_, ?_⟩
      · rw [if_pos hany, hindex]
        simp only [(h.tree ht).1, Option.map_some, Option.getD_some, Node.conclusion_slot, release,
          hgone, hmount]
        rfl
      · rw [if_pos hany]
        exact hstores.note _
    · have hany : (c.forest.tops.any fun n => n.key == key) = false := by
        refine List.any_eq_false.mpr fun n hn => ?_
        have hne : n.key ≠ key := fun hk => hroot (hk ▸ List.mem_map_of_mem hn)
        simpa using hne
      have hindex : (c.roots.findIdx? fun k => k == key) = none := by
        refine List.findIdx?_eq_none_iff.mpr fun k hk => ?_
        have hne : k ≠ key := fun he => hroot (he ▸ hk)
        simpa using hne
      rw [hany, hindex]
      exact h.refuse _

/-- Nothing is released where premises are gathered: there is nothing below such a node. -/
theorem exists_nodes_promoted (hr : c.Rests) (ht : c.tree? key = some t) {premises : List Text}
    (hbody : t.value.body = .gathering premises) (conclusion rule : Text) :
    ∃ nodes, ((a.plant t.value.free premises).2.edit key fun s => { s with
        gathered? := none, conclusion, rule? := some rule, subtree? := none,
        children := (a.plant t.value.free premises).1 }) =
          { a with nodes, nextKey := a.nextKey + premises.length } ∧
      Lists nodes (c.refilled key (fun n => { n with conclusion, body := .ruled rule })
        t.value.free premises).forest.slots := by
  obtain ⟨l, r, hl, hslots, -⟩ := exists_slots_refilled hs ht
    (g := fun n => { n with conclusion, body := .ruled rule }) (fun _ => rfl) t.value.free premises
  have hnone : t.below = .nil := by
    obtain ⟨e, he, -⟩ := Forest.exists_fill_of_find? ht
    have hrow : (t.value, t.below.tops) ∈ c.forest.rows := he ▸ e.row_mem_fill t
    refine Forest.eq_nil_of_tops ((hr _ hrow).eq_nil fun rule hrule => ?_)
    rw [hbody] at hrule
    cases hrule
  have hnodes := h.nodes
  rw [hl, hnone] at hnodes
  obtain ⟨hchildren, nodes, hfilled, hedit⟩ := exists_plant_edit t.value.free premises
    (fun s => { s with
      gathered? := none, conclusion, rule? := some rule, subtree? := none,
      children := (a.plant t.value.free premises).1 }) hnodes
    (h.lt_nextKey hs hl (List.sublist_append_right _ _))
  refine ⟨nodes, hedit, ?_⟩
  rw [hslots, ← h.nextKey, ← hchildren, Node.payload_ruled]
  exact hfilled

theorem promote (hr : c.Rests) (w : Walk) (q : TopDownRequest) (conclusion : Text) :
    Follows (a.promote w q conclusion) (c.promote q conclusion) := by
  rw [Arena.promote, h.getElem?_eq q.key]
  cases ht : c.tree? q.key with
  | none =>
    have hcanvas : c.promote q conclusion = c.refuse .stale := by
      rw [Canvas.promote, Canvas.node?, ht]
      rfl
    rw [hcanvas]
    exact h.refuse _
  | some t =>
    simp only [Option.map_some, Option.any_some, Node.gathered?_slot, Option.getD_some]
    simp only [Canvas.promote, Canvas.node?, ht, Option.map_some]
    by_cases hbody : t.value.body = .gathering q.premises
    · have hgathered : t.value.gathered? = some q.premises := by rw [Node.gathered?, hbody]
      obtain ⟨nodes, hedit, hslots⟩ := h.exists_nodes_promoted hs hr ht hbody conclusion q.rule
      have hg : ∀ n : Node, ({ n with conclusion, body := .ruled q.rule } : Node).key = n.key :=
        fun _ => rfl
      obtain ⟨a', hannounce, hstores⟩ := h.exists_announce hs ht hg rfl hslots w fun id _ =>
        .promoted id conclusion q.rule
      rw [hgathered, if_neg (by simp), if_neg (not_not.mpr hbody)]
      refine ⟨a', ?_, hstores⟩
      change ((a.plant t.value.free q.premises).2.edit q.key fun s => { s with
        gathered? := none, conclusion, rule? := some q.rule, subtree? := none,
        children := (a.plant t.value.free q.premises).1 }).announce w q.key (fun a =>
          .promoted (a.mountId q.key) conclusion q.rule) = _
      rw [hedit]
      exact hannounce
    · have hgathered : t.value.gathered? ≠ some q.premises := by
        intro he
        cases hb : t.value.body <;> simp [Node.gathered?, hb] at he hbody
        exact hbody he
      rw [if_pos (by simp [hgathered]), if_pos hbody]
      exact h.refuse _

theorem deleteRule (w : Walk) (id : Nat) : Follows (a.deleteRule w id) (c.deleteRule id) := by
  rw [Arena.deleteRule, h.resolve?_eq hs]
  rcases c.deleteRule_cases id with ⟨hr, hc⟩ | ⟨t, target, hr, ⟨hp, hc⟩ | ⟨hp, c', hc', hc⟩⟩
  · rw [hr, hc]
    exact h.refuse _
  · have ht := hs.tree?_of_resolve? hr
    simp only [hr, hc, Option.map_some, (h.tree ht).1, Node.progress_slot]
    rw [if_pos hp]
    exact ⟨a, rfl, h⟩
  · have ht := hs.tree?_of_resolve? hr
    simp only [hr, hc, Option.map_some, (h.tree ht).1, Node.progress_slot]
    rw [if_neg hp]
    have hg : ∀ n : Node, ({ n with body := .hole } : Node).key = n.key := fun _ => rfl
    obtain ⟨l, r, hl, hr', -⟩ := exists_slots_refilled hs ht hg false []
    have hnodes := h.nodes
    rw [hl] at hnodes
    have hemptied := lists_releaseFrom_modify hnodes fun s => { s with
      rule? := none, subtree? := none, children := [] }
    have hslots : Lists (releaseFrom (a.nodes.modify t.value.key fun s => { s with
        rule? := none, subtree? := none, children := [] }) (t.below.tops.map Node.key))
          c'.forest.slots := by
      rw [hc', hr', Node.payload_hole (Node.isTopDown_of_progress hp)]
      exact hemptied
    obtain ⟨a', hannounce, hstores⟩ := h.exists_announce hs ht hg hc' hslots w fun id _ =>
      .ruleRemoved id
    exact ⟨a', hannounce, hstores⟩

/-- What was below is released, then the placeholders are planted and linked. -/
theorem exists_nodes_ruled (ht : c.tree? key = some t) (htop : t.value.isTopDown = false)
    (rule : Text) (premises : List Text) (emptied : Arena)
    (hemptied : emptied = (a.edit key fun s => { s with
      subtree? := none, rule? := some rule, expanded := true, children := [] }).release
        (t.below.tops.map Node.key)) :
    (emptied.plant t.value.free premises).1 = List.range' a.nextKey premises.length ∧
      ∃ nodes, ((emptied.plant t.value.free premises).2.edit key fun s => { s with
          children := (emptied.plant t.value.free premises).1 }) =
            { a with nodes, nextKey := a.nextKey + premises.length } ∧
        Lists nodes (c.refilled key (fun n => { n with body := .ruled rule, expanded := true })
          t.value.free premises).forest.slots := by
  subst hemptied
  obtain ⟨l, r, hl, hslots, -⟩ := exists_slots_refilled hs ht
    (g := fun n => { n with body := .ruled rule, expanded := true }) (fun _ => rfl)
    t.value.free premises
  have hnodes := h.nodes
  rw [hl] at hnodes
  have hreleased := lists_releaseFrom_modify hnodes fun s => { s with
    subtree? := none, rule? := some rule, expanded := true, children := [] }
  let emptied : Arena := (a.edit key fun s => { s with
    subtree? := none, rule? := some rule, expanded := true, children := [] }).release
      (t.below.tops.map Node.key)
  obtain ⟨hchildren, nodes, hfilled, hedit⟩ := exists_plant_edit (a := emptied) t.value.free
    premises (fun s => { s with children := (emptied.plant t.value.free premises).1 }) hreleased
    (h.lt_nextKey hs hl (List.sublist_append_right _ _))
  refine ⟨hchildren, nodes, hedit, ?_⟩
  have hpayload : ({ t.value with body := .ruled rule, expanded := true } : Node).payload =
      { t.value.payload with subtree? := none, rule? := some rule, expanded := true } := by
    rw [Node.payload_ruled, Node.payload, Node.gathered?_eq_none htop]
  have hnext : emptied.nextKey = c.nextKey := h.nextKey
  rw [hslots, ← hnext, ← hchildren, hpayload]
  exact hfilled

theorem attachRule (w : Walk) (q : RuleRequest) (premises : List Text) :
    Follows (a.attachRule w q premises) (c.attachRule q premises) := by
  rw [Arena.attachRule, h.getElem?_eq q.key]
  cases ht : c.tree? q.key with
  | none =>
    have hcanvas : c.attachRule q premises = c.refuse .stale := by
      rw [Canvas.attachRule, Canvas.node?, ht]
      rfl
    rw [hcanvas]
    exact h.refuse _
  | some t =>
    simp only [Option.map_some, Option.any_some, Node.isTopDown_slot, Node.conclusion_slot]
    simp only [Canvas.attachRule, Canvas.node?, ht, Option.map_some]
    by_cases hstale : t.value.isTopDown = true ∨ t.value.conclusion ≠ q.conclusion
    · have hfresh : (!t.value.isTopDown && t.value.conclusion == q.conclusion) = false := by
        rcases hstale with htop | hne
        · simp [htop]
        · simp [hne]
      rw [if_pos (by rw [hfresh]; rfl), if_pos hstale]
      exact h.refuse _
    · have hfresh : (!t.value.isTopDown && t.value.conclusion == q.conclusion) = true := by
        rw [not_or, not_not] at hstale
        simp [hstale.1, hstale.2]
      have htop : t.value.isTopDown = false := by simpa using (not_or.mp hstale).1
      let emptied : Arena := (a.edit q.key fun s => { s with
        subtree? := none, rule? := some q.rule, expanded := true, children := [] }).release
          (t.below.tops.map Node.key)
      obtain ⟨hchildren, nodes, hedit, hslots⟩ := h.exists_nodes_ruled hs ht htop q.rule premises
        emptied rfl
      have hg : ∀ n : Node, ({ n with body := .ruled q.rule, expanded := true } : Node).key = n.key :=
        fun _ => rfl
      obtain ⟨a', hannounce, hstores⟩ := h.exists_announce hs ht hg rfl hslots w
        fun id children => .ruleAttached id q.rule children
      rw [if_neg (by rw [hfresh]; simp), if_neg hstale]
      refine ⟨a', ?_, hstores⟩
      change ((emptied.plant t.value.free premises).2.edit q.key fun s => { s with
        children := (emptied.plant t.value.free premises).1 }).announce w q.key (fun a =>
          .ruleAttached (a.mountId q.key) q.rule
            ((emptied.plant t.value.free premises).1.map a.mountId)) = _
      rw [hedit, hchildren]
      exact hannounce

theorem addConclusion (conclusion : Text) (free : Bool) :
    ∃ a', a.addConclusion conclusion free = some ((c.addConclusion conclusion free).1, a') ∧
      a'.Stores (c.addConclusion conclusion free).2 :=
  h.addRoot hs conclusion free .hole rfl

theorem addPremises (premises : List Text) (free : Bool) :
    ∃ a', a.addPremises premises free = some ((c.addPremises premises free).1, a') ∧
      a'.Stores (c.addPremises premises free).2 :=
  h.addRoot hs [] free (.gathering (premises.filter fun p => !Text.isBlankText p)) rfl

end Stores

end Arena

end ProofDesk
