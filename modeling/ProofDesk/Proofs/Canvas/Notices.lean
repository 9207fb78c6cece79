import ProofDesk.Proofs.Canvas.Finishing
import ProofDesk.Proofs.Canvas.Replacing
import ProofDesk.Proofs.Forest.Descent

namespace ProofDesk

def Event.ids : Event → List Nat
  | rootRemoved _ => []
  | ruleAttached node _ premises => node :: premises
  | rootAdded node | ruleRemoved node | subtreeDelivered node _ | seeded node _ | premiseAdded node _
  | promoted node _ _ | substituted node _ | derivationChanged node _ => [node]

namespace Canvas

/-- The operation that leads to the second canvas queues the events. They name nodes that are there,
and miss no derivation that comes to be finished or unfinished. -/
structure Reports (c c' : Canvas) (new : List Event) : Prop where
  queued : c'.events = c.events ++ new
  current : ∀ e ∈ new, ∀ id ∈ e.ids, ∃ t, c'.resolve? id = some (t, .copy)
  complete : ∀ m ∈ c.forest.preorder, ∀ m' ∈ c'.forest.preorder, m'.key = m.key →
    (c'.derivation? m'.id).isSome ≠ (c.derivation? m.id).isSome →
      .derivationChanged m'.id (c'.derivation? m'.id).isSome ∈ new

/-- The events are one of a kind of its own, and then one for the node and one for each node above
it up to the root, nearest first. -/
structure Announced (c : Canvas) (n : Node) (above : List Node) (own : Event) (new : List Event) :
    Prop where
  present : n ∈ c.forest.preorder
  nearestFirst : List.IsChain (fun child parent => c.forest.Covers parent child) (n :: above)
  ancestors : ∀ m, m ∈ above ↔ Relation.TransGen c.forest.Covers m n
  told : new = own :: (n :: above).map fun m =>
    .derivationChanged m.id (c.derivation? m.id).isSome

/-- The events announce the node with a key. The event of their own is given by the node's id and
the ids right below it. -/
def Announces (c : Canvas) (key : Nat) (own : Nat → List Nat → Event) (new : List Event) : Prop :=
  ∃ n above, n.key = key ∧ c.Announced n above (own n.id (c.childIds n.id)) new

variable {c c' : Canvas} {key : Nat} {new : List Event}

namespace Sound

theorem resolve?_of_mem_ids (hs : c.Sound) {id : Nat} (h : id ∈ c.ids) :
    ∃ t, c.resolve? id = some (t, .copy) := by
  obtain ⟨n, hn, rfl⟩ := List.mem_map.mp h
  obtain ⟨t, -, ht⟩ := hs.resolve?_id hn
  exact ⟨t, ht⟩

theorem exists_tree_of_mem (hs : c.Sound) {n : Node} (hn : n ∈ c.forest.preorder) :
    ∃ t, t.value = n ∧ c.resolve? n.id = some (t, .copy) ∧ c.tree? n.key = some t := by
  obtain ⟨t, rfl, ht⟩ := hs.resolve?_id hn
  exact ⟨t, rfl, ht, hs.tree?_of_resolve? ht⟩

theorem derivation?_id (hs : c.Sound) {n : Node} (hn : n ∈ c.forest.preorder) :
    c.derivation? n.id = c.derivationOf? n.key := by
  obtain ⟨t, -, hid, hkey⟩ := hs.exists_tree_of_mem hn
  rw [derivation?_of_resolve? hid, derivationOf?, hkey, Option.bind_some]

theorem finished?_key (hs : c.Sound) {n : Node} (hn : n ∈ c.forest.preorder) :
    c.finished? n.key = some (c.derivation? n.id).isSome := by
  obtain ⟨t, -, hid, hkey⟩ := hs.exists_tree_of_mem hn
  rw [derivation?_of_resolve? hid, finished?, hkey, Option.map_some]

theorem childIds_id (hs : c.Sound) {n : Node} (hn : n ∈ c.forest.preorder) :
    c.childIds n.id = ((c.tree? n.key).map fun t => t.below.tops.map Node.id).getD [] := by
  obtain ⟨t, -, hid, hkey⟩ := hs.exists_tree_of_mem hn
  rw [childIds, hid, hkey, Option.map_some, Option.getD_some]

theorem childIds_subset (hs : c.Sound) {n : Node} (hn : n ∈ c.forest.preorder) :
    c.childIds n.id ⊆ c.ids := by
  obtain ⟨t, -, hid, hkey⟩ := hs.exists_tree_of_mem hn
  obtain ⟨e, he, -⟩ := hs.exists_fill hkey
  have hchildren : c.childIds n.id = t.below.tops.map Node.id := by rw [childIds, hid]
  rw [hchildren]
  intro id hchild
  obtain ⟨m, hm, rfl⟩ := List.mem_map.mp hchild
  have hbelow : m ∈ t.below.preorder := t.below.tops_subset_preorder hm
  refine List.mem_map_of_mem ?_
  rw [he, e.preorder_fill]
  simp [hbelow]

/-- An operation that finishes and unfinishes nothing reports all there is to report. -/
theorem reports_of_steady (hs : c.Sound) (hs' : c'.Sound) (hqueued : c'.events = c.events ++ new)
    (hids : ∀ e ∈ new, ∀ id ∈ e.ids, id ∈ c'.ids)
    (hsteady : ∀ key, c.Has key → c'.Has key → c'.finished? key = c.finished? key) :
    c.Reports c' new where
  queued := hqueued
  current e he id hid := hs'.resolve?_of_mem_ids (hids e he id hid)
  complete m hm m' hm' hk hchanged := by
    have hsame := hsteady m.key (key_mem_shape hm) (hk ▸ key_mem_shape hm')
    rw [← hk, hs'.finished?_key hm', hk, hs.finished?_key hm] at hsame
    exact absurd (Option.some.inj hsame) hchanged

theorem reports_nothing (hs : c.Sound) : c.Reports c [] :=
  hs.reports_of_steady hs (List.append_nil _).symm (fun e he => by cases he) fun _ _ _ => rfl

theorem reports_of_keeps (hs : c.Sound) (hk : c.Keeps c') (hm : c'.marks = c.marks)
    (hqueued : c'.events = c.events ++ new) (hids : ∀ e ∈ new, ∀ id ∈ e.ids, id ∈ c.ids) :
    c.Reports c' new := by
  refine hs.reports_of_steady (hs.keeps hk) hqueued (fun e he id hid => ?_) fun key _ _ =>
    finished?_congr hm key
  rw [hk.ids]
  exact hids e he id hid

/-- A key leads to a node and from there up to the root. -/
theorem exists_way (hs : c.Sound) (hk : c.Has key) :
    ∃ n above, n.key = key ∧ c.idOf key = n.id ∧ c.lineage key = n :: above ∧
      List.IsChain (fun child parent => c.forest.Covers parent child) (n :: above) ∧
      ∀ m, m ∈ above ↔ Relation.TransGen c.forest.Covers m n := by
  obtain ⟨t, ht, rfl⟩ := hs.exists_tree? hk
  obtain ⟨e, he, hl⟩ := hs.exists_fill ht
  have hdistinct : (e.fill t).preorder.Nodup := he ▸ hs.distinct_nodes
  have hid : c.idOf t.value.key = t.value.id := by
    rw [idOf, node?, ht, Option.map_some, Option.map_some, Option.getD_some]
  refine ⟨t.value, e.above, rfl, hid, hl, ?_, fun m => ?_⟩
  · rw [he]
    exact (e.isChain_above t).1
  · rw [he]
    exact Forest.Context.mem_above_iff hdistinct

/-- An operation that finishes and unfinishes only on the way up from a node reports everything
when it announces that node. -/
theorem announces (own : Nat → List Nat → Event) {d : Canvas} (hs : c.Sound) (hs' : d.Sound)
    (hk : d.Has key) (hevents : d.events = c.events) (hchanges : c.ChangesAbove d key)
    (hown : ∀ id children, (own id children).ids ⊆ id :: children) :
    ∃ new, c.Reports ((d.note (own (d.idOf key) (d.childIds (d.idOf key)))).noteLineage key) new ∧
      ((d.note (own (d.idOf key) (d.childIds (d.idOf key)))).noteLineage key).Announces
        key own new := by
  obtain ⟨n, above, hkey, hid, hl, hchain, habove⟩ := hs'.exists_way hk
  have hway : ∀ m ∈ n :: above, m ∈ d.forest.preorder := fun m hm => mem_of_mem_lineage (hl ▸ hm)
  have hn := hway n List.mem_cons_self
  let told := (n :: above).map fun m => Event.derivationChanged m.id (d.derivation? m.id).isSome
  have htold : (d.lineage key).map (fun m =>
      Event.derivationChanged m.id (d.derivationOf? m.key).isSome) = told := by
    rw [hl]
    refine List.map_congr_left fun m hm => ?_
    rw [hs'.derivation?_id (hway m hm)]
  rw [hid]
  -- only the events differ from here on, and what is known of nodes does not depend on them
  refine ⟨own n.id (d.childIds n.id) :: told, ⟨?_, ?_, ?_⟩, n, above, hkey, hn, hchain, habove,
    rfl⟩
  · change d.events ++ [_] ++ (d.lineage key).map _ = _
    rw [hevents, List.append_assoc]
    exact congrArg (fun told => c.events ++ ([_] ++ told)) htold
  · intro x hx id hidMem
    refine hs'.resolve?_of_mem_ids ?_
    rcases List.mem_cons.mp hx with rfl | hx
    · rcases List.mem_cons.mp (hown _ _ hidMem) with rfl | hchild
      · exact List.mem_map_of_mem hn
      · exact hs'.childIds_subset hn hchild
    · obtain ⟨m, hm, rfl⟩ := List.mem_map.mp hx
      rw [List.mem_singleton.mp hidMem]
      exact List.mem_map_of_mem (hway m hm)
  · intro m hm m' hm' hsame hne
    have hchanged : d.finished? m.key ≠ c.finished? m.key := by
      rw [← hsame, hs'.finished?_key hm', hsame, hs.finished?_key hm]
      exact fun he => hne (Option.some.inj he)
    have honWay := hchanges m.key (key_mem_shape hm) (hsame ▸ key_mem_shape hm') hchanged
    rw [hl] at honWay
    obtain ⟨x, hx, hxk⟩ := List.mem_map.mp honWay
    obtain rfl : x = m' := hs'.eq_of_key_eq (hway x hx) hm' (hxk.trans hsame.symm)
    exact List.mem_cons_of_mem _ (List.mem_map.mpr ⟨x, hx, rfl⟩)

end Sound

section Operations

theorem Sound.has_refilled (hs : c.Sound) (hk : c.Has key) {g : Node → Node}
    (hg : ∀ n, (g n).key = n.key) (free : Bool) (premises : List Text) :
    (c.refilled key g free premises).Has key := by
  obtain ⟨t, ht, hkey⟩ := hs.exists_tree? hk
  obtain ⟨e, -, -, -, hu⟩ := Forest.exists_fill_of_distinct hs.distinct_keys ht
  have hchanged : (c.change key fun u => ⟨g u.value, c.holes free premises⟩).forest =
      e.fill ⟨g t.value, c.holes free premises⟩ := hu _
  have hshape : (c.refilled key g free premises).shape =
      (e.fill ⟨g t.value, c.holes free premises⟩).map Node.key := by
    rw [← hchanged]
    exact Forest.map_key_number _ _
  rw [Has, hshape, Forest.preorder_map, e.preorder_fill]
  exact List.mem_map.mpr ⟨g t.value, by simp, (hg t.value).trans hkey⟩

/-- An operation that refills a node reports what it does and announces the node. -/
theorem Sound.announces_refilled (own : Nat → List Nat → Event) (hs : c.Sound) (hk : c.Has key)
    {g : Node → Node} (hg : ∀ n, (g n).key = n.key) (free : Bool) (premises : List Text)
    (hown : ∀ id children, (own id children).ids ⊆ id :: children) {d : Canvas}
    (hd : d = c.refilled key g free premises) :
    ∃ new, c.Reports ((d.note (own (d.idOf key) (d.childIds (d.idOf key)))).noteLineage key) new ∧
      ((d.note (own (d.idOf key) (d.childIds (d.idOf key)))).noteLineage key).Announces
        key own new := by
  subst hd
  exact hs.announces own (hs.reshapes (reshapes_refilled c hk hg free premises))
    (hs.has_refilled hk hg free premises) rfl (hs.changesAbove_refilled hk hg free premises) hown

theorem Sound.announces_attachRule (hs : c.Sound) {q : RuleRequest} {premises : List Text}
    (h : (c.attachRule q premises).answer = .ok ()) :
    ∃ new, c.Reports (c.attachRule q premises).canvas new ∧
      (c.attachRule q premises).canvas.Announces q.key
        (fun id children => .ruleAttached id q.rule children) new := by
  rcases c.attachRule_cases q premises with hr | ⟨n, d, children, hn, -, -, hd, hchildren, hr⟩
  · rw [hr] at h
    cases h
  · have hk := key_mem_of_node? hn
    have hg : ∀ m : Node, ({ m with body := .ruled q.rule, expanded := true } : Node).key = m.key :=
      fun _ => rfl
    have hs' : d.Sound := hd ▸ hs.reshapes (reshapes_refilled c hk hg n.free premises)
    have hhas : d.Has q.key := hd ▸ hs.has_refilled hk hg n.free premises
    have hsame : children = d.childIds (d.idOf q.key) := by
      obtain ⟨m, above, hkey, hid, hl, -, -⟩ := hs'.exists_way hhas
      have hm := mem_of_mem_lineage (hl ▸ List.mem_cons_self)
      rw [hchildren, hid, hs'.childIds_id hm, hkey]
    rw [hr, hsame]
    exact hs.announces_refilled (fun id children => .ruleAttached id q.rule children) hk hg n.free
      premises (fun id children => List.Subset.refl _) hd

theorem Sound.announces_promote (hs : c.Sound) {q : TopDownRequest} {conclusion : Text}
    (h : (c.promote q conclusion).answer = .ok ()) :
    ∃ new, c.Reports (c.promote q conclusion).canvas new ∧
      (c.promote q conclusion).canvas.Announces q.key
        (fun id _ => .promoted id conclusion q.rule) new := by
  rcases c.promote_cases q conclusion with hr | ⟨n, d, hn, -, hd, hr⟩
  · rw [hr] at h
    cases h
  · have hg : ∀ m : Node, ({ m with conclusion, body := .ruled q.rule } : Node).key = m.key :=
      fun _ => rfl
    rw [hr]
    exact hs.announces_refilled (fun id _ => .promoted id conclusion q.rule)
      (key_mem_of_node? hn) hg n.free q.premises (by simp [Event.ids]) hd

/-- Only a removal that removes something is announced. -/
theorem Sound.announces_deleteRule (hs : c.Sound) {id : Nat}
    (h : (c.deleteRule id).answer = .ok ()) :
    ∃ new, c.Reports (c.deleteRule id).canvas new ∧
      ∀ t target, c.resolve? id = some (t, target) → t.value.progress ≠ .empty →
        (c.deleteRule id).canvas.Announces t.value.key (fun id _ => .ruleRemoved id) new := by
  rcases c.deleteRule_cases id with ⟨-, hr⟩ | ⟨t, target, ht, ⟨hp, hr⟩ | ⟨hp, d, hd, hr⟩⟩
  · rw [hr] at h
    cases h
  · rw [hr]
    refine ⟨[], hs.reports_nothing, fun u place hu hne => ?_⟩
    obtain rfl := eq_of_resolve? ht hu
    exact absurd hp hne
  · have hg : ∀ m : Node, ({ m with body := .hole } : Node).key = m.key := fun _ => rfl
    obtain ⟨new, hreports, hannounces⟩ := hs.announces_refilled (fun id _ => .ruleRemoved id)
      (key_mem_shape (mem_of_resolve? ht)) hg false [] (by simp [Event.ids]) hd
    rw [hr]
    refine ⟨new, hreports, fun u place hu _ => ?_⟩
    obtain rfl := eq_of_resolve? ht hu
    exact hannounces

theorem Sound.announces_deliver (hs : c.Sound) {n : Node} (hn : n ∈ c.forest.preorder)
    (proof : Derivation) :
    ∃ new, c.Reports (c.deliver n proof) new ∧
      (c.deliver n proof).Announces n.key (fun id _ => .subtreeDelivered id proof) new := by
  let d := c.changeNode n.key fun m => { m with body := .delivered proof }
  have hkeeps : c.Keeps d := keeps_changeNode c n.key (fun _ => rfl) fun _ => rfl
  have hid : d.idOf n.key = n.id := by
    rw [hkeeps.idOf, idOf, hs.node?_key hn, Option.map_some, Option.getD_some]
  have hhas : d.Has n.key := by
    rw [Has, hkeeps.shape]
    exact key_mem_shape hn
  have hreports := hs.announces (fun id _ => .subtreeDelivered id proof) (hs.keeps hkeeps) hhas rfl
    (hs.changesAbove_deliver hn proof) (by simp [Event.ids])
  rwa [hid] at hreports

theorem Sound.idOf_mem_ids (hs : c.Sound) (hk : c.Has key) : c.idOf key ∈ c.ids := by
  obtain ⟨n, above, -, hid, hl, -, -⟩ := hs.exists_way hk
  rw [hid]
  exact List.mem_map_of_mem (mem_of_mem_lineage (hl ▸ List.mem_cons_self))

theorem Sound.reports_addRoot (hs : c.Sound) (conclusion : Text) (free : Bool) (body : Body) :
    ∃ new, c.Reports (c.addRoot conclusion free body).2 new := by
  have hs' : (c.addRoot conclusion free body).2.Sound :=
    hs.reshapes (reshapes_addRoot c conclusion free body)
  have hnew : (c.addRoot conclusion free body).2.Has c.nextKey := by
    have hshape : (c.addRoot conclusion free body).2.shape =
        (c.forest.append (.cons { key := c.nextKey, conclusion, free, body } .nil .nil)).map
          Node.key := Forest.map_key_number _ _
    rw [Has, hshape, Forest.map_append, Forest.preorder_append]
    exact List.mem_append_right _ List.mem_cons_self
  refine ⟨[.rootAdded ((c.addRoot conclusion free body).2.idOf c.nextKey)],
    hs.reports_of_steady hs' rfl (fun e he id hid => ?_) fun key hk _ =>
      finished?_addRoot hs hk conclusion free body⟩
  rw [List.mem_singleton.mp he] at hid
  rw [List.mem_singleton.mp hid]
  exact hs'.idOf_mem_ids hnew

theorem Sound.reports_removeRoot (hs : c.Sound) {id : Nat}
    (h : (c.removeRoot id).answer = .ok ()) :
    ∃ new, c.Reports (c.removeRoot id).canvas new := by
  have hs' : (c.removeRoot id).canvas.Sound := by
    rcases c.reshapes_removeRoot id with ⟨cause, hr⟩ | ⟨-, hr⟩
    · rw [hr]
      exact hs
    · exact hs.reshapes hr
  have hsteady : ∀ key, c.Has key → (c.removeRoot id).canvas.Has key →
      (c.removeRoot id).canvas.finished? key = c.finished? key :=
    fun key _ hk => finished?_removeRoot hs hk
  rcases c.removeRoot_cases id with ⟨cause, -, hr⟩ | ⟨t, target, -, -, hr⟩
  · rw [hr] at h
    cases h
  · have hevents : (c.removeRoot id).canvas.events =
        c.events ++ [.rootRemoved t.value.conclusion] := by
      rw [hr]
      rfl
    refine ⟨_, hs.reports_of_steady hs' hevents (fun e he id hid => ?_) hsteady⟩
    rw [List.mem_singleton.mp he] at hid
    cases hid

theorem Sound.reports_changeNode (hs : c.Sound) (key : Nat) {g : Node → Node}
    (hkey : ∀ n, (g n).key = n.key) (hid : ∀ n, (g n).id = n.id)
    (hprogress : ∀ n, (g n).progress = n.progress) : c.Reports (c.changeNode key g) [] := by
  refine hs.reports_of_keeps (keeps_changeNode c key hkey hid) (marks_changeNode key hkey hprogress)
    (List.append_nil _).symm fun e he => ?_
  cases he

theorem Sound.reports_setName (hs : c.Sound) (id : Nat) (name : Text) :
    c.Reports (c.setName id name).canvas [] := by
  rcases c.setName_cases id name with ⟨cause, -, hr⟩ | ⟨t, target, -, hr⟩
  · rw [hr]
    exact hs.reports_nothing
  · rw [hr]
    exact hs.reports_changeNode t.value.key (g := fun n => { n with name }) (fun _ => rfl)
      (fun _ => rfl) fun _ => rfl

theorem Sound.reports_toggle (hs : c.Sound) (id : Nat) :
    c.Reports (c.toggle id).canvas [] := by
  rcases c.toggle_cases id with ⟨cause, -, hr⟩ | ⟨t, target, -, hr⟩
  · rw [hr]
    exact hs.reports_nothing
  · rw [hr]
    exact hs.reports_changeNode t.value.key (g := fun n => { n with expanded := !t.value.expanded })
      (fun _ => rfl) (fun _ => rfl) fun _ => rfl

theorem Sound.reports_one (own : Event) (hs : c.Sound) {n : Node} (hn : n ∈ c.forest.preorder)
    (hk : c.Keeps c') (hm : c'.marks = c.marks) (hevents : c'.events = c.events ++ [own])
    (hown : own.ids = [n.id]) : ∃ new, c.Reports c' new := by
  refine ⟨[own], hs.reports_of_keeps hk hm hevents fun e he id hid => ?_⟩
  rw [List.mem_singleton.mp he, hown] at hid
  rw [List.mem_singleton.mp hid]
  exact List.mem_map_of_mem hn

theorem Sound.reports_dropPremise (hs : c.Sound) {id : Nat} {premise : Text}
    (h : (c.dropPremise id premise).answer = .ok ()) :
    ∃ new, c.Reports (c.dropPremise id premise).canvas new := by
  rcases c.dropPremise_cases id premise with ⟨cause, -, hr⟩ | ⟨t, target, ht, -, -, hr⟩
  · rw [hr] at h
    cases h
  · rw [hr]
    exact hs.reports_one (.premiseAdded t.value.id premise.trim) (mem_of_resolve? ht)
      (keeps_pushPremise c _ _) (marks_pushPremise c _ _)
      rfl rfl

/-- Only a copy that delivers a derivation is announced. -/
theorem Sound.announces_dropCopy (hs : c.Sound) {target source : Nat}
    (h : (c.dropCopy target source).answer = .ok ()) :
    ∃ new, c.Reports (c.dropCopy target source).canvas new ∧
      ∀ t s place proof, c.resolve? target = some (t, .copy) →
        c.resolve? source = some (s, place) → t.value.isTopDown = false →
        s.derivation? = some proof →
        (c.dropCopy target source).canvas.Announces t.value.key
          (fun id _ => .subtreeDelivered id proof) new := by
  rcases c.dropCopy_cases target source with ⟨cause, -, hr⟩ |
    ⟨t, s, place, ht, hsource, -, ⟨htop, -, hr⟩ | ⟨-, -, ⟨proof, hproof, hr⟩ | ⟨hnone, hr⟩⟩⟩
  · rw [hr] at h
    cases h
  · rw [hr]
    obtain ⟨new, hreports⟩ := hs.reports_one
      (.premiseAdded t.value.id s.value.conclusion) (mem_of_resolve? ht)
      (keeps_pushPremise c t.value _) (marks_pushPremise c _ _) rfl rfl
    refine ⟨new, hreports, fun u v place' proof hu _ hno _ => ?_⟩
    obtain rfl := eq_of_resolve? ht hu
    rw [htop] at hno
    cases hno
  · rw [hr]
    obtain ⟨new, hreports, hannounces⟩ := hs.announces_deliver (mem_of_resolve? ht) proof
    refine ⟨new, hreports, fun u v place' proof' hu hv _ hproof' => ?_⟩
    obtain rfl := eq_of_resolve? ht hu
    obtain rfl := eq_of_resolve? hsource hv
    obtain rfl := Option.some.inj (hproof.symm.trans hproof')
    exact hannounces
  · rw [hr]
    obtain ⟨new, hreports⟩ := hs.reports_one (.seeded t.value.id t.value.conclusion)
      (mem_of_resolve? ht) ((Keeps.refl c).note _) rfl rfl rfl
    refine ⟨new, hreports, fun u v place' proof _ hv _ hproof => ?_⟩
    obtain rfl := eq_of_resolve? hsource hv
    rw [hnone] at hproof
    cases hproof

theorem Sound.reports_substitute (hs : c.Sound) {q : SubstitutionRequest}
    {results : List (Option Text)} (distinct : (q.targets.map Prod.fst).Nodup)
    (h : (c.substitute q results).answer = .ok ()) :
    ∃ new, c.Reports (c.substitute q results).canvas new := by
  have hkeeps := keeps_substitute c q results
  have hreplaced := hs.replaced_substitute distinct h
  refine ⟨_, hs.reports_of_keeps hkeeps (marks_substitute c q results) hreplaced.events ?_⟩
  intro e he id hid
  obtain ⟨⟨⟨key, old⟩, result⟩, hpair, he⟩ := List.mem_filterMap.mp he
  obtain ⟨text, -, rfl⟩ := Option.map_eq_some_iff.mp he
  obtain ⟨n, hn, -⟩ := isFresh_iff.mp ((substitute_answer_iff c q results).mp h).2 _
    (List.of_mem_zip hpair).1
  rw [List.mem_singleton.mp hid, hkeeps.idOf]
  exact hs.idOf_mem_ids (key_mem_of_node? hn)

end Operations

end Canvas

namespace Workbench

open Canvas

/-- The command attaches a rule, promotes a node, removes what justifies one or delivers a
derivation. It announces the node with the key, by an event of its own that is given by the node's
id and the ids right below it. -/
inductive Announces (w : Workbench) : Command → Nat → (Nat → List Nat → Event) → Prop
  | attachRule (slot : Text) (premises : List Text) (q : RuleRequest) :
      waiting? w.rules slot = some q →
      Announces w (.attachRule slot premises) q.key fun id children =>
        .ruleAttached id q.rule children
  | applyRule (id : Nat) (rule : Text) (premises : List Text) (q : RuleRequest) :
      w.canvas.requestRule id rule = .ok q →
      Announces w (.applyRule id rule premises) q.key fun id children =>
        .ruleAttached id rule children
  | promote (slot conclusion : Text) (q : TopDownRequest) : waiting? w.topDowns slot = some q →
      Announces w (.promote slot conclusion) q.key fun id _ => .promoted id conclusion q.rule
  | deleteRule (id : Nat) (t : Tree Node) (target : Target) :
      w.canvas.resolve? id = some (t, target) → t.value.progress ≠ .empty →
      Announces w (.deleteRule id) t.value.key fun id _ => .ruleRemoved id
  | dropCopy (target source : Nat) (t s : Tree Node) (place : Target) (proof : Derivation) :
      w.canvas.resolve? target = some (t, .copy) → w.canvas.resolve? source = some (s, place) →
      t.value.isTopDown = false → s.derivation? = some proof →
      Announces w (.dropCopy target source) t.value.key fun id _ => .subtreeDelivered id proof

theorem reports_perform {w : Workbench} (hs : w.canvas.Sound) (hd : w.TargetsDistinct)
    {cmd : Command} {a : Answer} (h : (w.perform cmd).1 = .ok a) :
    ∃ new, w.canvas.Reports (w.perform cmd).2.canvas new ∧ ∀ key own, w.Announces cmd key own →
      (w.perform cmd).2.canvas.Announces key own new := by
  -- of the commands that announce nothing it is enough to say what they report
  have quietly : ∀ {cmd : Command}, (∀ key own, ¬w.Announces cmd key own) →
      (∃ new, w.canvas.Reports (w.perform cmd).2.canvas new) →
      ∃ new, w.canvas.Reports (w.perform cmd).2.canvas new ∧ ∀ key own, w.Announces cmd key own →
        (w.perform cmd).2.canvas.Announces key own new := by
    rintro cmd hno ⟨new, hreports⟩
    exact ⟨new, hreports, fun key own hann => absurd hann (hno key own)⟩
  cases cmd with
  | addConclusion conclusion free =>
    exact quietly (fun _ _ hann => by cases hann) (hs.reports_addRoot _ _ _)
  | addPremises premises free =>
    exact quietly (fun _ _ hann => by cases hann) (hs.reports_addRoot _ _ _)
  | removeRoot id =>
    obtain ⟨⟨⟩, ho⟩ := answer_of_settle ⟨a, h⟩
    exact quietly (fun _ _ hann => by cases hann) (hs.reports_removeRoot ho)
  | setName id name =>
    exact quietly (fun _ _ hann => by cases hann) ⟨_, hs.reports_setName id name⟩
  | toggle id => exact quietly (fun _ _ hann => by cases hann) ⟨_, hs.reports_toggle id⟩
  | dropPremise target premise =>
    obtain ⟨⟨⟩, ho⟩ := answer_of_settle ⟨a, h⟩
    exact quietly (fun _ _ hann => by cases hann) (hs.reports_dropPremise ho)
  | requestRule id rule slot =>
    refine quietly (fun _ _ hann => by cases hann) ⟨[], ?_⟩
    rw [perform]
    split <;> exact hs.reports_nothing
  | requestTopDown id rule arity slot =>
    refine quietly (fun _ _ hann => by cases hann) ⟨[], ?_⟩
    rw [perform]
    split <;> exact hs.reports_nothing
  | requestSubstitution id old new direction slot =>
    refine quietly (fun _ _ hann => by cases hann) ⟨[], ?_⟩
    rw [perform]
    split <;> exact hs.reports_nothing
  | substitute slot results =>
    refine quietly (fun _ _ hann => by cases hann) ?_
    rw [perform] at h ⊢
    split at h
    next q hq =>
      obtain ⟨e, he, rfl⟩ := mem_of_waiting? hq
      obtain ⟨⟨⟩, ho⟩ := answer_of_settle ⟨a, h⟩
      exact hs.reports_substitute (hd e he) ho
    next => cases h
  | attachRule slot premises =>
    rw [perform] at h ⊢
    split at h
    next q hq =>
      obtain ⟨⟨⟩, ho⟩ := answer_of_settle ⟨a, h⟩
      obtain ⟨new, hreports, hannounces⟩ := hs.announces_attachRule ho
      refine ⟨new, hreports, fun key own hann => ?_⟩
      cases hann with
      | attachRule _ _ q' hq' =>
        obtain rfl := Option.some.inj (hq.symm.trans hq')
        exact hannounces
    next => cases h
  | applyRule id rule premises =>
    rw [perform] at h ⊢
    split at h
    next q hq =>
      obtain ⟨⟨⟩, ho⟩ := answer_of_settle ⟨a, h⟩
      obtain ⟨new, hreports, hannounces⟩ := hs.announces_attachRule ho
      obtain ⟨t, -, -, hrule⟩ := exists_of_requestRule hq
      refine ⟨new, hreports, fun key own hann => ?_⟩
      cases hann with
      | applyRule _ _ _ q' hq' =>
        obtain rfl := Except.ok.inj (hq.symm.trans hq')
        rw [hrule] at hannounces ⊢
        exact hannounces
    next => cases h
  | promote slot conclusion =>
    rw [perform] at h ⊢
    split at h
    next q hq =>
      obtain ⟨⟨⟩, ho⟩ := answer_of_settle ⟨a, h⟩
      obtain ⟨new, hreports, hannounces⟩ := hs.announces_promote ho
      refine ⟨new, hreports, fun key own hann => ?_⟩
      cases hann with
      | promote _ _ q' hq' =>
        obtain rfl := Option.some.inj (hq.symm.trans hq')
        exact hannounces
    next => cases h
  | deleteRule id =>
    obtain ⟨⟨⟩, ho⟩ := answer_of_settle ⟨a, h⟩
    obtain ⟨new, hreports, hannounces⟩ := hs.announces_deleteRule ho
    refine ⟨new, hreports, fun key own hann => ?_⟩
    cases hann with
    | deleteRule _ t target ht hp => exact hannounces t target ht hp
  | dropCopy target source =>
    obtain ⟨⟨⟩, ho⟩ := answer_of_settle ⟨a, h⟩
    obtain ⟨new, hreports, hannounces⟩ := hs.announces_dropCopy ho
    refine ⟨new, hreports, fun key own hann => ?_⟩
    cases hann with
    | dropCopy _ _ t s place proof ht hsource htop hproof =>
      exact hannounces t s place proof ht hsource htop hproof

/-- After any run, a command that succeeds reports by events what it does. -/
theorem reports_run (actions : List Action) {cmd : Command} {a : Answer}
    (h : ((run {} actions).perform cmd).1 = .ok a) :
    ∃ new, (run {} actions).canvas.Reports ((run {} actions).perform cmd).2.canvas new ∧
      ∀ key own, (run {} actions).Announces cmd key own →
        ((run {} actions).perform cmd).2.canvas.Announces key own new :=
  reports_perform (sound_run actions) (targetsDistinct_run actions) h

/-- The only premise of a proof is proved without premises, which finishes the whole proof. -/
theorem reports_finished_proof :
    let w := run {} [.command (.addConclusion ['a'] true), .command (.applyRule 1 ['r'] [['b']])]
    let w' := (w.perform (.applyRule 5 ['s'] [])).2
    let new := [.ruleAttached 8 ['s'] [], .derivationChanged 8 true, .derivationChanged 6 true]
    w.canvas.Reports w'.canvas new ∧
      w'.canvas.Announces 1 (fun id children => .ruleAttached id ['s'] children) new := by
  intro w w' new
  obtain ⟨queued, hreports, hannounces⟩ := reports_run
    [.command (.addConclusion ['a'] true), .command (.applyRule 1 ['r'] [['b']])]
    (show (Workbench.perform _ (.applyRule 5 ['s'] [])).1 = .ok .done from rfl)
  have hevents : w'.canvas.events = w.canvas.events ++ new := by decide
  obtain rfl : queued = new := List.append_cancel_left (hreports.queued.symm.trans hevents)
  exact ⟨hreports, hannounces 1 _ (.applyRule 5 ['s'] [] ⟨1, ['b'], ['s']⟩ rfl)⟩

end Workbench

end ProofDesk
