import ProofDesk.Proofs.Canvas.Lifetime
import ProofDesk.Proofs.Canvas.Links
import ProofDesk.Proofs.Canvas.States
import ProofDesk.Proofs.Forest.Descent
import ProofDesk.Proofs.Trace

namespace ProofDesk

namespace Forest

theorem eq_nil_of_map {α β : Type} {h : α → β} {f : Forest α} (hf : f.map h = nil) : f = nil := by
  cases f with
  | nil => rfl
  | cons a below rest => cases hf

end Forest

namespace Canvas

variable {c : Canvas} {e : Forest.Context Node} {m n : Node} {k key id : Nat}

/-- Apart from ids, the node looks like the given one and everything that is not below it like the
given surroundings. -/
def Surrounded (c : Canvas) (e : Forest.Context Node) (m : Node) : Prop :=
  ∃ below, c.forest.map Node.face = e.fill ⟨m, below⟩

def IsBelow (c : Canvas) (key id : Nat) : Prop :=
  ∃ t place, c.resolve? id = some (t, place) ∧ Relation.TransGen c.Links key t.value.key

theorem Sound.exists_fill_of_map_face (hs : c.Sound) {t : Tree Node}
    (h : c.forest.map Node.face = e.fill t) :
    ∃ (e' : Forest.Context Node) (t' : Tree Node), c.forest = e'.fill t' ∧
      c.tree? t.value.key = some t' ∧ t'.value.face = t.value ∧ t'.below.map Node.face = t.below ∧
      ∀ u, (e'.fill u).map Node.face = e.fill ⟨u.value.face, u.below.map Node.face⟩ := by
  obtain ⟨e', t', he, hface, hbelow, hmap⟩ := Forest.exists_fill_of_map_eq h
  refine ⟨e', t', he, ?_, hface, hbelow, hmap⟩
  rw [← hface, tree?, he]
  exact Forest.Context.find?_mark_fill (he ▸ hs.distinct_keys)

theorem map_face_renumber (c : Canvas) :
    c.renumber.forest.map Node.face = c.forest.map Node.face :=
  Forest.map_number (fun _ _ => rfl) _ _

theorem Surrounded.renumber (h : c.Surrounded e m) : c.renumber.Surrounded e m := by
  rwa [Surrounded, map_face_renumber]

theorem Sound.surrounded_change (hs : c.Sound) (h : c.Surrounded e m)
    (hk : Relation.TransGen c.Links m.key k) (g : Tree Node → Tree Node) :
    (c.change k g).Surrounded e m := by
  obtain ⟨looks, hlooks⟩ := h
  obtain ⟨e', ⟨n, below⟩, he, -, rfl, -, hmap⟩ := hs.exists_fill_of_map_face hlooks
  -- what links lead down to from the node is in the open place, and keys are distinct
  have hmem : k ∈ below.preorder.map Node.key := by
    obtain ⟨e'', -, hkeys⟩ := e'.map_fill Node.key
    have hshape : c.shape = e''.fill ⟨n.key, below.map Node.key⟩ := by rw [shape, he, hkeys]
    have hd := hs.distinct
    rw [hshape] at hd
    rw [links_eq, hshape] at hk
    rw [← Forest.preorder_map]
    exact (Forest.Context.mem_below_iff hd).mpr hk
  obtain ⟨b, hb, rfl⟩ := List.mem_map.mp hmem
  have hd := hs.distinct_keys
  rw [he] at hd
  obtain ⟨hleft, hright⟩ := Forest.Context.ne_of_mem_tree hd (List.mem_cons_of_mem _ hb)
  have htop := Forest.Context.ne_of_mem_below hd hb
  refine ⟨(below.update (fun a => a.key == b.key) g).map Node.face, ?_⟩
  rw [change, he, Forest.Context.update_fill_of g (fun a ha => by simpa using hleft a ha)
    (fun a ha => by simpa using hright a ha), if_neg (by simpa using htop), hmap]

section Operations

variable (hs : c.Sound) (h : c.Surrounded e m)

include hs h

theorem surrounded_refilled (hk : Relation.TransGen c.Links m.key k) (g : Node → Node)
    (free : Bool) (premises : List Text) : (c.refilled k g free premises).Surrounded e m :=
  Surrounded.renumber (c := { c.change k fun t => ⟨g t.value, c.holes free premises⟩ with
    nextKey := c.nextKey + premises.length }) (hs.surrounded_change h hk _)

theorem surrounded_attachRule {q : RuleRequest}
    (hk : c.Has q.key → Relation.TransGen c.Links m.key q.key) (premises : List Text) :
    (c.attachRule q premises).canvas.Surrounded e m := by
  rcases c.attachRule_cases q premises with hr | ⟨n, c', children, hn, -, -, hc, -, hr⟩
  · rw [hr]
    exact h
  · have hrefilled : c'.Surrounded e m := by
      rw [hc]
      exact surrounded_refilled hs h (hk (key_mem_of_node? hn)) _ _ _
    rw [hr]
    exact hrefilled

theorem surrounded_deleteRule (hid : c.IsBelow m.key id) :
    (c.deleteRule id).canvas.Surrounded e m := by
  obtain ⟨t, place, ht, hk⟩ := hid
  rcases c.deleteRule_cases id with ⟨-, hr⟩ | ⟨t', target, ht', ⟨-, hr⟩ | ⟨-, c', hc, hr⟩⟩
  · rw [hr]
    exact h
  · rw [hr]
    exact h
  · obtain rfl : t' = t := eq_of_resolve? ht ht'
    have hrefilled : c'.Surrounded e m := by
      rw [hc]
      exact surrounded_refilled hs h hk _ _ _
    rw [hr]
    exact hrefilled

theorem surrounded_setName (hid : c.IsBelow m.key id) (name : Text) :
    (c.setName id name).canvas.Surrounded e m := by
  obtain ⟨t, place, ht, hk⟩ := hid
  simp only [setName, ht]
  exact hs.surrounded_change h hk _

theorem surrounded_toggle (hid : c.IsBelow m.key id) :
    (c.toggle id).canvas.Surrounded e m := by
  obtain ⟨t, place, ht, hk⟩ := hid
  simp only [toggle, ht]
  exact hs.surrounded_change h hk _

theorem surrounded_dropCopy (hid : c.IsBelow m.key id) (source : Nat) :
    (c.dropCopy id source).canvas.Surrounded e m := by
  obtain ⟨t, place, ht, hk⟩ := hid
  rcases c.dropCopy_cases id source with ⟨cause, -, hr⟩ |
    ⟨t', s, place', ht', -, -, ⟨-, -, hr⟩ | ⟨-, -, ⟨proof, -, hr⟩ | ⟨-, hr⟩⟩⟩
  · rw [hr]
    exact h
  · rw [hr, eq_of_resolve? ht ht']
    exact hs.surrounded_change h hk _
  · rw [hr, eq_of_resolve? ht ht']
    exact hs.surrounded_change h hk _
  · rw [hr]
    exact h

end Operations

/-- A hole, with nothing below it, stands in surroundings that a rule attached to it leaves. -/
theorem Sound.exists_surrounded_attachRule (hs : c.Sound) (h : c.Rests) {q : RuleRequest}
    (hn : c.node? q.key = some n) (hhole : n.body = .hole) (premises : List Text)
    (hok : (c.attachRule q premises).answer = .ok ()) :
    ∃ e, (∀ g : Node → Node,
        (c.changeNode q.key g).forest.map Node.face = e.fill ⟨(g n).face, .nil⟩) ∧
      (c.attachRule q premises).canvas.Surrounded e
        { n with body := .ruled q.rule, expanded := true }.face := by
  obtain ⟨⟨n, below⟩, ht, rfl⟩ := Option.map_eq_some_iff.mp hn
  obtain ⟨e', he, -, -, hu⟩ := Forest.exists_fill_of_distinct hs.distinct_keys ht
  obtain ⟨e, -, hmap⟩ := e'.map_fill Node.face
  obtain rfl : below = .nil := by
    have hrests : n.Rests below.tops := h _ (he ▸ e'.row_mem_fill ⟨n, below⟩)
    refine Forest.eq_nil_of_tops (hrests.eq_nil fun rule hrule => ?_)
    rw [hhole] at hrule
    cases hrule
  refine ⟨e, fun g => ?_, ?_⟩
  · rw [changeNode, change, hu, hmap]
    rfl
  · rcases c.attachRule_cases q premises with hr | ⟨n', c', children, -, -, -, hc, -, hr⟩
    · rw [hr] at hok
      cases hok
    · have hattached : c'.Surrounded e
          { n with body := .ruled q.rule, expanded := true }.face := by
        rw [hc, refilled]
        refine Surrounded.renumber ⟨(c.holes n'.free premises).map Node.face, ?_⟩
        rw [change, hu, hmap]
      rw [hr]
      exact hattached

/-- What is below a node with a rule goes when the rule is deleted, and what surrounds it stays. -/
theorem Surrounded.deleteRule (hs : c.Sound) (h : c.Surrounded e m) {rule : Text}
    (hrule : m.body = .ruled rule) {t : Tree Node} {place : Target}
    (ht : c.resolve? id = some (t, place)) (hk : t.value.key = m.key) :
    (c.deleteRule id).answer = .ok () ∧ (c.deleteRule id).canvas.forest.map Node.face =
      e.fill ⟨{ m with body := .hole }, .nil⟩ := by
  obtain ⟨looks, hlooks⟩ := h
  obtain ⟨e', ⟨n, below⟩, he, htree, rfl, -, hmap⟩ := hs.exists_fill_of_map_face hlooks
  have hfound := hs.tree?_of_resolve? ht
  rw [hk] at hfound
  obtain rfl := Option.some.inj (hfound.symm.trans htree)
  have hp : n.progress ≠ .empty := by
    have hbody : n.body = .ruled rule := hrule
    simp [Node.progress, hbody]
  obtain ⟨c', hc, hr⟩ := deleteRule_of_progress ht hp
  have hforest : c'.forest.map Node.face = e.fill ⟨{ n with body := .hole }.face, .nil⟩ := by
    rw [hc, refilled, map_face_renumber, change, he,
      Forest.Context.update_mark_fill (t := ⟨n, below⟩) (he ▸ hs.distinct_keys), hmap]
    rfl
  rw [hr]
  exact ⟨rfl, hforest⟩

/-- Deleting the rule of a node of the second canvas makes the node the hole that it was in the
first one, and the forest the one that there was, apart from ids and with the node unfolded. -/
structure Undoes (c c' : Canvas) (key id : Nat) : Prop where
  answer : (c'.deleteRule id).answer = .ok ()
  forest : (c'.deleteRule id).canvas.forest.map Node.face =
    (c.changeNode key fun n => { n with expanded := true }).forest.map Node.face
  hole : ∃ n, (c'.deleteRule id).canvas.tree? key = some ⟨n, .nil⟩ ∧ n.body = .hole
  size : (c'.deleteRule id).canvas.forest.size = c.forest.size

end Canvas

namespace Workbench

open Canvas

/-- The action attaches or deletes a rule, copies onto, names or folds a node strictly below the
node with the key, or it changes no node. The node of a rule that is answered late may be gone. -/
inductive ActsBelow (w : Workbench) (key : Nat) : Action → Prop
  | attachRule {slot : Text} {q : RuleRequest} (premises : List Text) :
      waiting? w.rules slot = some q →
      (w.canvas.Has q.key → Relation.TransGen w.canvas.Links key q.key) →
      ActsBelow w key (.command (.attachRule slot premises))
  | applyRule {id : Nat} (rule : Text) (premises : List Text) : w.canvas.IsBelow key id →
      ActsBelow w key (.command (.applyRule id rule premises))
  | deleteRule {id : Nat} : w.canvas.IsBelow key id → ActsBelow w key (.command (.deleteRule id))
  | dropCopy {id : Nat} (source : Nat) : w.canvas.IsBelow key id →
      ActsBelow w key (.command (.dropCopy id source))
  | setName {id : Nat} (name : Text) : w.canvas.IsBelow key id →
      ActsBelow w key (.command (.setName id name))
  | toggle {id : Nat} : w.canvas.IsBelow key id → ActsBelow w key (.command (.toggle id))
  | requestRule (id : Nat) (rule slot : Text) :
      ActsBelow w key (.command (.requestRule id rule slot))
  | takeEvents : ActsBelow w key .takeEvents

variable {w : Workbench} {e : Forest.Context Node} {m : Node} {a : Action}

theorem surrounded_act (hs : w.canvas.Sound) (h : w.canvas.Surrounded e m)
    (ha : ActsBelow w m.key a) : (w.act a).canvas.Surrounded e m := by
  cases ha with
  | takeEvents => exact h
  | requestRule id rule slot => rw [act, perform]; split <;> exact h
  | deleteRule hid => exact surrounded_deleteRule hs h hid
  | dropCopy source hid => exact surrounded_dropCopy hs h hid source
  | setName name hid => exact surrounded_setName hs h hid name
  | toggle hid => exact surrounded_toggle hs h hid
  | attachRule premises hq hk =>
    simp only [act, perform, hq]
    exact surrounded_attachRule hs h hk premises
  | applyRule rule premises hid =>
    obtain ⟨t, place, ht, hk⟩ := hid
    rw [act, perform]
    split
    next q hq =>
      obtain ⟨t', ht', -, rfl⟩ := exists_of_requestRule hq
      rw [← eq_of_resolve? ht ht'] at hk
      exact surrounded_attachRule hs h (fun _ => hk) premises
    next => exact h

theorem surrounded_run (hs : w.canvas.Sound) (h : w.canvas.Surrounded e m) {between : List Action}
    (hbelow : ∀ x ∈ trace act w between, ActsBelow x.1 m.key x.2) :
    (w.run between).canvas.Surrounded e m := by
  induction between generalizing w with
  | nil => exact h
  | cons a between ih =>
    obtain ⟨ha, hrest⟩ := List.forall_mem_cons.mp hbelow
    exact ih (sound_act w a hs) (surrounded_act hs h ha) hrest

/-- A rule is attached to a hole, anything happens strictly below the node, and the rule is deleted:
the forest is what it was. -/
theorem deleteRule_undoes (actions between : List Action) {key : Nat} {n : Node} {a : Action}
    (hn : (run {} actions).canvas.node? key = some n) (hhole : n.body = .hole)
    (ha : (run {} actions).Attaches key a) :
    let c := (run {} actions).canvas
    let w := (run {} actions).act a
    (∀ x ∈ trace act w between, ActsBelow x.1 key x.2) →
      (∃ id t, (w.run between).canvas.resolve? id = some (t, .copy) ∧ t.value.key = key) ∧
      ∀ id t place, (w.run between).canvas.resolve? id = some (t, place) → t.value.key = key →
        c.Undoes (w.run between).canvas key id := by
  intro c w hbelow
  have hs : c.Sound := sound_run actions
  obtain ⟨q, premises, rfl, hok, hw⟩ := ha.exists_request
  have hkey : n.key = q.key := by
    obtain ⟨t, ht, rfl⟩ := Option.map_eq_some_iff.mp hn
    exact (mem_of_tree? ht).2
  obtain ⟨e, hbefore, hattached⟩ :=
    hs.exists_surrounded_attachRule (rests_run actions) hn hhole premises hok
  rw [← hw] at hattached
  have hw' : w.canvas.Sound := sound_act _ a hs
  have hs' : (w.run between).canvas.Sound := run_preserves sound_act hw' between
  have hend := surrounded_run hw' hattached fun x hx => by
    have hx := hbelow x hx
    rwa [← hkey] at hx
  refine ⟨?_, fun id t place ht hk => ?_⟩
  · obtain ⟨looks, hlooks⟩ := hend
    obtain ⟨-, t', -, htree, -⟩ := hs'.exists_fill_of_map_face hlooks
    obtain ⟨hmem, hk⟩ := mem_of_tree? htree
    obtain ⟨t, ht, hid⟩ := hs'.resolve?_id hmem
    exact ⟨t'.value.id, t, hid, by rw [ht, hk, ← hkey]; rfl⟩
  · obtain ⟨hanswer, hforest⟩ := hend.deleteRule hs' rfl ht (hk.trans hkey.symm)
    -- the node was a hole before, so without the rule it is what it was
    have hback : { { n with body := .ruled q.rule, expanded := true }.face with body := .hole } =
        { n with expanded := true }.face := by
      rw [← hhole]
      rfl
    rw [hback, ← hbefore fun n => { n with expanded := true }] at hforest
    have hedited' : (w.run between).canvas.Edited (fun _ => False)
        ((w.run between).canvas.deleteRule id).canvas := .deleteRule id
    refine ⟨hanswer, hforest, ?_, ?_⟩
    · obtain ⟨-, ⟨m, below⟩, -, htree, hface, hnone, -⟩ :=
        (hs'.edited hedited').exists_fill_of_map_face (hforest.trans (hbefore _))
      obtain rfl := Forest.eq_nil_of_map hnone
      have hbody := congrArg Node.body hface
      exact ⟨m, hkey ▸ htree, hbody.trans hhole⟩
    · rw [← Forest.size_map Node.face, hforest, Forest.size_map]
      exact (keeps_changeNode c _ (fun _ => by rfl) fun _ => by rfl).size

/-- Two levels of nodes grow below a root and a name is given, before the root's rule is deleted. -/
theorem undoes_two_levels :
    let before := run {} [.command (.addConclusion ['g'] false)]
    let w := before.act (.command (.applyRule 1 ['r'] [['a'], ['b']]))
    let between := [Action.command (.applyRule 5 ['s'] [['c']]), .command (.setName 12 ['n'])]
    (w.run between).canvas.forest.size = 4 ∧
      before.canvas.Undoes (w.run between).canvas 0 8 := by
  intro before w between
  have ha : before.Attaches 0 (.command (.applyRule 1 ['r'] [['a'], ['b']])) :=
    .applyRule (q := ⟨0, ['g'], ['r']⟩) rfl rfl rfl
  have hundoes := deleteRule_undoes [.command (.addConclusion ['g'] false)] between rfl rfl ha
  have hfirst : Relation.TransGen w.canvas.Links 0 1 := .single ⟨[1, 2], by decide, by decide⟩
  have hsecond : Relation.TransGen (w.run [between[0]]).canvas.Links 0 3 :=
    .tail (b := 1) (.single ⟨[1, 2], by decide, by decide⟩) ⟨[3], by decide, by decide⟩
  refine ⟨rfl, (hundoes ?_).2 8 _ .copy rfl rfl⟩
  refine List.forall_mem_cons.mpr ⟨.applyRule _ _ ⟨_, .rule, rfl, hfirst⟩, ?_⟩
  exact List.forall_mem_singleton.mpr (.setName _ ⟨_, .copy, rfl, hsecond⟩)

end Workbench

end ProofDesk
