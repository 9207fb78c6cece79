import ProofDesk.Proofs.Canvas.Edited
import ProofDesk.Proofs.Canvas.Rewording
import ProofDesk.Proofs.Forest.Rows

namespace ProofDesk

namespace Node

/-- The rule attached to a node. -/
def attached? (n : Node) : Option Text :=
  match n.body with
  | .ruled rule => some rule
  | _ => none

/-- The derivation delivered to a node. -/
def subtree? (n : Node) : Option Derivation :=
  match n.body with
  | .delivered proof => some proof
  | _ => none

/-- A node and the nodes right below it are as they may be. -/
structure Rests (n : Node) (children : List Node) : Prop where
  ruled : children ≠ [] → ∃ rule, n.body = .ruled rule
  below : ∀ m ∈ children, m.isTopDown = false ∧ m.free = n.free
  gathered : ∀ premises, n.body = .gathering premises →
    n.conclusion = [] ∧ ∀ p ∈ premises, Text.isBlankText p = false

end Node

namespace Canvas

def Rests (c : Canvas) : Prop :=
  ∀ r ∈ c.forest.rows, r.1.Rests r.2

end Canvas

/-- The targets of a request are different nodes, each with a conclusion. -/
structure SubstitutionRequest.Proper (q : SubstitutionRequest) : Prop where
  distinct : (q.targets.map Prod.fst).Nodup
  named : ∀ target ∈ q.targets, target.2 ≠ []

namespace Node

theorem isTopDown_iff {n : Node} :
    n.isTopDown = true ↔ ∃ premises, n.body = .gathering premises := by
  rw [isTopDown]
  split <;> simp_all

/-- Of a node only the body, the conclusion and the flag matter, of a child its kind and flag. -/
theorem Rests.map {n : Node} {children : List Node} (h : n.Rests children) {g : Node → Node}
    (hbody : (g n).body = n.body)
    (hconclusion : n.isTopDown = true → (g n).conclusion = n.conclusion) (hfree : (g n).free = n.free)
    (hbelow : ∀ m ∈ children, m.isTopDown = false → (g m).isTopDown = false ∧ (g m).free = m.free) :
    (g n).Rests (children.map g) where
  ruled hne := by
    rw [hbody]
    exact h.ruled fun he => hne (by rw [he, List.map_nil])
  below m' hm' := by
    obtain ⟨m, hm, rfl⟩ := List.mem_map.mp hm'
    obtain ⟨htop, hf⟩ := h.below m hm
    obtain ⟨htop', hf'⟩ := hbelow m hm htop
    exact ⟨htop', by rw [hf', hf, hfree]⟩
  gathered premises hp := by
    rw [hbody] at hp
    rw [hconclusion (isTopDown_iff.mpr ⟨premises, hp⟩)]
    exact h.gathered premises hp

def face (n : Node) : Node :=
  { n with id := 0 }

@[simp] theorem body_face (n : Node) : n.face.body = n.body := rfl

@[simp] theorem conclusion_face (n : Node) : n.face.conclusion = n.conclusion := rfl

@[simp] theorem free_face (n : Node) : n.face.free = n.free := rfl

theorem Rests.of_face {n n' : Node} {children children' : List Node} (h : n.Rests children)
    (hn : n'.face = n.face) (hc : children'.map face = children.map face) :
    n'.Rests children' := by
  have hbody : n'.body = n.body := by rw [← body_face, hn, body_face]
  have hfree : n'.free = n.free := by rw [← free_face, hn, free_face]
  have hconclusion : n'.conclusion = n.conclusion := by
    rw [← conclusion_face, hn, conclusion_face]
  refine ⟨fun hne => ?_, fun m' hm' => ?_, fun premises hp => ?_⟩
  · rw [hbody]
    refine h.ruled fun he => hne ?_
    rw [he] at hc
    exact List.map_eq_nil_iff.mp hc
  · obtain ⟨m, hm, he⟩ := List.mem_map.mp (hc ▸ List.mem_map_of_mem hm')
    obtain ⟨htop, hf⟩ := h.below m hm
    have hb : m.body = m'.body := by rw [← body_face, he, body_face]
    have hf' : m.free = m'.free := by rw [← free_face, he, free_face]
    rw [isTopDown, ← hb, ← hf', hfree]
    exact ⟨htop, hf⟩
  · rw [hconclusion]
    exact h.gathered premises (hbody ▸ hp)

theorem Rests.eq_nil {n : Node} {children : List Node} (h : n.Rests children)
    (hn : ∀ rule, n.body ≠ .ruled rule) : children = [] := by
  by_contra hne
  obtain ⟨rule, hrule⟩ := h.ruled hne
  exact hn rule hrule

theorem rests_of_hole {n : Node} (h : n.body = .hole) : n.Rests [] where
  ruled hne := absurd rfl hne
  below m hm := by cases hm
  gathered premises hp := by simp [h] at hp

end Node

namespace Canvas

variable {c : Canvas}

theorem Sound.conclusion_of_isFresh (hs : c.Sound) {q : SubstitutionRequest}
    (hf : c.isFresh q = true)
    {n : Node} (hn : n ∈ c.forest.preorder) {conclusion : Text}
    (ht : (n.key, conclusion) ∈ q.targets) : n.conclusion = conclusion := by
  have hall := List.all_eq_true.mp hf _ ht
  simpa [hs.node?_key hn] using hall

theorem proper_of_requestSubstitution (hs : c.Sound) {id : Nat} {old new : Text} {d : Direction}
    {q : SubstitutionRequest} (h : c.requestSubstitution id old new d = .ok q) : q.Proper := by
  refine ⟨nodup_targets_of_requestSubstitution hs h, fun captured hc => ?_⟩
  obtain ⟨t, target, -, rfl⟩ := exists_of_requestSubstitution h
  obtain ⟨n, hn, rfl⟩ := List.mem_map.mp hc
  simpa using (List.mem_filter.mp hn).2

theorem rests_empty : ({} : Canvas).Rests := by
  intro r hr
  cases hr

theorem Rests.note (h : c.Rests) (e : Event) : (c.note e).Rests := h

theorem Rests.noteLineage (h : c.Rests) (key : Nat) : (c.noteLineage key).Rests := h

theorem Rests.renumber (h : c.Rests) : c.renumber.Rests := by
  intro r' hr'
  have hm := List.mem_map_of_mem (f := fun r : Node × List Node => (r.1.face, r.2.map Node.face))
    hr'
  rw [← Forest.rows_map, Canvas.renumber, Forest.map_number (fun _ _ => rfl), Forest.rows_map] at hm
  obtain ⟨r, hr, he⟩ := List.mem_map.mp hm
  obtain ⟨hn, hc⟩ := Prod.mk.inj he
  exact (h r hr).of_face hn.symm hc.symm

theorem Rests.change (h : c.Rests) {key : Nat} {g : Node → Node} {k : Forest Node → Forest Node}
    (hfree : ∀ n, (g n).free = n.free) (hdown : ∀ n, n.isTopDown = false → (g n).isTopDown = false)
    (inside : ∀ n below, (n, below.tops) ∈ c.forest.rows → below.rows ⊆ c.forest.rows →
      n.key = key → (g n).Rests (k below).tops ∧ ∀ r ∈ (k below).rows, r.1.Rests r.2) :
    (c.change key fun t => ⟨g t.value, k t.below⟩).Rests := by
  refine Forest.forall_rows_update (fun n children hr hk => ?_) fun n below hr hb hk =>
    inside n below hr hb (by simpa using hk)
  have hmap := (h _ hr).map (g := fun m => if m.key == key then g m else m)
  simp only [hk] at hmap
  refine hmap rfl (fun _ => rfl) rfl fun m _ htop => ?_
  split
  next => exact ⟨hdown m htop, hfree m⟩
  next => exact ⟨htop, rfl⟩

theorem Rests.changeNode (h : c.Rests) {key : Nat} {g : Node → Node}
    (hfree : ∀ n, (g n).free = n.free) (hdown : ∀ n, n.isTopDown = false → (g n).isTopDown = false)
    (inside : ∀ n children, n ∈ c.forest.preorder → n.key = key → n.Rests children →
      (g n).Rests children) : (c.changeNode key g).Rests := by
  refine h.change (k := fun below => below) hfree hdown fun n below hr hb hk => ?_
  have hn := Forest.mem_preorder_of_row hr
  exact ⟨inside n below.tops hn hk (h _ hr), fun r hm => h r (hb hm)⟩

/-- A refilled node is ruled or has nothing below it. -/
theorem Rests.refilled (h : c.Rests) {key : Nat} {g : Node → Node} {free : Bool}
    {premises : List Text} (hfree : ∀ n, (g n).free = n.free)
    (hbody : ∀ n, (∃ rule, (g n).body = .ruled rule) ∨ (g n).body = .hole ∧ premises = [])
    (hflag : ∀ n ∈ c.forest.preorder, n.key = key → premises ≠ [] → n.free = free) :
    (c.refilled key g free premises).Rests := by
  have hdown : ∀ n, (g n).isTopDown = false := by
    intro n
    rcases hbody n with ⟨rule, hb⟩ | ⟨hb, -⟩ <;> rw [Node.isTopDown, hb]
  have hchange : (c.change key fun t => ⟨g t.value, c.holes free premises⟩).Rests := by
    refine h.change (k := fun _ => c.holes free premises) hfree (fun n _ => hdown n)
      fun n below hr _ hk => ⟨?_, ?_⟩
    · have hn := Forest.mem_preorder_of_row hr
      rcases hbody n with ⟨rule, hb⟩ | ⟨hb, rfl⟩
      · refine ⟨fun _ => ⟨rule, hb⟩, fun m hm => ?_, fun ps hp => by simp [hb] at hp⟩
        rw [holes, Forest.tops_ofValues] at hm
        obtain ⟨entry, hentry, rfl⟩ := List.mem_map.mp hm
        have hne : premises ≠ [] := by
          rintro rfl
          cases hentry
        exact ⟨rfl, by rw [hfree, hflag n hn hk hne]⟩
      · exact Node.rests_of_hole hb
    · rw [holes, Forest.rows_ofValues]
      intro r hm
      obtain ⟨m, hhole, rfl⟩ := List.mem_map.mp hm
      obtain ⟨entry, -, rfl⟩ := List.mem_map.mp hhole
      exact Node.rests_of_hole rfl
  exact Rests.renumber hchange

section Operations

variable (h : c.Rests)

include h

theorem rests_addRoot {conclusion : Text} {body : Body} (free : Bool)
    (hroot : ∀ n : Node, n.conclusion = conclusion → n.body = body → n.Rests []) :
    (c.addRoot conclusion free body).2.Rests := by
  refine Rests.note (Rests.renumber fun r hr => ?_) _
  rw [Forest.rows_append] at hr
  rcases List.mem_append.mp hr with hr | hr
  · exact h r hr
  · obtain rfl : r = (⟨c.nextKey, 0, conclusion, [], free, true, body⟩, []) := by
      simpa [Forest.rows, Forest.tops] using hr
    exact hroot _ rfl rfl

theorem rests_addPremises (premises : List Text) (free : Bool) :
    (c.addPremises premises free).2.Rests := by
  refine rests_addRoot h free fun n hconclusion hbody => ?_
  refine ⟨fun hne => absurd rfl hne, fun m hm => (by cases hm), fun ps hp => ⟨hconclusion, ?_⟩⟩
  rw [hbody] at hp
  intro p hm
  rw [← Body.gathering.inj hp] at hm
  simpa using (List.mem_filter.mp hm).2

theorem rests_removeRoot (id : Nat) : (c.removeRoot id).canvas.Rests := by
  rcases c.removeRoot_cases id with ⟨cause, -, hr⟩ | ⟨t, target, -, -, hr⟩
  · rw [hr]
    exact h
  · rw [hr]
    refine Rests.note (Rests.renumber fun r hm => ?_) _
    exact h r (Forest.rows_eraseTops_subset _ _ hm)

theorem rests_setName (id : Nat) (name : Text) : (c.setName id name).canvas.Rests := by
  rcases c.setName_cases id name with ⟨cause, -, hr⟩ | ⟨t, target, -, hr⟩
  · rw [hr]
    exact h
  · rw [hr]
    exact h.changeNode (fun _ => rfl) (fun _ ht => ht) fun n children _ _ hn =>
      ⟨hn.ruled, hn.below, hn.gathered⟩

theorem rests_toggle (id : Nat) : (c.toggle id).canvas.Rests := by
  rcases c.toggle_cases id with ⟨cause, -, hr⟩ | ⟨t, target, -, hr⟩
  · rw [hr]
    exact h
  · rw [hr]
    exact h.changeNode (fun _ => rfl) (fun _ ht => ht) fun n children _ _ hn =>
      ⟨hn.ruled, hn.below, hn.gathered⟩

theorem rests_attachRule (hs : c.Sound) (q : RuleRequest) (premises : List Text) :
    (c.attachRule q premises).canvas.Rests := by
  rcases c.attachRule_cases q premises with hr | ⟨n, c', children, hn, -, -, hc, -, hr⟩
  · rw [hr]
    exact h
  · have ha : c'.Rests := by
      rw [hc]
      refine h.refilled (fun _ => rfl) (fun _ => Or.inl ⟨q.rule, rfl⟩) fun m hm hk _ => ?_
      rw [hs.eq_of_node? hn hm hk]
    rw [hr]
    exact (ha.note _).noteLineage _

theorem rests_promote (hs : c.Sound) (q : TopDownRequest) (conclusion : Text) :
    (c.promote q conclusion).canvas.Rests := by
  rcases c.promote_cases q conclusion with hr | ⟨n, c', hn, -, hc, hr⟩
  · rw [hr]
    exact h
  · have ha : c'.Rests := by
      rw [hc]
      refine h.refilled (fun _ => rfl) (fun _ => Or.inl ⟨q.rule, rfl⟩) fun m hm hk _ => ?_
      rw [hs.eq_of_node? hn hm hk]
    rw [hr]
    exact (ha.note _).noteLineage _

theorem rests_deleteRule (id : Nat) : (c.deleteRule id).canvas.Rests := by
  rcases c.deleteRule_cases id with ⟨-, hr⟩ | ⟨t, target, -, ⟨-, hr⟩ | ⟨-, c', hc, hr⟩⟩
  · rw [hr]
    exact h
  · rw [hr]
    exact h
  · have ha : c'.Rests := by
      rw [hc]
      exact h.refilled (fun _ => rfl) (fun _ => Or.inr ⟨rfl, rfl⟩) fun _ _ _ hne => absurd rfl hne
    rw [hr]
    exact (ha.note _).noteLineage _

theorem rests_pushPremise (n : Node) {premise : Text} (hp : Text.isBlankText premise = false) :
    (c.pushPremise n premise).Rests := by
  refine Rests.note (h.changeNode (fun m => ?_) (fun m htop => ?_) fun m children _ _ hm => ?_) _
  · split <;> rfl
  · split
    next premises hb => simp [Node.isTopDown, hb] at htop
    next => exact htop
  · split
    next premises hb =>
      obtain ⟨hconclusion, hblank⟩ := hm.gathered premises hb
      refine ⟨fun hne => ?_, hm.below, fun ps hps => ⟨hconclusion, fun p hmem => ?_⟩⟩
      · obtain ⟨rule, hrule⟩ := hm.ruled hne
        rw [hb] at hrule
        cases hrule
      · rw [← Body.gathering.inj hps] at hmem
        rcases List.mem_append.mp hmem with hmem | hmem
        · exact hblank p hmem
        · rw [List.mem_singleton.mp hmem]
          exact hp
    next => exact hm

theorem rests_dropPremise (id : Nat) (premise : Text) :
    (c.dropPremise id premise).canvas.Rests := by
  rcases c.dropPremise_cases id premise with ⟨cause, -, hr⟩ | ⟨t, target, -, -, hblank, hr⟩
  · rw [hr]
    exact h
  · rw [hr]
    exact rests_pushPremise h _ (by rw [Text.isBlankText_trim, hblank])

/-- A delivery goes to a hole, and there is nothing below a hole. -/
theorem rests_dropCopy (hs : c.Sound) (target source : Nat) :
    (c.dropCopy target source).canvas.Rests := by
  rcases c.dropCopy_cases target source with ⟨cause, -, hr⟩ |
    ⟨t, s, place, ht, -, -, ⟨-, hblank, hr⟩ | ⟨hhole, -, ⟨proof, -, hr⟩ | ⟨-, hr⟩⟩⟩
  · rw [hr]
    exact h
  · rw [hr]
    exact rests_pushPremise h _ hblank
  · rw [hr]
    refine Rests.noteLineage (Rests.note
      (h.changeNode (g := fun n => { n with body := .delivered proof })
        (fun _ => rfl) (fun _ _ => rfl) fun n children hn hk hm => ?_) _) _
    have hnode : n = t.value := hs.eq_of_key_eq hn (mem_of_resolve? ht) hk
    obtain rfl : children = [] := hm.eq_nil fun rule hrule => by
      rw [hnode, hhole] at hrule
      cases hrule
    exact ⟨fun hne => absurd rfl hne, hm.below, fun ps hps => by simp at hps⟩
  · rw [hr]
    exact h.note _

/-- A substitution gives nothing to a node that gathers premises: such a node has no conclusion, and
only nodes with one are captured. -/
theorem rests_substitute (hs : c.Sound) {q : SubstitutionRequest} (hq : q.Proper)
    (results : List (Option Text)) : (c.substitute q results).canvas.Rests := by
  by_cases hl : results.length = q.targets.length
  case neg =>
    rw [substitute, if_pos (Or.inl hl)]
    exact h
  by_cases hf : c.isFresh q = true
  case neg =>
    rw [substitute, if_pos (Or.inr (by simpa using hf))]
    exact h
  have hforest := forest_substitute hs hq.distinct hl hf
  have hbody : ∀ n : Node, (n.reword (q.targets.zip results)).body = n.body := by
    intro n
    rcases n.reword_cases (q.targets.zip results) with he | ⟨old, conclusion, -, he⟩ <;> rw [he]
  have hfree : ∀ n : Node, (n.reword (q.targets.zip results)).free = n.free := by
    intro n
    rcases n.reword_cases (q.targets.zip results) with he | ⟨old, conclusion, -, he⟩ <;> rw [he]
  rw [Canvas.Rests, hforest, Forest.rows_map]
  intro r' hr'
  obtain ⟨r, hr, rfl⟩ := List.mem_map.mp hr'
  refine (h r hr).map (hbody _) (fun htop => ?_) (hfree _) fun m _ htop => ⟨?_, hfree m⟩
  · rcases r.1.reword_cases (q.targets.zip results) with he | ⟨old, conclusion, hpair, -⟩
    · rw [he]
    · obtain ⟨premises, hp⟩ := Node.isTopDown_iff.mp htop
      have hempty := ((h r hr).gathered premises hp).1
      have htarget := (List.of_mem_zip hpair).1
      have hold := hs.conclusion_of_isFresh hf (Forest.mem_preorder_of_row hr) htarget
      exact absurd (hold.symm.trans hempty) (hq.named _ htarget)
  · rw [Node.isTopDown, hbody m]
    exact htop

/-- Every operation keeps nodes in the states that they may be in. -/
theorem Rests.edited (hs : c.Sound) {Begun : SubstitutionRequest → Prop} {c' : Canvas}
    (begun : ∀ q, Begun q → q.Proper) (he : c.Edited Begun c') : c'.Rests := by
  cases he with
  | same => exact h
  | takeEvents => exact h
  | addConclusion conclusion free => exact rests_addRoot h free fun _ _ hb => Node.rests_of_hole hb
  | addPremises premises free => exact rests_addPremises h premises free
  | removeRoot id => exact rests_removeRoot h id
  | setName id name => exact rests_setName h id name
  | toggle id => exact rests_toggle h id
  | attachRule q premises => exact rests_attachRule h hs q premises
  | promote q conclusion => exact rests_promote h hs q conclusion
  | deleteRule id => exact rests_deleteRule h id
  | dropCopy target source => exact rests_dropCopy h hs target source
  | dropPremise target premise => exact rests_dropPremise h target premise
  | substitute q results hq => exact rests_substitute h hs (begun q hq) results

end Operations

end Canvas

namespace Workbench

theorem rests_run (actions : List Action) : (run {} actions).canvas.Rests := by
  have h : (run {} actions).canvas.Sound ∧ (run {} actions).canvas.Rests ∧
      ∀ e ∈ (run {} actions).substitutions, e.2.Proper := by
    refine run_preserves (P := fun w => w.canvas.Sound ∧ w.canvas.Rests ∧
      ∀ e ∈ w.substitutions, e.2.Proper) ?_ ?_ actions
    · rintro w a ⟨hs, hrests, hproper⟩
      have hedited := w.edited_act a
      refine ⟨hs.edited hedited, hrests.edited hs ?_ hedited, ?_⟩
      · rintro q ⟨slot, results, -, hq⟩
        obtain ⟨e, he, rfl⟩ := mem_of_waiting? hq
        exact hproper e he
      · exact forall_substitutions_act
          (fun _ _ _ _ q hq => Canvas.proper_of_requestSubstitution hs hq) hproper a
    · exact ⟨Canvas.sound_empty, Canvas.rests_empty, fun _ he => by cases he⟩
  exact h.2.1

end Workbench

end ProofDesk
