import ProofDesk.Proofs.Canvas.Delivery
import ProofDesk.Proofs.Canvas.Overtaking

namespace ProofDesk

/-- The derivation under a name, unless that is blank. -/
def Derivation.named (proof : Derivation) (name : Text) : Derivation :=
  ⟨{ proof.value with name := if Text.isBlankText name then proof.value.name else name },
    proof.below⟩

theorem Node.deliveredAs_eq_named (n : Node) (proof : Derivation) :
    n.deliveredAs proof = proof.named n.name := by
  rw [deliveredAs, Derivation.named]
  split <;> rfl

theorem Node.subtree?_eq_some_iff {n : Node} {proof : Derivation} :
    n.subtree? = some proof ↔ n.body = .delivered proof := by
  cases hb : n.body <;> simp [subtree?, hb]

namespace Canvas

variable {c c' c'' : Canvas} {k key : Nat}

/-- Whatever name the node with the key has in the second canvas it had in the first. -/
def KeepsName (c c' : Canvas) (key : Nat) : Prop :=
  ∀ n' ∈ c'.forest.preorder, n'.key = key →
    ∃ n ∈ c.forest.preorder, n.key = key ∧ n.name = n'.name

section Names

theorem KeepsName.refl (c : Canvas) (key : Nat) : c.KeepsName c key :=
  fun n hn hk => ⟨n, hn, hk, rfl⟩

theorem KeepsName.trans (h : c.KeepsName c' key) (h' : c'.KeepsName c'' key) :
    c.KeepsName c'' key := by
  intro n'' hn'' hk''
  obtain ⟨n', hn', hk', he'⟩ := h' n'' hn'' hk''
  obtain ⟨n, hn, hk, he⟩ := h n' hn' hk'
  exact ⟨n, hn, hk, he.trans he'⟩

theorem KeepsName.note (h : c.KeepsName c' key) (e : Event) : c.KeepsName (c'.note e) key := h

theorem KeepsName.noteLineage (h : c.KeepsName c' key) (k : Nat) :
    c.KeepsName (c'.noteLineage k) key := h

theorem KeepsName.renumber {d : Canvas} (h : c.KeepsName d key) :
    c.KeepsName d.renumber key := by
  intro n' hn' hk
  obtain ⟨n, hn, id, rfl⟩ := Forest.exists_of_mem_number hn'
  exact h n hn hk

theorem keepsName_changeNode {g : Node → Node} (hkey : ∀ n, (g n).key = n.key)
    (hname : k = key → ∀ n, (g n).name = n.name) : c.KeepsName (c.changeNode k g) key := by
  intro n' hn' hk
  rcases Forest.mem_preorder_update hn' with hn' | ⟨t, ht, hbelow, hkt, hn'⟩
  · exact ⟨n', hn', hk, rfl⟩
  · rcases List.mem_cons.mp hn' with rfl | hn'
    · have hkt : t.value.key = k := by simpa using hkt
      rw [hkey] at hk
      exact ⟨t.value, ht, hk, (hname (hkt.symm.trans hk) t.value).symm⟩
    · exact ⟨n', hbelow hn', hk, rfl⟩

theorem keepsName_refilled {g : Node → Node} (hkey : ∀ n, (g n).key = n.key)
    (hname : ∀ n, (g n).name = n.name) (hlt : key < c.nextKey) (free : Bool)
    (premises : List Text) : c.KeepsName (c.refilled k g free premises) key := by
  refine KeepsName.renumber (d := { c.change k fun t => ⟨g t.value, c.holes free premises⟩ with
    nextKey := c.nextKey + premises.length }) fun n' hn' hk => ?_
  rcases Forest.mem_preorder_update hn' with hn' | ⟨t, ht, -, -, hn'⟩
  · exact ⟨n', hn', hk, rfl⟩
  · rcases List.mem_cons.mp hn' with rfl | hn'
    · exact ⟨t.value, ht, (hkey _).symm.trans hk, (hname _).symm⟩
    · -- the new holes have keys that were not given out before
      rw [holes, Forest.preorder_ofValues] at hn'
      obtain ⟨⟨conclusion, i⟩, -, rfl⟩ := List.mem_map.mp hn'
      have hge : c.nextKey ≤ key := hk ▸ Nat.le_add_right _ _
      omega

theorem keepsName_addRoot (hlt : key < c.nextKey) (conclusion : Text) (free : Bool) (body : Body) :
    c.KeepsName (c.addRoot conclusion free body).2 key := by
  refine KeepsName.renumber (d := { c with
    forest := c.forest.append (.cons ⟨c.nextKey, 0, conclusion, [], free, true, body⟩ .nil .nil),
    nextKey := c.nextKey + 1 }) fun n' hn' hk => ?_
  rw [Forest.preorder_append] at hn'
  rcases List.mem_append.mp hn' with hn' | hn'
  · exact ⟨n', hn', hk, rfl⟩
  · obtain rfl := List.mem_singleton.mp hn'
    have hk : c.nextKey = key := hk
    omega

theorem keepsName_removeRoot (id : Nat) : c.KeepsName (c.removeRoot id).canvas key := by
  rcases c.removeRoot_cases id with ⟨cause, -, hr⟩ | ⟨t, target, -, -, hr⟩
  · rw [hr]
    exact .refl c key
  · rw [hr]
    refine KeepsName.renumber (d := { c with
      forest := c.forest.eraseTops fun n => n.key == t.value.key }) fun n' hn' hk => ?_
    exact ⟨n', (Forest.preorder_eraseTops_sublist _ _).subset hn', hk, rfl⟩

theorem keepsName_setName {id : Nat}
    (hne : ∀ t target, c.resolve? id = some (t, target) → t.value.key ≠ key) (name : Text) :
    c.KeepsName (c.setName id name).canvas key := by
  rcases c.setName_cases id name with ⟨cause, -, hr⟩ | ⟨t, target, ht, hr⟩
  · rw [hr]
    exact .refl c key
  · rw [hr]
    exact keepsName_changeNode (fun _ => rfl) fun hk => absurd hk (hne t target ht)

theorem keepsName_toggle (id : Nat) : c.KeepsName (c.toggle id).canvas key := by
  rcases c.toggle_cases id with ⟨cause, -, hr⟩ | ⟨t, target, -, hr⟩
  · rw [hr]
    exact .refl c key
  · rw [hr]
    exact keepsName_changeNode (fun _ => rfl) fun _ _ => rfl

theorem keepsName_attachRule (hlt : key < c.nextKey) (q : RuleRequest) (premises : List Text) :
    c.KeepsName (c.attachRule q premises).canvas key := by
  rcases c.attachRule_cases q premises with hr | ⟨n, c', children, -, -, -, hc, -, hr⟩
  · rw [hr]
    exact .refl c key
  · have hkept : c.KeepsName c' key := by
      rw [hc]
      exact keepsName_refilled (fun _ => by rfl) (fun _ => by rfl) hlt _ _
    rw [hr]
    exact (hkept.note _).noteLineage _

theorem keepsName_promote (hlt : key < c.nextKey) (q : TopDownRequest) (conclusion : Text) :
    c.KeepsName (c.promote q conclusion).canvas key := by
  rcases c.promote_cases q conclusion with hr | ⟨n, c', -, -, hc, hr⟩
  · rw [hr]
    exact .refl c key
  · have hkept : c.KeepsName c' key := by
      rw [hc]
      exact keepsName_refilled (fun _ => by rfl) (fun _ => by rfl) hlt _ _
    rw [hr]
    exact (hkept.note _).noteLineage _

theorem keepsName_deleteRule (hlt : key < c.nextKey) (id : Nat) :
    c.KeepsName (c.deleteRule id).canvas key := by
  rcases c.deleteRule_cases id with ⟨-, hr⟩ | ⟨t, target, -, ⟨-, hr⟩ | ⟨-, c', hc, hr⟩⟩
  · rw [hr]
    exact .refl c key
  · rw [hr]
    exact .refl c key
  · have hkept : c.KeepsName c' key := by
      rw [hc]
      exact keepsName_refilled (fun _ => by rfl) (fun _ => by rfl) hlt _ _
    rw [hr]
    exact (hkept.note _).noteLineage _

theorem keepsName_pushPremise (n : Node) (premise : Text) :
    c.KeepsName (c.pushPremise n premise) key := by
  refine (keepsName_changeNode (fun m => ?_) fun _ m => ?_).note _
  · split <;> rfl
  · split <;> rfl

theorem keepsName_dropPremise (id : Nat) (premise : Text) :
    c.KeepsName (c.dropPremise id premise).canvas key := by
  rcases c.dropPremise_cases id premise with ⟨cause, -, hr⟩ | ⟨t, target, -, -, -, hr⟩
  · rw [hr]
    exact .refl c key
  · rw [hr]
    exact keepsName_pushPremise _ _

theorem keepsName_deliver (n : Node) (proof : Derivation) :
    c.KeepsName (c.deliver n proof) key := by
  have hkept : c.KeepsName (c.changeNode n.key fun n => { n with body := .delivered proof }) key :=
    keepsName_changeNode (fun _ => rfl) fun _ _ => rfl
  exact (hkept.note _).noteLineage _

theorem keepsName_dropCopy (target source : Nat) :
    c.KeepsName (c.dropCopy target source).canvas key := by
  rcases c.dropCopy_cases target source with ⟨cause, -, hr⟩ |
    ⟨t, s, place, -, -, -, ⟨-, -, hr⟩ | ⟨-, -, ⟨proof, -, hr⟩ | ⟨-, hr⟩⟩⟩
  · rw [hr]
    exact .refl c key
  · rw [hr]
    exact keepsName_pushPremise _ _
  · rw [hr]
    exact keepsName_deliver _ _
  · rw [hr]
    exact (KeepsName.refl c key).note _

theorem keepsName_setConclusion (k : Nat) (conclusion : Text) :
    c.KeepsName (c.setConclusion k conclusion) key := by
  rw [setConclusion]
  split
  next => exact .refl c key
  next =>
    split
    next => exact .refl c key
    next => exact (keepsName_changeNode (fun _ => by rfl) fun _ _ => by rfl).note _

theorem keepsName_substitute (q : SubstitutionRequest) (results : List (Option Text)) :
    c.KeepsName (c.substitute q results).canvas key := by
  rw [substitute]
  split
  next => exact .refl c key
  next =>
    refine List.foldlRecOn (motive := fun d => c.KeepsName d key) _ _ (.refl c key) ?_
    rintro d hd ⟨⟨k, old⟩, result⟩ -
    cases result with
    | none => exact hd
    | some conclusion => exact hd.trans (keepsName_setConclusion k conclusion)

end Names

/-- The node with the key has the given name, and the derivation was delivered to it. -/
def Received (c : Canvas) (key : Nat) (name : Text) (proof : Derivation) : Prop :=
  ∃ n ∈ c.forest.preorder, n.key = key ∧ n.name = name ∧ n.body = .delivered proof

/-- The node with the key has the derivation, under every id that stands for it. -/
structure Proves (c : Canvas) (key : Nat) (d : Derivation) : Prop where
  derivationOf : c.derivationOf? key = some d
  derivation : ∀ id t place, c.resolve? id = some (t, place) → t.value.key = key →
    c.derivation? id = some d

variable {name : Text} {proof : Derivation} {t s : Tree Node} {place : Target}
  {target source : Nat}

theorem Sound.proves_of_received (hs : c.Sound) (h : c.Received key name proof) :
    c.Proves key (proof.named name) := by
  obtain ⟨n, hn, rfl, rfl, hbody⟩ := h
  have hderives : ∀ t : Tree Node, t.value = n → t.derivation? = some (proof.named n.name) := by
    rintro t rfl
    rw [Tree.derivation?_eq]
    simp only [hbody, Node.deliveredAs_eq_named]
  refine ⟨?_, fun id t place ht hk => ?_⟩
  · obtain ⟨t, ht, hv⟩ := Option.map_eq_some_iff.mp (hs.node?_key hn)
    rw [derivationOf?, ht, Option.bind_some, hderives t hv]
  · rw [derivation?_of_resolve? ht, hderives t (hs.eq_of_key_eq (mem_of_resolve? ht) hn hk)]

theorem Sound.subtree?_of_inherits (hs : c.Sound) (h : c.Inherits c' key) {n n' : Node}
    (hn : n ∈ c.forest.preorder) (hk : n.key = key) (hn' : n' ∈ c'.forest.preorder)
    (hk' : n'.key = key) : n'.subtree? = n.subtree? := by
  rw [← Forest.map_fst_rows] at hn'
  obtain ⟨r', hr', rfl⟩ := List.mem_map.mp hn'
  obtain ⟨r, hr, he⟩ := List.mem_map.mp (h _ (hk' ▸ Forest.mem_holdings_of_row hr'))
  obtain ⟨hkr, hholding⟩ := Prod.mk.inj he
  obtain rfl := hs.eq_of_key_eq (Forest.mem_preorder_of_row hr) hn (hkr.trans hk.symm)
  exact (congrArg Holding.subtree? hholding).symm

theorem Sound.received_deliver (hs : c.Sound) (ht : c.tree? key = some t) (proof : Derivation) :
    (c.deliver t.value proof).Received key t.value.name proof := by
  obtain rfl := (mem_of_tree? ht).2
  obtain ⟨e, -, -, -, hu⟩ := Forest.exists_fill_of_distinct hs.distinct_keys ht
  have hforest : (c.deliver t.value proof).forest =
      e.fill ⟨{ t.value with body := .delivered proof }, t.below⟩ := hu _
  refine ⟨{ t.value with body := .delivered proof }, ?_, rfl, rfl, rfl⟩
  rw [hforest, e.preorder_fill]
  exact List.mem_append_right _ List.mem_cons_self

theorem dropCopy_of_derivation (ht : c.resolve? target = some (t, .copy))
    (hsource : c.resolve? source = some (s, place)) (hhole : t.value.body = .hole)
    (hproof : s.derivation? = some proof) (hne : s.value.key ≠ t.value.key)
    (htrim : s.value.conclusion.trim = t.value.conclusion.trim) :
    c.dropCopy target source = ⟨.ok (), c.deliver t.value proof⟩ := by
  simp [dropCopy, ht, hsource, hne, Node.isTopDown, Node.progress, hhole, htrim, hproof]

end Canvas

namespace Workbench

open Canvas

/-- The action renames the node with a key, gives it a rule or clears it. -/
inductive Disturbs (w : Workbench) (key : Nat) : Action → Prop
  | setName {id : Nat} {t : Tree Node} {place : Target} (name : Text) :
      w.canvas.resolve? id = some (t, place) → t.value.key = key →
      Disturbs w key (.command (.setName id name))
  | attach {a : Action} : w.Attaches key a → Disturbs w key a
  | deleteRule {id : Nat} {t : Tree Node} {place : Target} :
      w.canvas.resolve? id = some (t, place) → t.value.key = key →
      Disturbs w key (.command (.deleteRule id))

variable {w : Workbench} {key : Nat} {a : Action} {name : Text} {proof : Derivation}

/-- Only a renaming changes the name of a node. -/
theorem keepsName_act (hlt : key < w.canvas.nextKey) (hno : ¬Disturbs w key a) :
    w.canvas.KeepsName (w.act a).canvas key := by
  cases a with
  | takeEvents => exact .refl _ key
  | command cmd =>
    cases cmd with
    | addConclusion conclusion free => exact keepsName_addRoot hlt _ _ _
    | addPremises premises free => exact keepsName_addRoot hlt _ _ _
    | removeRoot id => exact keepsName_removeRoot id
    | setName id name =>
      exact keepsName_setName (fun t place ht hk => hno (.setName name ht hk)) name
    | toggle id => exact keepsName_toggle id
    | deleteRule id => exact keepsName_deleteRule hlt id
    | dropCopy target source => exact keepsName_dropCopy target source
    | dropPremise target premise => exact keepsName_dropPremise target premise
    | requestRule id rule slot => rw [act, perform]; split <;> exact .refl _ key
    | requestTopDown id rule arity slot => rw [act, perform]; split <;> exact .refl _ key
    | requestSubstitution id old new direction slot =>
      rw [act, perform]; split <;> exact .refl _ key
    | attachRule slot premises =>
      rw [act, perform]
      split
      next => exact keepsName_attachRule hlt _ _
      next => exact .refl _ key
    | applyRule id rule premises =>
      rw [act, perform]
      split
      next => exact keepsName_attachRule hlt _ _
      next => exact .refl _ key
    | promote slot conclusion =>
      rw [act, perform]
      split
      next => exact keepsName_promote hlt _ _
      next => exact .refl _ key
    | substitute slot results =>
      rw [act, perform]
      split
      next => exact keepsName_substitute _ results
      next => exact .refl _ key

/-- A node with a delivered derivation is settled by rules and clearing alone. -/
theorem not_settles_of_received (hs : w.canvas.Sound) (h : w.canvas.Received key name proof)
    (hno : ¬Disturbs w key a) (held : Holding) : ¬Settles w key a held := by
  obtain ⟨n, hn, hk, -, hbody⟩ := h
  intro hset
  cases hset with
  | attachRule premises hq hok hkey => exact hno (.attach (.attachRule hq hok hkey))
  | applyRule premises hq hok hkey => exact hno (.attach (.applyRule hq hok hkey))
  | deleteRule ht hp hkey => exact hno (.deleteRule ht hkey)
  | @promote slot q conclusion hq hok hkey =>
    obtain ⟨m, hm, hgathering⟩ := (promote_answer_iff _ q conclusion).mp hok
    rw [← hs.eq_of_node? hm hn (hk.trans hkey.symm), hbody] at hgathering
    cases hgathering
  | dropCopy ht hsource hhole hproof hok hkey =>
    rw [← hs.eq_of_key_eq hn (mem_of_resolve? ht) (hk.trans hkey.symm), hbody] at hhole
    cases hhole

theorem received_act (hs : w.canvas.Sound) (h : w.canvas.Received key name proof)
    (hno : ¬Disturbs w key a) (hhas : (w.act a).canvas.Has key) :
    (w.act a).canvas.Received key name proof := by
  have hsettles := not_settles_of_received hs h hno
  obtain ⟨n, hn, hk, hname, hbody⟩ := h
  have hlt : key < w.canvas.nextKey := hk ▸ hs.fresh _ (key_mem_shape hn)
  rw [Has, shape, Forest.preorder_map] at hhas
  obtain ⟨n', hn', hk'⟩ := List.mem_map.mp hhas
  obtain ⟨m, hm, hkm, hnames⟩ := keepsName_act hlt hno n' hn' hk'
  obtain rfl := hs.eq_of_key_eq hm hn (hkm.trans hk.symm)
  refine ⟨n', hn', hk', hnames.symm.trans hname, ?_⟩
  have hsubtree := hs.subtree?_of_inherits (inherits_act hlt hsettles) hn hk hn' hk'
  rw [Node.subtree?_eq_some_iff.mpr hbody] at hsubtree
  exact Node.subtree?_eq_some_iff.mp hsubtree

theorem received_run (hs : w.canvas.Sound) (h : w.canvas.Received key name proof)
    {later : List Action} (hstays : w.Stays later key)
    (hno : ∀ e ∈ trace act w later, ¬Disturbs e.1 key e.2) :
    (w.run later).canvas.Received key name proof := by
  induction later generalizing w with
  | nil => exact h
  | cons a later ih =>
    obtain ⟨hfirst, hrest⟩ := List.forall_mem_cons.mp hno
    have hhas := hstays [a] (by simp)
    refine ih (sound_act w a hs) (received_act hs h hfirst hhas) (fun earlier hp => ?_) hrest
    exact hstays (a :: earlier) ((List.cons_prefix_cons).mpr ⟨rfl, hp⟩)

/-- A copy of a finished node onto a hole with the same conclusion delivers the derivation that the
node has then, and the hole has it from then on. -/
theorem proves_of_dropCopy (actions : List Action) (target source : Nat) {t s : Tree Node}
    {place : Target} {proof : Derivation}
    (ht : (run {} actions).canvas.resolve? target = some (t, .copy))
    (hhole : t.value.body = .hole)
    (hsource : (run {} actions).canvas.resolve? source = some (s, place))
    (hproof : (run {} actions).canvas.derivation? source = some proof)
    (htrim : s.value.conclusion.trim = t.value.conclusion.trim) :
    let w := (run {} actions).act (.command (.dropCopy target source))
    let d := proof.named t.value.name
    ((run {} actions).perform (.dropCopy target source)).1 = .ok .done ∧
      w.canvas.Proves t.value.key d ∧
      ∀ later, w.Stays later t.value.key →
        (∀ e ∈ trace act w later, ¬Disturbs e.1 t.value.key e.2) →
        (w.run later).canvas.Proves t.value.key d := by
  intro w d
  have hs := sound_run actions
  have htree := hs.tree?_of_resolve? ht
  rw [derivation?_of_resolve? hsource] at hproof
  -- a hole has no derivation, so the source is another node
  have hne : s.value.key ≠ t.value.key := by
    intro hk
    have hsame := hs.tree?_of_resolve? hsource
    rw [hk, htree] at hsame
    rw [← Option.some.inj hsame, Tree.derivation?_eq] at hproof
    simp [hhole] at hproof
  have hdrop := dropCopy_of_derivation ht hsource hhole hproof hne htrim
  have hs' : w.canvas.Sound := sound_act _ _ hs
  have hreceived : w.canvas.Received t.value.key t.value.name proof := by
    simp only [w, act, perform, settle, hdrop]
    exact hs.received_deliver htree proof
  refine ⟨?_, hs'.proves_of_received hreceived, fun later hstays hno => ?_⟩
  · simp only [perform, settle, hdrop]
  · exact (run_preserves sound_act hs' later).proves_of_received
      (received_run hs' hreceived hstays hno)

/-- A finished root is copied onto a root with a name and the same conclusion, and then removed. -/
theorem proves_after_removal :
    let w := run {} [.command (.addConclusion ['a'] false), .command (.addConclusion ['a'] false),
      .command (.applyRule 3 ['r'] []), .command (.setName 8 ['n'])]
    let copied := w.act (.command (.dropCopy 8 6))
    w.canvas.derivation? 6 = some ⟨⟨['a'], [], ['r']⟩, .nil⟩ ∧
      (copied.run [.command (.removeRoot 6)]).canvas.forest.size = 1 ∧
      (copied.run [.command (.removeRoot 6)]).canvas.Proves 1 ⟨⟨['a'], ['n'], ['r']⟩, .nil⟩ := by
  intro w copied
  have hstays : copied.Stays [.command (.removeRoot 6)] 1 := by
    rw [stays_iff (by decide), Canvas.Has]
    decide
  have hproves := proves_of_dropCopy [.command (.addConclusion ['a'] false),
    .command (.addConclusion ['a'] false), .command (.applyRule 3 ['r'] []),
    .command (.setName 8 ['n'])] 8 6 rfl rfl rfl rfl rfl
  refine ⟨rfl, rfl, hproves.2.2 _ hstays fun e he hdisturbs => ?_⟩
  obtain rfl := List.mem_singleton.mp he
  cases hdisturbs with
  | attach h => cases h

end Workbench

end ProofDesk
