import ProofDesk.Proofs.Canvas.Sound

namespace ProofDesk

/-- What was delivered to the node proves the conclusion that the node shows. -/
def Node.Agrees (n : Node) : Prop :=
  ∀ proof, n.body = .delivered proof → proof.value.conclusion.trim = n.conclusion.trim

namespace Canvas

def Agrees (c : Canvas) : Prop :=
  ∀ n ∈ c.forest.preorder, n.Agrees

/-- Finished derivations prove what their nodes show. -/
structure Faithful (c : Canvas) : Prop where
  derivation : ∀ id t target d, c.resolve? id = some (t, target) → c.derivation? id = some d →
    d.value.conclusion.trim = t.value.conclusion.trim
  subtree : ∀ id t target, c.resolve? id = some (t, target) → t.value.progress = .hasSubtree →
    ∃ d, c.derivation? id = some d ∧ d.value.conclusion.trim = t.value.conclusion.trim
  exported : ∀ q text, c.exportRoot q = .ok text → ∃ t target steps,
    c.resolve? q.root = some (t, target) ∧
      text = Script.header q.name q.quantifiers t.value.conclusion ++ steps

end Canvas

@[simp] theorem Node.conclusion_deliveredAs (n : Node) (proof : Derivation) :
    (n.deliveredAs proof).value.conclusion = proof.value.conclusion := by
  rw [deliveredAs]
  split <;> rfl

theorem Tree.derivation?_eq (t : Tree Node) :
    t.derivation? = match t.value.body with
      | .delivered proof => some (t.value.deliveredAs proof)
      | .ruled rule => t.below.derivations?.map fun premises => ⟨t.value.step rule, premises⟩
      | _ => none := by
  obtain ⟨n, below⟩ := t
  rw [derivation?, Forest.derivations?]
  cases n.body with
  | hole => rfl
  | gathering premises => rfl
  | delivered proof => rfl
  | ruled rule => cases below.derivations? <;> rfl

/-- A derivation of a node whose delivery agrees proves what the node shows. -/
theorem Tree.trim_conclusion_of_derivation? {t : Tree Node} (ht : t.value.Agrees) {d : Derivation}
    (h : t.derivation? = some d) : d.value.conclusion.trim = t.value.conclusion.trim := by
  rw [derivation?_eq] at h
  split at h
  next proof hb =>
    rw [← Option.some.inj h, Node.conclusion_deliveredAs]
    exact ht proof hb
  next rule hb =>
    obtain ⟨premises, -, rfl⟩ := Option.map_eq_some_iff.mp h
    rfl
  next => simp at h

theorem Script.header_congr {name quantifiers a b : Text} (h : a.trim = b.trim) :
    header name quantifiers a = header name quantifiers b := by
  unfold header
  rw [h]

theorem Forest.exists_of_mem_number {m : Nat} {f : Forest Node} {b : Node}
    (h : b ∈ (f.number m).preorder) : ∃ n ∈ f.preorder, ∃ id, b = { n with id } := by
  induction f generalizing m with
  | nil => simp [number, preorder] at h
  | cons n below rest ihb ihr =>
    simp only [number, preorder, List.mem_cons, List.mem_append] at h ⊢
    rcases h with rfl | h | h
    · exact ⟨n, Or.inl rfl, m, rfl⟩
    · obtain ⟨n', hn, he⟩ := ihb h
      exact ⟨n', Or.inr (Or.inl hn), he⟩
    · obtain ⟨n', hn, he⟩ := ihr h
      exact ⟨n', Or.inr (Or.inr hn), he⟩

namespace Canvas

variable {c : Canvas}

theorem Sound.resolve?_id (hs : c.Sound) {n : Node} (hn : n ∈ c.forest.preorder) :
    ∃ t, t.value = n ∧ c.resolve? n.id = some (t, .copy) := by
  obtain ⟨t, ht⟩ := Forest.exists_find?_of_mem (p := fun m => m.id == n.id) hn (by simp)
  obtain ⟨hm, hid⟩ := Forest.mem_preorder_of_find? ht
  exact ⟨t, hs.eq_of_id_eq hm hn (by simpa using hid), by rw [resolve?, ht]⟩

theorem derivation?_of_resolve? {id : Nat} {t : Tree Node} {target : Target}
    (h : c.resolve? id = some (t, target)) : c.derivation? id = t.derivation? := by
  rw [derivation?, h]
  rfl

theorem Agrees.faithful (h : c.Agrees) : c.Faithful where
  derivation id t target d ht hd := by
    rw [derivation?_of_resolve? ht] at hd
    exact Tree.trim_conclusion_of_derivation? (h _ (mem_of_resolve? ht)) hd
  subtree id t target ht hp := by
    have hagree := h _ (mem_of_resolve? ht)
    cases hb : t.value.body with
    | delivered proof =>
      refine ⟨t.value.deliveredAs proof, ?_, ?_⟩
      · rw [derivation?_of_resolve? ht, Tree.derivation?_eq, hb]
      · rw [Node.conclusion_deliveredAs]
        exact hagree proof hb
    | hole => simp [Node.progress, hb] at hp
    | gathering premises => simp [Node.progress, hb] at hp
    | ruled rule => simp [Node.progress, hb] at hp
  exported q text hq := by
    rw [exportRoot] at hq
    split at hq
    next => simp at hq
    next t target ht =>
      split at hq
      next => simp at hq
      next =>
        split at hq
        next => simp at hq
        next d hd =>
          have hagree := Tree.trim_conclusion_of_derivation? (h _ (mem_of_resolve? ht)) hd
          have htext := (Except.ok.inj hq).symm
          rw [Script.render, Script.header_congr hagree] at htext
          exact ⟨t, target, _, ht, htext⟩

theorem Sound.faithful_iff (hs : c.Sound) : c.Faithful ↔ c.Agrees := by
  refine ⟨fun h n hn proof hb => ?_, Agrees.faithful⟩
  obtain ⟨t, rfl, ht⟩ := hs.resolve?_id hn
  have hd : c.derivation? t.value.id = some (t.value.deliveredAs proof) := by
    rw [derivation?_of_resolve? ht, Tree.derivation?_eq, hb]
  rw [← h.derivation _ t _ _ ht hd, Node.conclusion_deliveredAs]

theorem agrees_empty : ({} : Canvas).Agrees :=
  fun _ h => by cases h

theorem Agrees.note (h : c.Agrees) (e : Event) : (c.note e).Agrees := h

theorem Agrees.noteLineage (h : c.Agrees) (key : Nat) : (c.noteLineage key).Agrees := h

theorem Agrees.renumber (h : c.Agrees) : c.renumber.Agrees := by
  intro b hb proof hp
  obtain ⟨n, hn, id, rfl⟩ := Forest.exists_of_mem_number hb
  exact h n hn proof hp

theorem Agrees.change (h : c.Agrees) {key : Nat} {g : Tree Node → Tree Node}
    (hg : ∀ t, t.value ∈ c.forest.preorder → t.value.key = key → t.below.preorder ⊆
      c.forest.preorder → ∀ n ∈ (g t).value :: (g t).below.preorder, n.Agrees) :
    (c.change key g).Agrees := by
  intro n hn
  rcases Forest.mem_preorder_update hn with hn | ⟨t, ht, hbelow, hk, hn⟩
  · exact h n hn
  · exact hg t ht (by simpa using hk) hbelow n hn

theorem Agrees.changeNode (h : c.Agrees) {key : Nat} {g : Node → Node}
    (hg : ∀ n ∈ c.forest.preorder, n.key = key → (g n).Agrees) : (c.changeNode key g).Agrees := by
  refine h.change fun t ht hk hbelow n hn => ?_
  rcases List.mem_cons.mp hn with rfl | hn
  · exact hg t.value ht hk
  · exact h n (hbelow hn)

/-- A refilled node was not delivered anything, and neither were the holes below it. -/
theorem Agrees.refilled (h : c.Agrees) (key : Nat) {g : Node → Node}
    (hg : ∀ n proof, (g n).body ≠ .delivered proof) (free : Bool) (premises : List Text) :
    (c.refilled key g free premises).Agrees := by
  have hc : (c.change key fun t => ⟨g t.value, c.holes free premises⟩).Agrees := by
    refine h.change fun t _ _ _ n hn proof hp => ?_
    rcases List.mem_cons.mp hn with rfl | hn
    · exact absurd hp (hg t.value proof)
    · rw [holes, Forest.preorder_ofValues] at hn
      obtain ⟨entry, -, rfl⟩ := List.mem_map.mp hn
      simp at hp
  exact Agrees.renumber hc

section Operations

variable (h : c.Agrees)

include h

theorem agrees_addRoot (conclusion : Text) (free : Bool) {body : Body}
    (hb : ∀ proof, body ≠ .delivered proof) : (c.addRoot conclusion free body).2.Agrees := by
  refine Agrees.note (Agrees.renumber ?_) _
  intro n hn proof hp
  simp only [Forest.preorder_append, Forest.preorder, List.append_nil, List.mem_append,
    List.mem_singleton] at hn
  rcases hn with hn | rfl
  · exact h n hn proof hp
  · exact absurd hp (hb proof)

theorem agrees_removeRoot (id : Nat) : (c.removeRoot id).canvas.Agrees := by
  rcases c.removeRoot_cases id with ⟨cause, -, hr⟩ | ⟨t, target, -, -, hr⟩
  · rw [hr]
    exact h
  · rw [hr]
    refine Agrees.note (Agrees.renumber fun n hn => ?_) _
    exact h n ((Forest.preorder_eraseTops_sublist _ _).subset hn)

theorem agrees_setName (id : Nat) (name : Text) : (c.setName id name).canvas.Agrees := by
  rcases c.setName_cases id name with ⟨cause, -, hr⟩ | ⟨t, target, -, hr⟩
  · rw [hr]
    exact h
  · rw [hr]
    exact h.changeNode fun n hn _ => h n hn

theorem agrees_toggle (id : Nat) : (c.toggle id).canvas.Agrees := by
  rcases c.toggle_cases id with ⟨cause, -, hr⟩ | ⟨t, target, -, hr⟩
  · rw [hr]
    exact h
  · rw [hr]
    exact h.changeNode fun n hn _ => h n hn

theorem agrees_attachRule (q : RuleRequest) (premises : List Text) :
    (c.attachRule q premises).canvas.Agrees := by
  rcases c.attachRule_cases q premises with hr | ⟨n, c', children, -, -, -, hc, -, hr⟩
  · rw [hr]
    exact h
  · have ha : c'.Agrees := hc ▸ h.refilled q.key (fun _ _ => by simp) n.free premises
    rw [hr]
    exact (ha.note _).noteLineage _

theorem agrees_promote (q : TopDownRequest) (conclusion : Text) :
    (c.promote q conclusion).canvas.Agrees := by
  rcases c.promote_cases q conclusion with hr | ⟨n, c', -, -, hc, hr⟩
  · rw [hr]
    exact h
  · have ha : c'.Agrees := hc ▸ h.refilled q.key (fun _ _ => by simp) n.free q.premises
    rw [hr]
    exact (ha.note _).noteLineage _

theorem agrees_deleteRule (id : Nat) : (c.deleteRule id).canvas.Agrees := by
  rcases c.deleteRule_cases id with ⟨-, hr⟩ | ⟨t, target, -, ⟨-, hr⟩ | ⟨-, c', hc, hr⟩⟩
  · rw [hr]
    exact h
  · rw [hr]
    exact h
  · have ha : c'.Agrees := hc ▸ h.refilled t.value.key (fun _ _ => by simp) false []
    rw [hr]
    exact (ha.note _).noteLineage _

theorem agrees_pushPremise (n : Node) (premise : Text) : (c.pushPremise n premise).Agrees := by
  refine Agrees.note (h.changeNode fun m hm _ proof hp => ?_) _
  split at hp
  next => simp at hp
  next hb => simpa [hb] using h m hm proof hp

theorem agrees_dropPremise (id : Nat) (premise : Text) :
    (c.dropPremise id premise).canvas.Agrees := by
  rcases c.dropPremise_cases id premise with ⟨cause, -, hr⟩ | ⟨t, target, -, -, -, hr⟩
  · rw [hr]
    exact h
  · rw [hr]
    exact agrees_pushPremise h _ _

/-- A delivery agrees because a copy goes only where the source's conclusion already stands. -/
theorem agrees_dropCopy (hs : c.Sound) (target source : Nat) :
    (c.dropCopy target source).canvas.Agrees := by
  rcases c.dropCopy_cases target source with ⟨cause, -, hr⟩ |
    ⟨t, s, place, ht, hsrc, -, ⟨-, -, hr⟩ | ⟨-, htrim, ⟨proof, hproof, hr⟩ | ⟨-, hr⟩⟩⟩
  · rw [hr]
    exact h
  · rw [hr]
    exact agrees_pushPremise h _ _
  · have hsource := Tree.trim_conclusion_of_derivation? (h _ (mem_of_resolve? hsrc)) hproof
    rw [hr]
    refine Agrees.noteLineage (Agrees.note (h.changeNode ?_) _) _
    intro n hn hk proof' hp
    have hnode : n = t.value := hs.eq_of_key_eq hn (mem_of_resolve? ht) hk
    rw [← Body.delivered.inj hp, hsource, htrim, hnode]
  · rw [hr]
    exact h.note _

end Operations

end Canvas

end ProofDesk
