import ProofDesk.Proofs.Canvas.Capture
import ProofDesk.Proofs.Canvas.Numbering
import ProofDesk.Proofs.Session.Refusals

namespace ProofDesk

namespace Bridge

/-- The bridges answer a question alike, after the questions asked before. -/
def Alike (b b' : Bridge) (asked : List Query) : Query → Prop
  | .parse conclusion rule => b'.premises asked conclusion rule = b.premises asked conclusion rule
  | .topDown premises rule => b'.conclusion asked premises rule = b.conclusion asked premises rule
  | .substitute text old new =>
    b'.substitution asked text old new = b.substitution asked text old new

/-- Of some questions the first ones are asked, in order: each one as long as none before it was
refused. -/
structure AsksUntilRefused (b : Bridge) (asked questions qs : List Query) : Prop where
  inOrder : qs <+: questions
  asks_iff : ∀ earlier q later, questions = earlier ++ q :: later →
    (earlier ++ [q] <+: qs ↔
      ∀ before p, before ++ [p] <+: earlier → ∀ cause, ¬b.Declines cause (asked ++ before) p)

end Bridge

namespace Canvas

/-- On a sound canvas a target for rules names the node whose id comes right before it. -/
theorem Sound.resolve?_rule_iff {c : Canvas} (hs : c.Sound) {target : Nat} {n : Node} :
    (∃ t, c.resolve? target = some (t, .rule) ∧ t.value = n) ↔
      n ∈ c.forest.preorder ∧ target = n.id + 1 := by
  have heven : ∀ id ∈ c.ids, id % 2 = 0 := fun id hid => (hs.mem_ids_iff.mp hid).2.2
  constructor
  · rintro ⟨t, ht, rfl⟩
    refine ⟨mem_of_resolve? ht, ?_⟩
    rw [resolve?] at ht
    split at ht
    next => cases ht
    next =>
      obtain ⟨u, hu, he⟩ := Option.map_eq_some_iff.mp ht
      obtain ⟨rfl, -⟩ := Prod.mk.inj he
      have hid := (Forest.mem_preorder_of_find? hu).2
      exact (beq_iff_eq.mp hid).symm
  · rintro ⟨hn, rfl⟩
    have hodd : n.id + 1 ∉ c.ids := by
      intro hmem
      have hnext := heven _ hmem
      have hid := heven _ (List.mem_map_of_mem hn)
      omega
    have hcopy : c.forest.find? (fun m => m.id == n.id + 1) = none :=
      Forest.find?_mark_eq_none hodd
    obtain ⟨t, ht⟩ := Forest.exists_find?_of_mem (p := fun m => m.id + 1 == n.id + 1) hn (by simp)
    obtain ⟨hmem, hid⟩ := Forest.mem_preorder_of_find? ht
    refine ⟨t, ?_, hs.eq_of_id_eq hmem hn (by simpa using hid)⟩
    rw [resolve?, hcopy, ht, Option.map_some]

end Canvas

namespace Session

/-- The questions about a rule dropped on a target. A target is a node's target for rules when it
comes right after the node's id. -/
inductive DropAsks (s : Session) (target : Nat) (rule : Text) : List Query → Prop
  | conclusion (n : Node) (premises : List Text) : n ∈ s.canvas.forest.preorder →
      target = n.id + 1 → n.body = .gathering premises →
      s.unit.arity? rule = some premises.length → DropAsks s target rule [.topDown premises rule]
  | premises (n : Node) : n ∈ s.canvas.forest.preorder → target = n.id + 1 →
      n.isTopDown = false → DropAsks s target rule [.parse n.conclusion rule]
  | nothing : (∀ n ∈ s.canvas.forest.preorder, target = n.id + 1 →
      ∃ premises, n.body = .gathering premises ∧ s.unit.arity? rule ≠ some premises.length) →
      DropAsks s target rule []

/-- The questions noted after a replacement at a target. -/
structure ReplacementAsks (b : Bridge) (s : Session) (target : Nat) (old new : Text)
    (d : Direction) (asked : List Query) : Prop where
  barred : (∀ t place, s.canvas.resolve? target = some (t, place) → t.value.free = false) →
    asked = s.asked
  captured : ∀ q, s.canvas.requestSubstitution target old new d = .ok q →
    ∃ qs, asked = s.asked ++ qs ∧
      b.AsksUntilRefused s.asked (q.conclusions.map fun text => .substitute text old new) qs

/-- Puts the answer of the bridge in place, or queues the text of its refusal. -/
def answered {α : Type} (s : Session) (answer : Except Refusal α) (edit : α → Outcome Unit) :
    Except Refusal Unit × Session :=
  match answer with
  | .error cause => s.conclude (.error cause)
  | .ok a => s.settle (edit a)

variable {b b' : Bridge} {s : Session}

theorem asked_conclude {α : Type} (s : Session) (answer : Except Refusal α) :
    (s.conclude answer).2.asked = s.asked := by
  cases answer <;> rfl

theorem asked_settle {α : Type} (s : Session) (o : Outcome α) :
    (s.settle o).2.asked = s.asked :=
  asked_conclude _ o.answer

theorem asked_answered {α : Type} (s : Session) (answer : Except Refusal α)
    (edit : α → Outcome Unit) : (s.answered answer edit).2.asked = s.asked := by
  cases answer with
  | error cause => exact asked_conclude s _
  | ok a => exact asked_settle s (edit a)

section Drops

variable {target : Nat} {rule : Text}

theorem DropAsks.unique (hs : s.canvas.Sound) {qs qs' : List Query}
    (h : s.DropAsks target rule qs) (h' : s.DropAsks target rule qs') : qs = qs' := by
  have same : ∀ {m n : Node}, m ∈ s.canvas.forest.preorder → n ∈ s.canvas.forest.preorder →
      target = m.id + 1 → target = n.id + 1 → m = n := by
    intro m n hm hn hmt hnt
    exact hs.eq_of_id_eq hm hn (by omega)
  cases h with
  | conclusion n premises hn ht hbody harity =>
    cases h' with
    | conclusion m premises' hm ht' hbody' _ =>
      obtain rfl := same hn hm ht ht'
      rw [Body.gathering.inj (hbody.symm.trans hbody')]
    | premises m hm ht' htop =>
      obtain rfl := same hn hm ht ht'
      simp [Node.isTopDown, hbody] at htop
    | nothing hno =>
      obtain ⟨premises', hbody', hne⟩ := hno n hn ht
      rw [← Body.gathering.inj (hbody.symm.trans hbody')] at hne
      exact absurd harity hne
  | premises n hn ht htop =>
    cases h' with
    | conclusion m premises' hm ht' hbody' _ =>
      obtain rfl := same hn hm ht ht'
      simp [Node.isTopDown, hbody'] at htop
    | premises m hm ht' _ => rw [same hn hm ht ht']
    | nothing hno =>
      obtain ⟨premises', hbody', -⟩ := hno n hn ht
      simp [Node.isTopDown, hbody'] at htop
  | nothing hno =>
    cases h' with
    | conclusion m premises' hm ht' hbody' harity =>
      obtain ⟨premises, hbody, hne⟩ := hno m hm ht'
      rw [Body.gathering.inj (hbody.symm.trans hbody')] at hne
      exact absurd harity hne
    | premises m hm ht' htop =>
      obtain ⟨premises, hbody, -⟩ := hno m hm ht'
      simp [Node.isTopDown, hbody] at htop
    | nothing _ => rfl

/-- A dropped rule is refused without the bridge, or the bridge is asked and its answer is put in
place. -/
theorem dropRule_cases (s : Session) (target : Nat) (rule : Text) :
    (∃ cause, (∀ t, s.canvas.resolve? target = some (t, .rule) →
        ∃ premises, t.value.body = .gathering premises ∧
          s.unit.arity? rule ≠ some premises.length) ∧
      ∀ b, s.dropRule b target rule = s.conclude (.error cause)) ∨
    (∃ t premises, s.canvas.resolve? target = some (t, .rule) ∧
      t.value.body = .gathering premises ∧ s.unit.arity? rule = some premises.length ∧
      ∀ b, s.dropRule b target rule = (s.ask (.topDown premises rule)).answered
        (b.conclusion s.asked premises rule) (s.canvas.promote ⟨t.value.key, premises, rule⟩)) ∨
    ∃ t, s.canvas.resolve? target = some (t, .rule) ∧ t.value.isTopDown = false ∧
      ∀ b, s.dropRule b target rule = (s.ask (.parse t.value.conclusion rule)).answered
        (b.premises s.asked t.value.conclusion rule)
        (s.canvas.attachRule ⟨t.value.key, t.value.conclusion, rule⟩) := by
  cases hr : s.canvas.resolve? target with
  | none =>
    exact Or.inl ⟨.unknownTarget target, by simp, fun b => by simp only [dropRule, hr]⟩
  | some found =>
    obtain ⟨t, place⟩ := found
    cases place with
    | copy =>
      refine Or.inl ⟨.misfit .notRuleTarget, by simp, fun b => ?_⟩
      simp only [dropRule, Canvas.requestTopDown, Canvas.requestRule, hr, ite_self]
    | rule =>
      cases htop : t.value.isTopDown with
      | false =>
        refine Or.inr (Or.inr ⟨t, rfl, htop, fun b => ?_⟩)
        simp only [dropRule, Canvas.requestRule, hr, htop, Bool.false_eq_true, if_false]
        cases b.premises s.asked t.value.conclusion rule <;> rfl
      | true =>
        obtain ⟨premises, hbody⟩ := Node.isTopDown_iff.mp htop
        rcases s.canvas.requestTopDown_cases target rule (s.unit.arity? rule) with
          ⟨cause, -, hq⟩ | ⟨u, premises', hu, hbody', harity, hq⟩
        · refine Or.inl ⟨cause, fun u hu => ⟨premises, ?_, fun harity => ?_⟩, fun b => ?_⟩
          · obtain ⟨rfl, -⟩ := Prod.mk.inj (Option.some.inj hu)
            exact hbody
          · simp [Canvas.requestTopDown, hr, hbody, harity] at hq
          · simp only [dropRule, hr, htop, hq, if_true]
        · rw [hr] at hu
          obtain ⟨rfl, -⟩ := Prod.mk.inj (Option.some.inj hu)
          refine Or.inr (Or.inl ⟨t, premises', rfl, hbody', harity, fun b => ?_⟩)
          simp only [dropRule, hr, htop, hq, if_true]
          cases b.conclusion s.asked premises' rule <;> rfl

theorem exists_dropAsks (hs : s.canvas.Sound) (b : Bridge) (target : Nat) (rule : Text) :
    ∃ qs, (s.dropRule b target rule).2.asked = s.asked ++ qs ∧ s.DropAsks target rule qs := by
  rcases s.dropRule_cases target rule with
    ⟨cause, hno, he⟩ | ⟨t, premises, hr, hbody, harity, he⟩ | ⟨t, hr, htop, he⟩
  · refine ⟨[], ?_, .nothing fun n hn ht => ?_⟩
    · rw [he, asked_conclude, List.append_nil]
    · obtain ⟨t, hr, rfl⟩ := hs.resolve?_rule_iff.mpr ⟨hn, ht⟩
      exact hno t hr
  · obtain ⟨hmem, htarget⟩ := hs.resolve?_rule_iff.mp ⟨t, hr, rfl⟩
    refine ⟨_, ?_, .conclusion t.value premises hmem htarget hbody harity⟩
    rw [he, asked_answered]
    rfl
  · obtain ⟨hmem, htarget⟩ := hs.resolve?_rule_iff.mp ⟨t, hr, rfl⟩
    refine ⟨_, ?_, .premises t.value hmem htarget htop⟩
    rw [he, asked_answered]
    rfl

theorem asked_dropRule_iff (hs : s.canvas.Sound) (b : Bridge) (target : Nat) (rule : Text)
    (qs : List Query) :
    (s.dropRule b target rule).2.asked = s.asked ++ qs ↔ s.DropAsks target rule qs := by
  obtain ⟨qs', hasked, hdrop⟩ := exists_dropAsks hs b target rule
  rw [hasked, List.append_cancel_left_eq]
  constructor
  · rintro rfl
    exact hdrop
  · exact hdrop.unique hs

end Drops

section Replacements

theorem asksUntilRefused_nil (b : Bridge) (asked : List Query) :
    b.AsksUntilRefused asked [] [] where
  inOrder := List.prefix_refl _
  asks_iff earlier q later h := by simp at h

theorem asksUntilRefused_of_declines {asked rest : List Query} {q : Query} {cause : Refusal}
    (h : b.Declines cause asked q) : b.AsksUntilRefused asked (q :: rest) [q] where
  inOrder := List.prefix_append [q] rest
  asks_iff earlier p later hsplit := by
    cases earlier with
    | nil =>
      obtain ⟨rfl, -⟩ := List.cons.inj hsplit
      simp
    | cons first earlier =>
      obtain ⟨rfl, -⟩ := List.cons.inj hsplit
      constructor
      · intro hp
        have hl := hp.length_le
        simp at hl
      · intro hno
        have hfirst : [] ++ [q] <+: q :: earlier := List.prefix_append [q] earlier
        exact absurd (by simpa using h) (hno [] q hfirst cause)

theorem asksUntilRefused_cons {asked rest qs : List Query} {q : Query}
    (haccepted : ∀ cause, ¬b.Declines cause asked q)
    (h : b.AsksUntilRefused (asked ++ [q]) rest qs) :
    b.AsksUntilRefused asked (q :: rest) (q :: qs) where
  inOrder := (List.prefix_cons_inj q).mpr h.inOrder
  asks_iff earlier p later hsplit := by
    cases earlier with
    | nil =>
      obtain ⟨rfl, -⟩ := List.cons.inj hsplit
      simp
    | cons first earlier =>
      obtain ⟨rfl, hrest⟩ := List.cons.inj hsplit
      rw [List.cons_append, List.prefix_cons_inj, h.asks_iff earlier p later hrest]
      constructor
      · intro hno before x hx cause
        cases before with
        | nil =>
          obtain ⟨rfl, -⟩ := List.cons_prefix_cons.mp hx
          simpa using haccepted cause
        | cons y before =>
          obtain ⟨rfl, hx'⟩ := List.cons_prefix_cons.mp hx
          have hlater := hno before x hx' cause
          rwa [List.append_assoc] at hlater
      · intro hno before x hx cause
        have hlater := hno (q :: before) x ((List.prefix_cons_inj q).mpr hx) cause
        rwa [List.append_assoc]

theorem asked_substituteAll_of_ok {old new text : Text} {rest : List Text} {result : Option Text}
    (h : b.substitution s.asked text old new = .ok result) :
    (s.substituteAll b old new (text :: rest)).2.asked =
      ((s.ask (.substitute text old new)).substituteAll b old new rest).2.asked := by
  rw [substituteAll, h]
  simp only
  generalize substituteAll b (s.ask (.substitute text old new)) old new rest = r
  obtain ⟨answer, s'⟩ := r
  cases answer <;> rfl

theorem asked_substituteAll (b : Bridge) (s : Session) (old new : Text) (texts : List Text) :
    ∃ qs, (s.substituteAll b old new texts).2.asked = s.asked ++ qs ∧
      b.AsksUntilRefused s.asked (texts.map fun text => .substitute text old new) qs := by
  induction texts generalizing s with
  | nil => exact ⟨[], (List.append_nil _).symm, asksUntilRefused_nil b s.asked⟩
  | cons text rest ih =>
    cases hb : b.substitution s.asked text old new with
    | error cause =>
      have hdeclined : b.Declines cause s.asked (.substitute text old new) := hb
      refine ⟨[.substitute text old new], ?_, asksUntilRefused_of_declines hdeclined⟩
      rw [substituteAll, hb]
      rfl
    | ok result =>
      obtain ⟨qs, hasked, hqs⟩ := ih (s.ask (.substitute text old new))
      have haccepted : ∀ cause, ¬b.Declines cause s.asked (.substitute text old new) := by
        intro cause hd
        rw [Bridge.Declines, hb] at hd
        cases hd
      refine ⟨.substitute text old new :: qs, ?_, asksUntilRefused_cons haccepted hqs⟩
      rw [asked_substituteAll_of_ok hb, hasked]
      exact List.append_assoc _ [_] _

theorem asked_replaceVariable_of_ok {target : Nat} {old new : Text} {d : Direction}
    {q : SubstitutionRequest} (hq : s.canvas.requestSubstitution target old new d = .ok q) :
    (s.replaceVariable b target old new d).2.asked =
      (s.substituteAll b q.old q.new q.conclusions).2.asked := by
  rw [replaceVariable, hq]
  simp only
  split
  next cause s' he => rw [asked_conclude, he]
  next results s' he => rw [asked_settle, he]

theorem replacementAsks (b : Bridge) (s : Session) (target : Nat) (old new : Text)
    (d : Direction) :
    s.ReplacementAsks b target old new d (s.replaceVariable b target old new d).2.asked where
  barred hbarred := by
    rw [replaceVariable]
    split
    next cause _ => exact asked_conclude s _
    next q hq =>
      obtain ⟨t, place, ht, hfree⟩ := Canvas.requestSubstitution_ok_iff.mp ⟨q, hq⟩
      rw [hbarred t place ht] at hfree
      cases hfree
  captured q hq := by
    obtain ⟨t, place, ht, hrequest⟩ := Canvas.exists_of_requestSubstitution hq
    have hold : q.old = old := by rw [hrequest]
    have hnew : q.new = new := by rw [hrequest]
    obtain ⟨qs, hasked, hqs⟩ := asked_substituteAll b s old new q.conclusions
    refine ⟨qs, ?_, hqs⟩
    rw [asked_replaceVariable_of_ok hq, hold, hnew, hasked]

end Replacements

section Alike

/-- The questions noted between two states of a session are answered alike. -/
def AnsweredAlike (s : Session) (b b' : Bridge) (s' : Session) : Prop :=
  ∀ earlier q, s.asked <+: earlier → earlier ++ [q] <+: s'.asked → b.Alike b' earlier q

theorem dropRule_congr {target : Nat} {rule : Text}
    (h : s.AnsweredAlike b b' (s.dropRule b target rule).2) :
    s.dropRule b' target rule = s.dropRule b target rule := by
  rcases s.dropRule_cases target rule with
    ⟨cause, -, he⟩ | ⟨t, premises, -, -, -, he⟩ | ⟨t, -, -, he⟩
  · rw [he, he]
  · have hasked : s.asked ++ [.topDown premises rule] <+: (s.dropRule b target rule).2.asked := by
      rw [he, asked_answered]
      exact List.prefix_refl _
    have halike : b'.conclusion s.asked premises rule = b.conclusion s.asked premises rule :=
      h s.asked _ (List.prefix_refl _) hasked
    rw [he, he, halike]
  · have hasked : s.asked ++ [.parse t.value.conclusion rule] <+:
        (s.dropRule b target rule).2.asked := by
      rw [he, asked_answered]
      exact List.prefix_refl _
    have halike : b'.premises s.asked t.value.conclusion rule =
        b.premises s.asked t.value.conclusion rule :=
      h s.asked _ (List.prefix_refl _) hasked
    rw [he, he, halike]

theorem substituteAll_congr {old new : Text} {texts : List Text}
    (h : s.AnsweredAlike b b' (s.substituteAll b old new texts).2) :
    s.substituteAll b' old new texts = s.substituteAll b old new texts := by
  induction texts generalizing s with
  | nil => rfl
  | cons text rest ih =>
    obtain ⟨qs, hall, hqs⟩ := asked_substituteAll b s old new (text :: rest)
    have hfirst : [] ++ [.substitute text old new] <+: qs := by
      rw [hqs.asks_iff [] (.substitute text old new) _ rfl]
      intro before p hp
      simp at hp
    have hasked : s.asked ++ [.substitute text old new] <+:
        (s.substituteAll b old new (text :: rest)).2.asked := by
      rw [hall]
      exact (List.prefix_append_right_inj _).mpr hfirst
    have halike : b'.substitution s.asked text old new = b.substitution s.asked text old new :=
      h s.asked _ (List.prefix_refl _) hasked
    rw [substituteAll, substituteAll, halike]
    cases hb : b.substitution s.asked text old new with
    | error cause => rfl
    | ok result =>
      have hrest : (s.ask (.substitute text old new)).AnsweredAlike b b'
          ((s.ask (.substitute text old new)).substituteAll b old new rest).2 := by
        intro earlier q hbefore hq
        refine h earlier q ((List.prefix_append _ _).trans hbefore) ?_
        rw [asked_substituteAll_of_ok hb]
        exact hq
      rw [ih hrest]

theorem replaceVariable_congr {target : Nat} {old new : Text} {d : Direction}
    (h : s.AnsweredAlike b b' (s.replaceVariable b target old new d).2) :
    s.replaceVariable b' target old new d = s.replaceVariable b target old new d := by
  rw [replaceVariable, replaceVariable]
  cases hq : s.canvas.requestSubstitution target old new d with
  | error cause => rfl
  | ok q =>
    have hsame : s.substituteAll b' q.old q.new q.conclusions =
        s.substituteAll b q.old q.new q.conclusions := by
      refine substituteAll_congr ?_
      rw [AnsweredAlike, asked_replaceVariable_of_ok hq] at h
      exact h
    simp only [hsame]

theorem perform_congr {op : Operation} (h : s.AnsweredAlike b b' (s.perform b op).2) :
    s.perform b' op = s.perform b op := by
  cases op with
  | dropRule target rule => rw [perform, perform, dropRule_congr h]
  | replaceVariable target old new d => rw [perform, perform, replaceVariable_congr h]
  | dropCopy target source => rfl
  | dropPremise target premise => rfl
  | deleteRule target => rfl
  | exportTheorems theorems => rfl
  | save files path theorems => rfl

end Alike

/-- Whatever was done before, a dropped rule and a replacement ask what they are to ask and note it,
and no operation asks anything that it does not note. -/
theorem asks_run (b : Bridge) (file : Text) (unit : CompilationUnit) (moves : List Move) :
    let s := run b { file, unit } moves
    (∀ target rule qs, (s.perform b (.dropRule target rule)).2.asked = s.asked ++ qs ↔
      s.DropAsks target rule qs) ∧
    (∀ target old new d, s.ReplacementAsks b target old new d
      (s.perform b (.replaceVariable target old new d)).2.asked) ∧
    ∀ op b', s.AnsweredAlike b b' (s.perform b op).2 → s.perform b' op = s.perform b op := by
  intro s
  have hs : s.canvas.Sound := sound_run b file unit moves
  refine ⟨fun target rule qs => ?_, fun target old new d => ?_, fun op b' h => perform_congr h⟩
  · exact asked_dropRule_iff hs b target rule qs
  · exact replacementAsks b s target old new d

/-- One premise is gathered: the theorem fits and the rule does not. The second proof has a
conclusion, and the checker refuses to replace in it. -/
theorem asks_about_what_fits :
    let b : Bridge := ⟨fun _ _ _ => .error (.rejected []), fun _ _ _ => .error (.rejected []),
      fun _ _ _ _ => .error (.rejected [])⟩
    let unit : CompilationUnit := {
      theorems := [{ name := ['t'], foralls := [['p']] }],
      judgments := [{ rules := [{ name := ['r'], premises := [['p'], ['q']] }] }] }
    let s := run b { file := [], unit } [.edit (.command (.addPremises [['a']] true)),
      .edit (.command (.addConclusion ['c'] true))]
    s.DropAsks 3 ['t'] [.topDown [['a']] ['t']] ∧ s.DropAsks 3 ['r'] [] ∧
      s.DropAsks 5 ['r'] [.parse ['c'] ['r']] ∧ s.DropAsks 4 ['r'] [] ∧
      s.ReplacementAsks b 4 ['x'] ['y'] .both [.substitute ['c'] ['x'] ['y']] ∧
      s.perform b (.dropRule 4 ['r']) = s.perform ⟨fun _ _ _ => .ok [], b.conclusion,
        b.substitution⟩ (.dropRule 4 ['r']) := by
  intro b unit s
  obtain ⟨hdrop, hreplace, hnoted⟩ := asks_run b [] unit
    [.edit (.command (.addPremises [['a']] true)), .edit (.command (.addConclusion ['c'] true))]
  refine ⟨(hdrop 3 ['t'] _).mp rfl, (hdrop 3 ['r'] _).mp rfl, (hdrop 5 ['r'] _).mp rfl,
    (hdrop 4 ['r'] _).mp rfl, hreplace 4 ['x'] ['y'] .both, ?_⟩
  -- nothing was asked at the copy target, so nothing has to be answered alike
  refine (hnoted _ _ fun earlier q hbefore hq => ?_).symm
  have hq' : earlier ++ [q] <+: s.asked := hq
  have hlong := hq'.length_le
  have hshort : s.asked.length ≤ earlier.length := hbefore.length_le
  rw [List.length_append, List.length_singleton] at hlong
  omega

end Session

end ProofDesk
