import ProofDesk.Proofs.Arena.Links
import ProofDesk.Proofs.Canvas.Regrafting

namespace ProofDesk

open Std (HashMap)

namespace Arena

/-- The trees that stand under some keys of a node map, read link by link. -/
inductive Reads (nodes : HashMap Nat Slot) : List Nat → Forest Payload → Prop
  | nil : Reads nodes [] .nil
  | cons {key : Nat} {keys : List Nat} {s : Slot} {below rest : Forest Payload}
      (found : nodes[key]? = some s) (children : Reads nodes s.children below)
      (others : Reads nodes keys rest) : Reads nodes (key :: keys) (.cons s.toPayload below rest)

def Denotes (a : Arena) (f : Forest Payload) : Prop :=
  Reads a.nodes a.roots f

def keyFrom? (a : Arena) : List Nat → List Nat → Option Nat
  | _, [] => none
  | keys, [i] => keys[i]?
  | keys, i :: path => keys[i]?.bind fun key => a.keyFrom? (a.childrenOf key) path

def IsAt (a : Arena) (path : List Nat) (key : Nat) : Prop :=
  a.keyFrom? a.roots path = some key

/-- Whatever is not at the path or below it is in the second arena as it is in the first: nodes
with their children, and roots in their order. -/
structure Spares (a a' : Arena) (path : List Nat) : Prop where
  nodes : ∀ (k : Nat) (s : Slot), a.nodes[k]? = some s →
    (∀ key, a.IsAt path key → ¬Relation.ReflTransGen a.Links key k) → a'.nodes[k]? = some s
  roots : ∀ keys : List Nat, keys.Sublist a.roots → (∀ key ∈ keys, ¬a.IsAt path key) →
    keys.Sublist a'.roots

theorem Reads.unique {nodes : HashMap Nat Slot} {keys : List Nat} {f g : Forest Payload}
    (hf : Reads nodes keys f) (hg : Reads nodes keys g) : f = g := by
  induction hf generalizing g with
  | nil =>
    cases hg
    rfl
  | cons found _ _ ihb ihr =>
    cases hg with
    | cons found' children' others' =>
      obtain rfl := Option.some.inj (found.symm.trans found')
      rw [ihb children', ihr others']

theorem reads_of_isIn {nodes : HashMap Nat Slot} {f : Forest Node} (h : f.IsIn nodes) :
    Reads nodes (f.tops.map Node.key) (f.map Node.payload) := by
  induction f with
  | nil => exact .nil
  | cons n below rest ihb ihr =>
    obtain ⟨hfound, hbelow, hrest⟩ := Forest.isIn_cons.mp h
    exact .cons hfound (ihb hbelow) (ihr hrest)

theorem keyFrom?_eq {a : Arena} {f : Forest Node} (h : f.IsIn a.nodes) (path : List Nat) :
    a.keyFrom? (f.tops.map Node.key) path = (f.at? path).map fun t => t.value.key := by
  induction f generalizing path with
  | nil =>
    rcases path with _ | ⟨i, _ | ⟨j, path⟩⟩
    · rfl
    · simp [keyFrom?, Forest.at?, Forest.tops, Forest.trees]
    · simp [keyFrom?, Forest.at?, Forest.tops, Forest.trees]
  | cons n below rest ihb ihr =>
    obtain ⟨hfound, hbelow, hrest⟩ := Forest.isIn_cons.mp h
    have hchildren : a.childrenOf n.key = below.tops.map Node.key := childrenOf_eq hfound
    rcases path with _ | ⟨_ | i, path⟩
    · rfl
    · cases path with
      | nil => rfl
      | cons j path =>
        have hinner := ihb hbelow (j :: path)
        rw [← hchildren] at hinner
        exact hinner
    · have houter := ihr hrest (i :: path)
      rw [Forest.at?_cons_succ, ← houter]
      cases path <;> rfl

variable {a a' : Arena} {c c' : Canvas} {path : List Nat}

namespace Carries

variable (h : a.Carries c)

include h

theorem denotes_iff {f : Forest Payload} : a.Denotes f ↔ f = c.forest.map Node.payload := by
  have hreads := reads_of_isIn (Forest.isIn_of_lists h.nodes)
  have hroots : a.roots = c.forest.tops.map Node.key := h.roots
  rw [← hroots] at hreads
  exact ⟨fun hf => Reads.unique hf hreads, fun hf => hf ▸ hreads⟩

theorem isAt_iff {key : Nat} : a.IsAt path key ↔ c.IsAt path key := by
  have hroots : a.roots = c.forest.tops.map Node.key := h.roots
  rw [IsAt, hroots, keyFrom?_eq (Forest.isIn_of_lists h.nodes)]
  exact Option.map_eq_some_iff

theorem spares (h' : a'.Carries c') (hs : c.Spares c' path) : a.Spares a' path where
  nodes k s hk hout := by
    refine h'.nodes.getElem?_iff.mpr (hs.slots _ (h.nodes.getElem?_iff.mp hk) fun key hkey => ?_)
    rw [← h.links_eq]
    exact hout key (h.isAt_iff.mpr hkey)
  roots keys hkeys hout := by
    rw [h'.roots]
    exact hs.roots keys (h.roots ▸ hkeys) fun key hk hkey => hout key hk (h.isAt_iff.mpr hkey)

end Carries

namespace Bench

open Workbench (waiting?)

/-- The command changes what stands where, and it succeeds; a rule is deleted from a node that is
not empty. -/
def Restructures (b : Bench) (w : Walk) (cmd : Command) : Prop :=
  match cmd with
  | .addConclusion _ _ | .addPremises _ _ => True
  | .removeRoot _ | .attachRule _ _ | .applyRule _ _ _ | .promote _ _ =>
    ∃ answer b', b.perform w cmd = some (.ok answer, b')
  | .deleteRule id => ∃ key target s, b.arena.resolve? id = some (key, target) ∧
    b.arena.nodes[key]? = some s ∧ s.progress ≠ .empty
  | _ => False

/-- What a command makes of the forest, and the place of the change. -/
inductive Regrafts (b : Bench) (f : Forest Payload) : Command → List Nat → Forest Payload → Prop
  | addConclusion (conclusion : Text) (free : Bool) :
      Regrafts b f (.addConclusion conclusion free) []
        (f.append (Payload.hole free conclusion).leaf)
  | addPremises (premises : List Text) (free : Bool) :
      Regrafts b f (.addPremises premises free) []
        (f.append (Payload.gathering free premises).leaf)
  | removeRoot {id key i : Nat} {target : Target} (named : b.arena.resolve? id = some (key, target))
      (place : b.arena.IsAt [i] key) : Regrafts b f (.removeRoot id) [i] (f.eraseAt i)
  | attachRule {slot : Text} {q : RuleRequest} {path : List Nat} (premises : List Text)
      (named : waiting? b.rules slot = some q) (place : b.arena.IsAt path q.key) :
      Regrafts b f (.attachRule slot premises) path (f.changeAt (Payload.ruled q.rule premises) path)
  | applyRule {id key : Nat} {path : List Nat} (rule : Text) (premises : List Text)
      (named : b.arena.resolve? id = some (key, .rule)) (place : b.arena.IsAt path key) :
      Regrafts b f (.applyRule id rule premises) path (f.changeAt (Payload.ruled rule premises) path)
  | promote {slot : Text} {q : TopDownRequest} {path : List Nat} (conclusion : Text)
      (named : waiting? b.topDowns slot = some q) (place : b.arena.IsAt path q.key) :
      Regrafts b f (.promote slot conclusion) path
        (f.changeAt (Payload.promoted q.rule conclusion) path)
  | deleteRule {id key : Nat} {target : Target} {path : List Nat}
      (named : b.arena.resolve? id = some (key, target)) (place : b.arena.IsAt path key) :
      Regrafts b f (.deleteRule id) path (f.changeAt Payload.cleared path)

variable {b : Bench} {w : Workbench}

namespace Stores

variable (h : b.Stores w) (hs : w.canvas.Sound)

include h hs

theorem restructures_iff (hrests : w.canvas.Rests) (walk : Walk) (cmd : Command) :
    b.Restructures walk cmd ↔ w.Restructures cmd := by
  obtain ⟨b', hperform, -⟩ := h.perform hs hrests walk cmd
  have hok : (∃ answer b', b.perform walk cmd = some (.ok answer, b')) ↔
      ∃ answer, (w.perform cmd).1 = .ok answer := by
    simp [hperform]
  cases cmd with
  | addConclusion | addPremises => exact Iff.rfl
  | removeRoot | attachRule | applyRule | promote => exact hok
  | deleteRule id =>
    simp only [Restructures, Workbench.Restructures, h.arena.resolve?_eq hs]
    cases hr : w.canvas.resolve? id with
    | none => simp
    | some r =>
      obtain ⟨t, target⟩ := r
      simp [(h.arena.tree (hs.tree?_of_resolve? hr)).1]
  | _ => exact Iff.rfl

theorem resolve?_of {id : Nat} {t : Tree Node} {target : Target}
    (ht : w.canvas.resolve? id = some (t, target)) :
    b.arena.resolve? id = some (t.value.key, target) := by
  rw [h.arena.resolve?_eq hs, ht]
  rfl

theorem regrafts {cmd : Command} (hcmd : w.Restructures cmd) :
    ∃ path, b.Regrafts (w.canvas.forest.map Node.payload) cmd path
        ((w.perform cmd).2.canvas.forest.map Node.payload) ∧
      w.canvas.Spares (w.perform cmd).2.canvas path := by
  let f := w.canvas.forest.map Node.payload
  cases cmd with
  | addConclusion conclusion free =>
    obtain ⟨hf, hspares⟩ := w.canvas.planted conclusion free .hole
      (p := .hole free conclusion) (fun n hn => by rw [hn]; rfl)
    refine ⟨[], ?_, hspares⟩
    have hr := Regrafts.addConclusion (b := b) (f := f) conclusion free
    rwa [← hf] at hr
  | addPremises premises free =>
    obtain ⟨hf, hspares⟩ := w.canvas.planted [] free
      (.gathering (premises.filter fun p => !Text.isBlankText p))
      (p := .gathering free premises) (fun n hn => by rw [hn]; rfl)
    refine ⟨[], ?_, hspares⟩
    have hr := Regrafts.addPremises (b := b) (f := f) premises free
    rwa [← hf] at hr
  | removeRoot id =>
    obtain ⟨⟨⟩, ha⟩ := Workbench.answer_of_settle hcmd
    obtain ⟨t, target, i, ht, hat, hf, hspares⟩ := hs.pruned_removeRoot ha
    refine ⟨[i], ?_, hspares⟩
    have hr := Regrafts.removeRoot (f := f) (h.resolve?_of hs ht) (h.arena.isAt_iff.mpr hat)
    rwa [← hf] at hr
  | attachRule slot premises =>
    simp only [Workbench.Restructures, Workbench.perform] at hcmd ⊢
    cases hq : waiting? w.rules slot with
    | none => simp [hq] at hcmd
    | some q =>
      simp only [hq] at hcmd ⊢
      obtain ⟨⟨⟩, ha⟩ := Workbench.answer_of_settle hcmd
      obtain ⟨path, hat, hf, hspares⟩ := hs.regrafted_attachRule ha
      refine ⟨path, ?_, hspares⟩
      have hr := Regrafts.attachRule (f := f) premises (h.rules ▸ hq) (h.arena.isAt_iff.mpr hat)
      rwa [← hf] at hr
  | applyRule id rule premises =>
    simp only [Workbench.Restructures, Workbench.perform] at hcmd ⊢
    rcases w.canvas.requestRule_cases id rule with ⟨cause, -, he⟩ | ⟨t, ht, -, he⟩
    · simp [he] at hcmd
    · simp only [he] at hcmd ⊢
      obtain ⟨⟨⟩, ha⟩ := Workbench.answer_of_settle hcmd
      obtain ⟨path, hat, hf, hspares⟩ := hs.regrafted_attachRule ha
      refine ⟨path, ?_, hspares⟩
      have hr := Regrafts.applyRule (f := f) rule premises (h.resolve?_of hs ht)
        (h.arena.isAt_iff.mpr hat)
      rwa [← hf] at hr
  | promote slot conclusion =>
    simp only [Workbench.Restructures, Workbench.perform] at hcmd ⊢
    cases hq : waiting? w.topDowns slot with
    | none => simp [hq] at hcmd
    | some q =>
      simp only [hq] at hcmd ⊢
      obtain ⟨⟨⟩, ha⟩ := Workbench.answer_of_settle hcmd
      obtain ⟨path, hat, hf, hspares⟩ := hs.regrafted_promote ha
      refine ⟨path, ?_, hspares⟩
      have hr := Regrafts.promote (f := f) conclusion (h.topDowns ▸ hq) (h.arena.isAt_iff.mpr hat)
      rwa [← hf] at hr
  | deleteRule id =>
    obtain ⟨t, target, ht, hp⟩ := hcmd
    obtain ⟨path, hat, hf, hspares⟩ := hs.regrafted_deleteRule ht hp
    refine ⟨path, ?_, hspares⟩
    have hr := Regrafts.deleteRule (f := f) (h.resolve?_of hs ht) (h.arena.isAt_iff.mpr hat)
    rwa [← hf] at hr
  | _ => exact hcmd.elim

end Stores

/-- After every run the arena denotes one forest, and so it does after one more structural command;
the second forest is the first one with a change at the place of the command, beside which the arena
stays as it was. -/
theorem regrafts_run (steps : List (Walk × Action)) (walk : Walk) (cmd : Command) {b : Bench}
    (hrun : run {} steps = some b) (h : b.Restructures walk cmd) :
    ∃ f path f' answer b', (∀ g, b.arena.Denotes g ↔ g = f) ∧
      b.perform walk cmd = some (.ok answer, b') ∧ (∀ g, b'.arena.Denotes g ↔ g = f') ∧
        b.Regrafts f cmd path f' ∧ b.arena.Spares b'.arena path := by
  have hs := Workbench.sound_run (steps.map Prod.snd)
  have hrests := Workbench.rests_run (steps.map Prod.snd)
  obtain ⟨b₁, hrun₁, hstores⟩ := exists_run steps
  obtain rfl := Option.some.inj (hrun.symm.trans hrun₁)
  have hcmd := (hstores.restructures_iff hs hrests walk cmd).mp h
  obtain ⟨path, hregrafts, hspares⟩ := hstores.regrafts hs hcmd
  obtain ⟨answer, hanswer⟩ := Workbench.ok_of_restructures hcmd
  obtain ⟨b', hperform, hstores'⟩ := hstores.perform hs hrests walk cmd
  rw [hanswer] at hperform
  exact ⟨_, path, _, answer, b', fun g => hstores.arena.denotes_iff, hperform,
    fun g => hstores'.arena.denotes_iff, hregrafts,
    hstores.arena.spares hstores'.arena.toCarries hspares⟩

/-- A rule takes the place of another one below a root, and the node that hung there is gone. -/
theorem regrafts_of_second_rule :
    let walk : Walk := ⟨HashMap.toList, fun _ => .refl _⟩
    let steps := [(walk, Action.command (.addConclusion ['a'] true)),
      (walk, .command (.applyRule 1 ['r'] [['b'], ['c']])),
      (walk, .command (.applyRule 5 ['s'] [['d']]))]
    ∃ b, run {} steps = some b ∧ b.Restructures walk (.applyRule 11 ['t'] []) ∧
      ∃ f path f' answer b', (∀ g, b.arena.Denotes g ↔ g = f) ∧
        b.perform walk (.applyRule 11 ['t'] []) = some (.ok answer, b') ∧
          (∀ g, b'.arena.Denotes g ↔ g = f') ∧
            b.Regrafts f (.applyRule 11 ['t'] []) path f' ∧ b.arena.Spares b'.arena path := by
  intro walk steps
  obtain ⟨b, hrun, hstores⟩ := exists_run steps
  have hsecond : (Workbench.run {} (steps.map Prod.snd)).Restructures (.applyRule 11 ['t'] []) :=
    ⟨.done, rfl⟩
  have h : b.Restructures walk (.applyRule 11 ['t'] []) :=
    (hstores.restructures_iff (Workbench.sound_run _) (Workbench.rests_run _) walk _).mpr hsecond
  exact ⟨b, hrun, h, regrafts_run steps walk _ hrun h⟩

end Bench

end Arena

end ProofDesk
