import ProofDesk.Proofs.Canvas.Sound

namespace ProofDesk

def Command.target? : Command → Option Nat
  | .removeRoot id | .requestRule id _ _ | .applyRule id _ _ | .requestTopDown id _ _ _
  | .deleteRule id | .dropCopy id _ | .dropPremise id _ | .setName id _ | .toggle id
  | .requestSubstitution id _ _ _ _ => some id
  | _ => none

namespace Canvas

def keyAt? (c : Canvas) (id : Nat) : Option Nat :=
  (c.forest.find? fun n => n.id == id).map fun t => t.value.key

def idOf? (c : Canvas) (key : Nat) : Option Nat :=
  (c.node? key).map Node.id

/-- The ids of the nodes in preorder, and what the numbers of the window and all others name. -/
structure Numbered (c : Canvas) : Prop where
  room : 2 * c.forest.size ≤ c.nextId
  ids : c.forest.preorder.map Node.id =
    (List.range c.forest.size).map fun i => c.nextId - 2 * c.forest.size + 2 * i
  inverse : ∀ id key, c.keyAt? id = some key ↔ c.idOf? key = some id
  target : ∀ id, (c.resolve? id).map Prod.snd =
    if c.nextId - 2 * c.forest.size ≤ id ∧ id < c.nextId then
      some (if id % 2 = 0 then .copy else .rule)
    else none

/-- Nothing is found at an id. -/
structure Lost (c : Canvas) (id : Nat) : Prop where
  target : c.resolve? id = none
  children : c.childIds id = []
  parent : c.parentId? id = none
  derivation : c.derivation? id = none
  source : ∀ target, ∃ cause, c.dropCopy target id = c.refuse cause ∧
    ((∃ t, c.resolve? target = some (t, .copy)) → cause = .unknownTarget id)
  roots : ∀ before q after, q.root = id → (∀ p ∈ before, ∃ text, c.exportRoot p = .ok text) →
    c.exportRoots (before ++ q :: after) = .error (.unknownTarget id)

end Canvas

namespace Forest

variable {α : Type}

theorem find?_value {p : α → Bool} (f : Forest α) :
    (f.find? p).map Tree.value = f.preorder.find? p := by
  induction f with
  | nil => rfl
  | cons a below rest ihb ihr =>
    by_cases ha : p a = true
    · simp [find?, preorder, ha]
    · simp [find?, preorder, ha, ← ihb, ← ihr, Option.map_or]

theorem map_find?_eq_some_iff {β : Type} {f : Forest α} {h : α → Nat} {g : α → β}
    (distinct : (f.preorder.map h).Nodup) {k : Nat} {b : β} :
    (f.find? fun a => h a == k).map (fun t => g t.value) = some b ↔
      ∃ a ∈ f.preorder, h a = k ∧ g a = b := by
  rw [show (fun t : Tree α => g t.value) = g ∘ Tree.value from rfl, ← Option.map_map, find?_value]
  constructor
  · intro hf
    obtain ⟨a, ha, hb⟩ := Option.map_eq_some_iff.mp hf
    exact ⟨a, List.mem_of_find?_eq_some ha, by simpa using List.find?_some ha, hb⟩
  · rintro ⟨a, ha, hk, hb⟩
    cases hf : f.preorder.find? fun a => h a == k with
    | none => exact absurd hk (by simpa using List.find?_eq_none.mp hf a ha)
    | some a' =>
      have hk' : h a' = k := by simpa using List.find?_some hf
      have he := List.inj_on_of_nodup_map distinct (List.mem_of_find?_eq_some hf) ha
        (hk'.trans hk.symm)
      rw [Option.map_some, he, hb]

end Forest

namespace Canvas

variable {c : Canvas}

theorem find?_id_isSome (c : Canvas) (id : Nat) :
    (c.forest.find? fun n => n.id == id).isSome = true ↔ id ∈ c.ids := by
  constructor
  · intro h
    obtain ⟨t, ht⟩ := Option.isSome_iff_exists.mp h
    obtain ⟨hm, hid⟩ := Forest.mem_preorder_of_find? ht
    exact List.mem_map.mpr ⟨t.value, hm, by simpa using hid⟩
  · intro h
    obtain ⟨n, hn, hid⟩ := List.mem_map.mp h
    obtain ⟨t, ht⟩ := Forest.exists_find?_of_mem (p := fun m => m.id == id) hn (by simpa using hid)
    rw [ht, Option.isSome_some]

namespace Sound

variable (hs : c.Sound)

include hs

theorem keyAt?_eq_some_iff {id key : Nat} :
    c.keyAt? id = some key ↔ ∃ n ∈ c.forest.preorder, n.id = id ∧ n.key = key :=
  Forest.map_find?_eq_some_iff hs.distinct_ids

theorem idOf?_eq_some_iff {id key : Nat} :
    c.idOf? key = some id ↔ ∃ n ∈ c.forest.preorder, n.key = key ∧ n.id = id := by
  rw [idOf?, node?, Option.map_map]
  exact Forest.map_find?_eq_some_iff hs.distinct_keys

theorem mem_ids_iff {id : Nat} : id ∈ c.ids ↔ c.firstId ≤ id ∧ id < c.nextId ∧ id % 2 = 0 := by
  have hroom := hs.room
  have heven := hs.even
  have hfirst : c.firstId = c.nextId - 2 * c.forest.size := rfl
  rw [hs.ids]
  simp only [List.mem_map, List.mem_range]
  constructor
  · rintro ⟨i, hi, rfl⟩
    omega
  · rintro ⟨hlo, hhi, hev⟩
    exact ⟨(id - c.firstId) / 2, by omega, by omega⟩

/-- An even number of the window names a copy target, an odd one a rule target. -/
theorem map_snd_resolve? (id : Nat) :
    (c.resolve? id).map Prod.snd =
      if c.firstId ≤ id ∧ id < c.nextId then some (if id % 2 = 0 then .copy else .rule)
      else none := by
  have hroom := hs.room
  have heven := hs.even
  have hfirst : c.firstId = c.nextId - 2 * c.forest.size := rfl
  have hcopy := c.find?_id_isSome id
  rw [hs.mem_ids_iff] at hcopy
  have hrule : (c.forest.find? fun n => n.id + 1 == id).isSome = true ↔
      c.firstId < id ∧ id < c.nextId ∧ id % 2 = 1 := by
    cases id with
    | zero =>
      have hz : ∀ n ∈ c.forest.preorder, (n.id + 1 == 0) = false := fun n _ => by simp
      rw [Forest.find?_eq_none_iff.mpr hz]
      simp
    | succ k =>
      have hk := c.find?_id_isSome k
      rw [hs.mem_ids_iff] at hk
      have hpred : (fun n : Node => n.id + 1 == k + 1) = fun n => n.id == k := by
        funext n
        simp
      rw [hpred, hk]
      omega
  rw [resolve?]
  cases hf : c.forest.find? fun n => n.id == id with
  | some t =>
    rw [hf] at hcopy
    obtain ⟨hlo, hhi, hev⟩ := hcopy.mp rfl
    simp [hlo, hhi, hev]
  | none =>
    rw [hf] at hcopy
    cases hg : c.forest.find? fun n => n.id + 1 == id with
    | some t =>
      rw [hg] at hrule
      obtain ⟨hlo, hhi, hodd⟩ := hrule.mp rfl
      simp [hlo.le, hhi, hodd]
    | none =>
      rw [hg] at hrule
      simp only [Option.isSome_none, Bool.false_eq_true, false_iff, not_and] at hcopy hrule
      rw [if_neg]
      · rfl
      · rintro ⟨hlo, hhi⟩
        have he := hcopy hlo hhi
        have ho := hrule (by omega) hhi
        omega

theorem numbered : c.Numbered where
  room := hs.room
  ids := hs.ids
  inverse id key := by
    rw [hs.keyAt?_eq_some_iff, hs.idOf?_eq_some_iff]
    constructor
    · rintro ⟨n, hn, hid, hk⟩
      exact ⟨n, hn, hk, hid⟩
    · rintro ⟨n, hn, hk, hid⟩
      exact ⟨n, hn, hid, hk⟩
  target := hs.map_snd_resolve?

theorem resolve?_isSome_iff {id : Nat} :
    (c.resolve? id).isSome = true ↔ c.firstId ≤ id ∧ id < c.nextId := by
  have h := hs.map_snd_resolve? id
  rw [← Option.isSome_map (f := Prod.snd), h]
  split
  next hw => simp [hw]
  next hw => simp [hw]

end Sound

theorem lost_of_resolve?_eq_none {id : Nat} (h : c.resolve? id = none) : c.Lost id where
  target := h
  children := by rw [childIds, h]
  parent := by simp [parentId?, h]
  derivation := by rw [derivation?, h, Option.bind_none]
  source target := by
    rw [dropCopy]
    split
    next ht => exact ⟨_, rfl, by rintro ⟨t, ht'⟩; simp [ht] at ht'⟩
    next ht => exact ⟨_, rfl, by rintro ⟨t, ht'⟩; simp [ht] at ht'⟩
    next => simp only [h]; exact ⟨_, rfl, fun _ => rfl⟩
  roots before q after hq hb := by
    induction before with
    | nil =>
      have hr : c.exportRoot q = .error (.unknownTarget id) := by rw [exportRoot, hq, h]
      rw [List.nil_append, exportRoots, hr]
      rfl
    | cons p before ih =>
      obtain ⟨text, ht⟩ := hb p List.mem_cons_self
      rw [List.cons_append, exportRoots, ht, ih fun x hx => hb x (List.mem_cons_of_mem _ hx)]
      rfl

end Canvas

namespace Workbench

/-- The action is a command that restructures. -/
def Moves (w : Workbench) : Action → Prop
  | .command cmd => w.Restructures cmd
  | .takeEvents => False

theorem act_cases (w : Workbench) (a : Action) :
    (w.Moves a ∧ w.canvas.Reshapes (w.act a).canvas) ∨
      (¬w.Moves a ∧ w.canvas.Keeps (w.act a).canvas) := by
  cases a with
  | command cmd => exact w.perform_cases cmd
  | takeEvents => exact Or.inr ⟨id, w.keeps_takeEvents⟩

/-- A command aimed at an id without a node is refused and changes nothing. -/
theorem perform_of_resolve?_eq_none {w : Workbench} {id : Nat} (h : w.canvas.resolve? id = none)
    {cmd : Command} (ht : cmd.target? = some id) :
    w.perform cmd = (.error (.refused (.unknownTarget id)), w) := by
  cases cmd <;> simp only [Command.target?, Option.some.injEq, reduceCtorEq] at ht
  case removeRoot => subst ht; simp only [perform, Canvas.removeRoot, h]; rfl
  case requestRule => subst ht; simp only [perform, Canvas.requestRule, h]
  case applyRule => subst ht; simp only [perform, Canvas.requestRule, h]
  case requestTopDown => subst ht; simp only [perform, Canvas.requestTopDown, h]
  case deleteRule => subst ht; simp only [perform, Canvas.deleteRule, h]; rfl
  case dropCopy => subst ht; simp only [perform, Canvas.dropCopy, h]; rfl
  case dropPremise => subst ht; simp only [perform, Canvas.dropPremise, h]; rfl
  case setName => subst ht; simp only [perform, Canvas.setName, h]; rfl
  case toggle => subst ht; simp only [perform, Canvas.toggle, h]; rfl
  case requestSubstitution => subst ht; simp only [perform, Canvas.requestSubstitution, h]

theorem firstId_le_run {w : Workbench} (hs : w.canvas.Sound) (actions : List Action) :
    w.canvas.firstId ≤ (w.run actions).canvas.firstId ∧
      w.canvas.nextId ≤ (w.run actions).canvas.nextId := by
  have h : (w.run actions).canvas.Sound ∧ w.canvas.firstId ≤ (w.run actions).canvas.firstId ∧
      w.canvas.nextId ≤ (w.run actions).canvas.nextId := by
    refine run_preserves (P := fun v => v.canvas.Sound ∧ w.canvas.firstId ≤ v.canvas.firstId ∧
      w.canvas.nextId ≤ v.canvas.nextId) ?_ ⟨hs, le_rfl, le_rfl⟩ actions
    rintro v a ⟨hv, hlo, hhi⟩
    refine ⟨sound_act v a hv, ?_⟩
    have hfirst : v.canvas.firstId ≤ v.canvas.nextId := Nat.sub_le _ _
    rcases v.act_cases a with ⟨-, hr⟩ | ⟨-, hk⟩
    · have hf := hr.firstId
      have hn := hr.nextId
      omega
    · have hf := hk.firstId
      have hn := hk.nextId
      omega
  exact h.2

/-- After every run the canvas is numbered. An action that moves the window moves it past every id
that was ever named; from then on nothing is found at such an id. Any other action keeps the ids. -/
theorem canvas_numbered_run (before : List Action) :
    (run {} before).canvas.Numbered ∧
      ∀ a, (¬(run {} before).Moves a →
          (run {} (before ++ [a])).canvas.nextId = (run {} before).canvas.nextId ∧
          (run {} (before ++ [a])).canvas.ids = (run {} before).canvas.ids) ∧
        ((run {} before).Moves a →
          (run {} (before ++ [a])).canvas.firstId = (run {} before).canvas.nextId ∧
          ∀ earlier, earlier <+: before → ∀ id,
            ((run {} earlier).canvas.resolve? id).isSome = true →
            id < (run {} (before ++ [a])).canvas.firstId ∧
            ∀ after, (run {} (before ++ a :: after)).canvas.Lost id ∧
              ∀ cmd : Command, cmd.target? = some id →
                (run {} (before ++ a :: after)).perform cmd =
                  (.error (.refused (.unknownTarget id)), run {} (before ++ a :: after))) := by
  have hs := sound_run before
  refine ⟨hs.numbered, fun a => ?_⟩
  have hone : run {} (before ++ [a]) = (run {} before).act a := by simp [run_append]
  rcases (run {} before).act_cases a with ⟨hm, hr⟩ | ⟨hm, hk⟩
  · refine ⟨fun hn => absurd hm hn, fun _ => ?_⟩
    rw [hone]
    refine ⟨hr.firstId, fun earlier hpre id hid => ?_⟩
    obtain ⟨rest, rfl⟩ := hpre
    -- the id was below the next id then, and so is below the window that starts there now
    have hold := (sound_run earlier).resolve?_isSome_iff.mp hid
    have hgrow := (firstId_le_run (sound_run earlier) rest).2
    rw [← run_append] at hgrow
    have hlt : id < ((run {} (earlier ++ rest)).act a).canvas.firstId := by
      rw [hr.firstId]
      omega
    refine ⟨hlt, fun after => ?_⟩
    have hnone : (run {} ((earlier ++ rest) ++ a :: after)).canvas.resolve? id = none := by
      have hlater := (firstId_le_run (sound_act _ a hs) after).1
      rw [← run_cons, ← run_append] at hlater
      rw [← Option.not_isSome_iff_eq_none, (sound_run _).resolve?_isSome_iff]
      omega
    exact ⟨Canvas.lost_of_resolve?_eq_none hnone, fun cmd ht => perform_of_resolve?_eq_none hnone ht⟩
  · refine ⟨fun _ => ?_, fun h => absurd h hm⟩
    rw [hone]
    exact ⟨hk.nextId, hk.ids⟩

end Workbench

end ProofDesk
