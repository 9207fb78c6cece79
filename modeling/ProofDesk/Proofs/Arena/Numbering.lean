import ProofDesk.Proofs.Arena.Run

namespace ProofDesk

namespace Arena

/-- A stack of nodes and all that is below them, each before its children, is met in this order. -/
inductive Visits (a : Arena) : (stack order : List Nat) → Prop
  | nil : Visits a [] []
  | cons {key : Nat} {stack order : List Nat} :
      Visits a (a.childrenOf key ++ stack) order → Visits a (key :: stack) (key :: order)

/-- The live nodes in preorder have the even ids of a window, and the two maps of ids are inverse. -/
structure Numbered (a : Arena) : Prop where
  room : 2 * a.nodes.size ≤ a.nextId
  ids : ∃ order, a.Visits a.roots order ∧ (∀ key : Nat, key ∈ order ↔ key ∈ a.nodes) ∧
    order.map (fun key => a.mounted[key]?) =
      (List.range a.nodes.size).map fun i => some (a.nextId - 2 * a.nodes.size + 2 * i)
  live : ∀ key : Nat, key ∈ a.mounted ↔ key ∈ a.nodes
  inverse : ∀ id key : Nat, a.mounts[id]? = some key ↔ a.mounted[key]? = some id
  target : ∀ id, (a.resolve? id).map Prod.snd =
    if a.nextId - 2 * a.nodes.size ≤ id ∧ id < a.nextId then
      some (if id % 2 = 0 then .copy else .rule)
    else none

/-- Nothing is found at an id. -/
structure Lost (a : Arena) (id : Nat) : Prop where
  target : a.resolve? id = none
  children : a.childIds id = []
  parent : ∀ w : Walk, a.parentId? w id = none
  derivation : a.derivation? id = some none
  source : ∀ (w : Walk) (target : Nat), ∃ cause, a.dropCopy w target id = a.refuse cause ∧
    ((∃ key, a.resolve? target = some (key, .copy)) → cause = .unknownTarget id)
  roots : ∀ before q after, q.root = id → (∃ text, a.exportRoots before = some (.ok text)) →
    a.exportRoots (before ++ q :: after) = some (.error (.unknownTarget id))

variable {a : Arena} {c : Canvas} {id : Nat}

theorem visits_of_isIn {f : Forest Node} (h : f.IsIn a.nodes) {stack order : List Nat}
    (hrest : a.Visits stack order) :
    a.Visits (f.tops.map Node.key ++ stack) (f.preorder.map Node.key ++ order) := by
  induction f generalizing stack order with
  | nil => exact hrest
  | cons n below rest ihb ihr =>
    obtain ⟨hfound, hbelow, hothers⟩ := Forest.isIn_cons.mp h
    have hwalk := ihb hbelow (ihr hothers hrest)
    have hchildren : a.childrenOf n.key = below.tops.map Node.key := childrenOf_eq hfound
    rw [← hchildren] at hwalk
    simpa [Forest.tops, Forest.preorder] using Visits.cons hwalk

theorem Carries.size_eq (h : a.Carries c) : a.nodes.size = c.forest.size := by
  have hlength := congrArg List.length (Forest.map_fst_slots c.forest)
  rw [List.length_map, List.length_map, Forest.length_preorder] at hlength
  rw [← Std.HashMap.length_toList, h.nodes.length_eq, hlength]

theorem Stores.numbered (h : a.Stores c) (hs : c.Sound) : a.Numbered := by
  have hn := hs.numbered
  have hids : ∀ n ∈ c.forest.preorder, a.mounted[n.key]? = some n.id := fun n hm =>
    h.ids.byKey.getElem?_iff.mpr (List.mem_map.mpr ⟨n, hm, rfl⟩)
  refine ⟨?_, ⟨c.forest.preorder.map Node.key, ?_, fun key => ?_, ?_⟩, fun key => ?_,
    fun id key => ?_, fun id => ?_⟩
  · rw [h.size_eq, h.nextId]
    exact hn.room
  · have hwalk := visits_of_isIn (Forest.isIn_of_lists h.nodes) Visits.nil
    rwa [List.append_nil, List.append_nil, ← Canvas.roots, ← h.roots] at hwalk
  · rw [h.nodes.mem_iff, Forest.map_fst_slots]
  · rw [h.size_eq, h.nextId, List.map_map]
    have hsome := congrArg (List.map some) hn.ids
    rw [List.map_map, List.map_map] at hsome
    exact (List.map_congr_left hids).trans hsome
  · rw [h.nodes.mem_iff, h.ids.byKey.mem_iff, Forest.map_fst_slots, List.map_map]
    rfl
  · rw [h.ids.byId.getElem?_iff, h.ids.byKey.getElem?_iff]
    simp [and_comm]
  · rw [h.resolve?_eq hs, h.size_eq, h.nextId, Option.map_map]
    exact hn.target id

/-- A request that is written with others is written before whatever else is. -/
theorem exists_of_exportRoots_cons {p : TheoremRequest} {before : List TheoremRequest} {text : Text}
    (h : a.exportRoots (p :: before) = some (.ok text)) :
    ∃ (write : Text → Text) (others : Text), a.exportRoots before = some (.ok others) ∧
      ∀ rest, a.exportRoots (p :: rest) = (a.exportRoots rest).map (Except.map write) := by
  obtain ⟨key, place, hr⟩ : ∃ key place, a.resolve? p.root = some (key, place) := by
    cases hr : a.resolve? p.root with
    | none => simp [exportRoots, hr] at h
    | some r => exact ⟨r.1, r.2, rfl⟩
  have hroot : key ∈ a.roots := by
    by_contra hno
    simp [exportRoots, hr, hno] at h
  obtain ⟨d, hd⟩ : ∃ d, a.derivationOf? key = some (some d) := by
    rcases hd : a.derivationOf? key with _ | _ | d
    · simp [exportRoots, hr, hroot, hd] at h
    · simp [exportRoots, hr, hroot, hd] at h
    · exact ⟨d, rfl⟩
  have hwrite : ∀ rest, a.exportRoots (p :: rest) = (a.exportRoots rest).map
      (Except.map fun text => Script.render p.name p.quantifiers d ++ text) := by
    intro rest
    rw [exportRoots]
    simp only [hr, List.contains_eq_mem, hroot, decide_true, Bool.not_true, Bool.false_eq_true,
      if_false, hd]
    cases a.exportRoots rest <;> rfl
  rw [hwrite] at h
  rcases hothers : a.exportRoots before with _ | cause | others
  · simp [hothers] at h
  · simp [hothers, Except.map] at h
  · exact ⟨_, others, rfl, hwrite⟩

theorem lost_of_resolve?_eq_none (h : a.resolve? id = none) : a.Lost id where
  target := h
  children := by rw [childIds, h]
  parent w := by simp [parentId?, h]
  derivation := by rw [derivation?, h]
  source w target := by
    rw [dropCopy]
    split
    next ht => exact ⟨_, rfl, by rintro ⟨key, ht'⟩; simp [ht] at ht'⟩
    next ht => exact ⟨_, rfl, by rintro ⟨key, ht'⟩; simp [ht] at ht'⟩
    next => simp only [h]; exact ⟨_, rfl, fun _ => rfl⟩
  roots before q after hq hb := by
    obtain ⟨text, hb⟩ := hb
    induction before generalizing text with
    | nil =>
      rw [List.nil_append, exportRoots, hq, h]
    | cons p before ih =>
      obtain ⟨write, others, hothers, hwrite⟩ := exists_of_exportRoots_cons hb
      rw [List.cons_append, hwrite, ih others hothers]
      rfl

theorem Bench.perform_of_resolve?_eq_none {b : Bench} (h : b.arena.resolve? id = none) (w : Walk)
    {cmd : Command} (ht : cmd.target? = some id) :
    b.perform w cmd = some (.error (.refused (.unknownTarget id)), b) := by
  cases cmd <;> simp only [Command.target?, Option.some.injEq, reduceCtorEq] at ht <;> subst ht <;>
    simp only [perform, removeRoot, requestRule, requestTopDown, deleteRule, dropCopy, dropPremise,
      setName, toggle, requestSubstitution, h]
  all_goals rfl

end Arena

namespace Workbench

/-- After every run the canvas is numbered. An action that moves the window moves it past every id
that was ever named; from then on nothing is found at such an id. Any other action keeps the ids.
An arena on which the same actions are performed, in whatever order its node map is met, is numbered
from the same next id; where nothing is found at an id, a command aimed there changes nothing. -/
theorem numbered_run (before : List Action) :
    (run {} before).canvas.Numbered ∧
      (∀ a, (¬(run {} before).Moves a →
          (run {} (before ++ [a])).canvas.nextId = (run {} before).canvas.nextId ∧
          (run {} (before ++ [a])).canvas.ids = (run {} before).canvas.ids) ∧
        ((run {} before).Moves a →
          (run {} (before ++ [a])).canvas.firstId = (run {} before).canvas.nextId ∧
          ∀ earlier, earlier <+: before → ∀ id,
            ((run {} earlier).canvas.resolve? id).isSome = true →
            id < (run {} (before ++ [a])).canvas.firstId ∧
            ∀ after, (run {} (before ++ a :: after)).canvas.Lost id ∧
              ∀ cmd : Command, cmd.target? = some id →
                (run {} (before ++ a :: after)).perform cmd =
                  (.error (.refused (.unknownTarget id)), run {} (before ++ a :: after)))) ∧
      ∀ steps : List (Walk × Action), steps.map Prod.snd = before →
        ∃ b, Arena.Bench.run {} steps = some b ∧ b.arena.Numbered ∧
          b.arena.nextId = (run {} before).canvas.nextId ∧
          ∀ id, ((b.arena.resolve? id).isSome = ((run {} before).canvas.resolve? id).isSome) ∧
            (b.arena.resolve? id = none → b.arena.Lost id ∧
              ∀ w cmd, cmd.target? = some id →
                b.perform w cmd = some (.error (.refused (.unknownTarget id)), b)) := by
  obtain ⟨hnumbered, hmoves⟩ := canvas_numbered_run before
  refine ⟨hnumbered, hmoves, fun steps hsteps => ?_⟩
  subst hsteps
  have hs := sound_run (steps.map Prod.snd)
  obtain ⟨b, hrun, hstores⟩ := Arena.Bench.exists_run steps
  refine ⟨b, hrun, hstores.arena.numbered hs, hstores.arena.nextId, fun id => ⟨?_, fun hnone => ?_⟩⟩
  · rw [hstores.arena.resolve?_eq hs, Option.isSome_map]
  · exact ⟨Arena.lost_of_resolve?_eq_none hnone, fun w cmd ht =>
      Arena.Bench.perform_of_resolve?_eq_none hnone w ht⟩

/-- The id of a first root is lost once there is a second one. -/
theorem lost_of_second_root :
    (run {} [.command (.addConclusion ['a'] true), .command (.addConclusion ['b'] true)]).canvas.Lost
      0 := by
  have h := (numbered_run [.command (.addConclusion ['a'] true)]).2.1
    (.command (.addConclusion ['b'] true))
  obtain ⟨-, hlost⟩ := h.2 trivial
  exact ((hlost _ (List.prefix_refl _) 0 (by decide)).2 []).1

end Workbench

end ProofDesk
