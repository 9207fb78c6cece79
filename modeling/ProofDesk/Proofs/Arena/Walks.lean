import ProofDesk.Proofs.Arena.Entries
import ProofDesk.Proofs.Canvas.Slots

namespace ProofDesk

open Std (HashMap)

/-- The map has the nodes of the forest under their keys, and may have others. -/
def Forest.IsIn (f : Forest Node) (nodes : HashMap Nat Slot) : Prop :=
  ∀ e ∈ f.slots, nodes[e.1]? = some e.2

namespace Forest

variable {nodes : HashMap Nat Slot} {n : Node} {below rest : Forest Node}

theorem isIn_of_lists {f : Forest Node} (h : Lists nodes f.slots) : f.IsIn nodes :=
  fun _ he => h.getElem?_iff.mpr he

theorem isIn_cons : (cons n below rest).IsIn nodes ↔
    nodes[n.key]? = some (n.slot below.tops) ∧ below.IsIn nodes ∧ rest.IsIn nodes := by
  simp [IsIn, or_imp, forall_and]

theorem IsIn.below_of_fill {e : Context Node} {t : Tree Node} (h : (e.fill t).IsIn nodes) :
    nodes[t.value.key]? = some (t.value.slot t.below.tops) ∧ t.below.IsIn nodes := by
  have hin : (cons t.value t.below nil).IsIn nodes := by
    intro entry hentry
    obtain ⟨r, hr, rfl⟩ := List.mem_map.mp hentry
    exact h _ (List.mem_map_of_mem (e.rows_subset_fill t hr))
  obtain ⟨htop, hbelow, -⟩ := isIn_cons.mp hin
  exact ⟨htop, hbelow⟩

end Forest

namespace Arena

variable {nodes : HashMap Nat Slot}

theorem childrenOf_eq {a : Arena} {key : Nat} {s : Slot} (h : a.nodes[key]? = some s) :
    a.childrenOf key = s.children := by
  rw [childrenOf, h]
  rfl

/-- A forest is released as a whole, before the other keys. -/
theorem exists_releaseFrom {f : Forest Node} {l r : List (Nat × Slot)} (keys : List Nat)
    (h : Lists nodes (l ++ (f.slots ++ r))) :
    ∃ nodes', Lists nodes' (l ++ r) ∧
      releaseFrom nodes (f.tops.map Node.key ++ keys) = releaseFrom nodes' keys := by
  induction f generalizing nodes l r keys with
  | nil => exact ⟨nodes, h, rfl⟩
  | cons n below rest ihb ihr =>
    have hentries : l ++ ((Forest.cons n below rest).slots ++ r) =
        l ++ (n.key, n.slot below.tops) :: (below.slots ++ (rest.slots ++ r)) := by simp
    rw [hentries] at h
    have hfound : nodes[n.key]? = some (n.slot below.tops) :=
      h.getElem?_iff.mpr (List.mem_append_right l List.mem_cons_self)
    obtain ⟨inner, hinner, hb⟩ := ihb (rest.tops.map Node.key ++ keys) h.erase
    obtain ⟨nodes', hnodes', hr⟩ := ihr keys hinner
    refine ⟨nodes', hnodes', ?_⟩
    rw [Forest.tops, List.map_cons, List.cons_append, releaseFrom]
    split
    next hnone =>
      rw [hfound] at hnone
      cases hnone
    next s hs =>
      obtain rfl : n.slot below.tops = s := Option.some.inj (hfound.symm.trans hs)
      rw [Node.children_slot, hb, hr]

theorem lists_releaseFrom_modify {f : Forest Node} {key : Nat} {s : Slot} {l r : List (Nat × Slot)}
    (h : Lists nodes (l ++ (key, s) :: (f.slots ++ r))) (g : Slot → Slot) :
    Lists (releaseFrom (nodes.modify key g) (f.tops.map Node.key)) (l ++ (key, g s) :: r) := by
  have hmodify : Lists (nodes.modify key g) ((l ++ [(key, g s)]) ++ (f.slots ++ r)) := by
    simpa using h.modify g
  obtain ⟨nodes', hnodes', hrelease⟩ := exists_releaseFrom [] hmodify
  rw [List.append_nil, releaseFrom.eq_1 nodes'] at hrelease
  rw [hrelease]
  simpa using hnodes'

/-- Placeholders for some conclusions, with keys from a first one on. -/
def placeholders (first : Nat) (free : Bool) (conclusions : List Text) : List (Nat × Slot) :=
  conclusions.zipIdx.map fun (conclusion, i) => (first + i, { conclusion, free })

theorem placeholders_cons (first : Nat) (free : Bool) (conclusion : Text)
    (conclusions : List Text) :
    placeholders first free (conclusion :: conclusions) =
      (first, { conclusion, free }) :: placeholders (first + 1) free conclusions := by
  simp only [placeholders, List.zipIdx_cons, List.map_cons, Nat.add_zero, Nat.zero_add]
  refine congrArg (_ :: ·) ?_
  rw [List.zipIdx_succ, List.map_map]
  refine List.map_congr_left fun x _ => ?_
  have hkey : first + (x.2 + 1) = first + 1 + x.2 := by omega
  exact congrArg (fun k => ((k, { conclusion := x.1, free }) : Nat × Slot)) hkey

theorem map_fst_placeholders (first : Nat) (free : Bool) (conclusions : List Text) :
    (placeholders first free conclusions).map Prod.fst =
      List.range' first conclusions.length := by
  induction conclusions generalizing first with
  | nil => rfl
  | cons conclusion conclusions ih =>
    rw [placeholders_cons, List.map_cons, ih, List.length_cons, List.range'_succ]

theorem slots_holes (c : Canvas) (free : Bool) (conclusions : List Text) :
    (c.holes free conclusions).slots = placeholders c.nextKey free conclusions := by
  rw [Canvas.holes, Forest.slots_ofValues, List.map_map]
  rfl

/-- Planting puts the placeholders among the other nodes and touches nothing else. -/
theorem exists_plant {a : Arena} {l r : List (Nat × Slot)} (free : Bool) (conclusions : List Text)
    (h : Lists a.nodes (l ++ r)) (fresh : ∀ k ∈ (l ++ r).map Prod.fst, k < a.nextKey) :
    ∃ nodes', Lists nodes' (l ++ (placeholders a.nextKey free conclusions ++ r)) ∧
      a.plant free conclusions = (List.range' a.nextKey conclusions.length,
        { a with nodes := nodes', nextKey := a.nextKey + conclusions.length }) := by
  induction conclusions generalizing a l with
  | nil => exact ⟨a.nodes, h, rfl⟩
  | cons conclusion conclusions ih =>
    have hnew : a.nextKey ∉ (l ++ r).map Prod.fst := fun hm => Nat.lt_irrefl _ (fresh _ hm)
    let s : Slot := { conclusion, free }
    have hinsert : Lists (a.nodes.insert a.nextKey s) ((l ++ [(a.nextKey, s)]) ++ r) := by
      simpa using h.insert hnew s
    have hfresh : ∀ k ∈ ((l ++ [(a.nextKey, s)]) ++ r).map Prod.fst, k < a.nextKey + 1 := by
      intro k hk
      simp only [List.append_assoc, List.map_append, List.map_cons, List.map_nil, List.mem_append,
        List.mem_singleton] at hk fresh
      rcases hk with hk | rfl | hk
      · exact Nat.lt_succ_of_lt (fresh k (Or.inl hk))
      · exact Nat.lt_succ_self _
      · exact Nat.lt_succ_of_lt (fresh k (Or.inr hk))
    obtain ⟨nodes', hnodes', hplant⟩ := ih (a := (a.insert s).2) hinsert hfresh
    refine ⟨nodes', ?_, ?_⟩
    · rw [placeholders_cons]
      simpa [insert, s] using hnodes'
    · have hstep : a.plant free (conclusion :: conclusions) =
          (a.nextKey :: ((a.insert s).2.plant free conclusions).1,
            ((a.insert s).2.plant free conclusions).2) := rfl
      have hnext : a.nextKey + 1 + conclusions.length = a.nextKey + (conclusions.length + 1) := by
        omega
      rw [hstep, hplant, List.length_cons, List.range'_succ, ← hnext]
      rfl

theorem exists_plant_edit {a : Arena} {key : Nat} {s : Slot} {l r : List (Nat × Slot)}
    (free : Bool) (conclusions : List Text) (g : Slot → Slot)
    (h : Lists a.nodes (l ++ (key, s) :: r))
    (fresh : ∀ k ∈ (l ++ (key, s) :: r).map Prod.fst, k < a.nextKey) :
    (a.plant free conclusions).1 = List.range' a.nextKey conclusions.length ∧
      ∃ nodes', Lists nodes' (l ++ (key, g s) :: (placeholders a.nextKey free conclusions ++ r)) ∧
        (a.plant free conclusions).2.edit key g =
          { a with nodes := nodes', nextKey := a.nextKey + conclusions.length } := by
  have hsplit : l ++ (key, s) :: r = (l ++ [(key, s)]) ++ r := by simp
  rw [hsplit] at h fresh
  obtain ⟨nodes', hnodes', hplant⟩ := exists_plant free conclusions h fresh
  have hplanted : Lists nodes' (l ++ (key, s) :: (placeholders a.nextKey free conclusions ++ r)) := by
    simpa using hnodes'
  rw [hplant]
  exact ⟨rfl, _, hplanted.modify g, rfl⟩

/-- Some nodes are found by their ids, and their ids by their keys. -/
structure Mounts (mounts mounted : HashMap Nat Nat) (ns : List Node) : Prop where
  byId : Lists mounts (ns.map fun n => (n.id, n.key))
  byKey : Lists mounted (ns.map fun n => (n.key, n.id))

theorem Mounts.assignId {a : Arena} {before : List Node} (hm : Mounts a.mounts a.mounted before)
    {n : Node} (hkey : n.key ∉ before.map Node.key) (ids : ∀ m ∈ before, m.id < a.nextId) :
    Mounts (a.assignId n.key).mounts (a.assignId n.key).mounted
      (before ++ [{ n with id := a.nextId }]) := by
  have hid : a.nextId ∉ (before.map fun m => (m.id, m.key)).map Prod.fst := by
    rw [List.map_map]
    intro hmem
    obtain ⟨m, hmb, he⟩ := List.mem_map.mp hmem
    exact Nat.lt_irrefl _ (he ▸ ids m hmb)
  have hkey' : n.key ∉ (before.map fun m => (m.key, m.id)).map Prod.fst := by
    rw [List.map_map]
    exact hkey
  have hbyId : Lists a.mounts ((before.map fun m => (m.id, m.key)) ++ []) := by
    rw [List.append_nil]
    exact hm.byId
  have hbyKey : Lists a.mounted ((before.map fun m => (m.key, m.id)) ++ []) := by
    rw [List.append_nil]
    exact hm.byKey
  constructor
  · simpa [Arena.assignId] using hbyId.insert (by rwa [List.append_nil]) n.key
  · simpa [Arena.assignId] using hbyKey.insert (by rwa [List.append_nil]) a.nextId

theorem lt_of_mem_number {m : Nat} {f : Forest Node} {n : Node}
    (hn : n ∈ (f.number m).preorder) : n.id < m + 2 * f.size := by
  have hid := List.mem_map_of_mem (f := Node.id) hn
  rw [Forest.ids_number] at hid
  obtain ⟨i, hi, he⟩ := List.mem_map.mp hid
  have hlt := List.mem_range.mp hi
  omega

/-- A forest is mounted as a whole, in preorder, before the rest of the stack. -/
theorem exists_mountFrom {f : Forest Node} {a : Arena} {before : List Node} (stack : List Nat)
    (hin : f.IsIn a.nodes) (hm : Mounts a.mounts a.mounted before)
    (keys : ((before ++ f.preorder).map Node.key).Nodup) (ids : ∀ n ∈ before, n.id < a.nextId) :
    ∃ mounts mounted, Mounts mounts mounted (before ++ (f.number a.nextId).preorder) ∧
      a.mountFrom (f.tops.map Node.key ++ stack) =
        { a with nextId := a.nextId + 2 * f.size, mounts, mounted }.mountFrom stack := by
  induction f generalizing a before stack with
  | nil =>
    have hempty : before ++ ((Forest.nil : Forest Node).number a.nextId).preorder = before :=
      List.append_nil before
    exact ⟨a.mounts, a.mounted, by rwa [hempty], rfl⟩
  | cons n below rest ihb ihr =>
    obtain ⟨hfound, hbelow, hrest⟩ := Forest.isIn_cons.mp hin
    let first : List Node := before ++ [{ n with id := a.nextId }]
    have hkeys : ((first ++ below.preorder ++ rest.preorder).map Node.key).Nodup := by
      simpa [Forest.preorder, first] using keys
    -- first the node itself, then what is below it, then the trees after it
    have hnode : Mounts (a.assignId n.key).mounts (a.assignId n.key).mounted first := by
      refine hm.assignId ?_ ids
      rw [List.map_append, Forest.preorder, List.map_cons, List.nodup_middle] at keys
      exact fun hmem => (List.nodup_cons.mp keys).1 (List.mem_append_left _ hmem)
    have hfirst : ∀ m ∈ first, m.id < a.nextId + 2 := by
      intro m hmem
      rcases List.mem_append.mp hmem with hmb | hmb
      · exact Nat.lt_add_right 2 (ids m hmb)
      · rw [List.mem_singleton.mp hmb]
        exact Nat.lt_add_of_pos_right Nat.two_pos
    have hbelowKeys : ((first ++ below.preorder).map Node.key).Nodup :=
      hkeys.sublist (List.Sublist.map _ (List.sublist_append_left _ _))
    obtain ⟨mounts, mounted, hinner, hwalk⟩ := ihb (a := a.assignId n.key)
      (rest.tops.map Node.key ++ stack) hbelow hnode hbelowKeys hfirst
    have hsecond : ∀ m ∈ first ++ (below.number (a.nextId + 2)).preorder,
        m.id < a.nextId + 2 + 2 * below.size := by
      intro m hmem
      rcases List.mem_append.mp hmem with hmb | hmb
      · exact Nat.lt_add_right _ (hfirst m hmb)
      · exact lt_of_mem_number hmb
    have hrestKeys : ((first ++ (below.number (a.nextId + 2)).preorder ++
        rest.preorder).map Node.key).Nodup := by
      have hmap : (below.number (a.nextId + 2)).preorder.map Node.key =
          below.preorder.map Node.key := by
        rw [← Forest.preorder_map, Forest.map_key_number, Forest.preorder_map]
      rw [List.map_append, List.map_append, hmap, ← List.map_append, ← List.map_append]
      exact hkeys
    obtain ⟨mounts', mounted', houter, hwalk'⟩ := ihr
      (a := { a with nextId := a.nextId + 2 + 2 * below.size, mounts, mounted })
      stack hrest hinner hrestKeys hsecond
    have hlist : before ++ ((Forest.cons n below rest).number a.nextId).preorder =
        first ++ (below.number (a.nextId + 2)).preorder ++
          (rest.number (a.nextId + 2 + 2 * below.size)).preorder := by
      simp [Forest.number, Forest.preorder, first]
    have hsize : a.nextId + 2 * (Forest.cons n below rest).size =
        a.nextId + 2 + 2 * below.size + 2 * rest.size := by
      rw [Forest.size]
      omega
    refine ⟨mounts', mounted', ?_, ?_⟩
    · rw [hlist]
      exact houter
    · rw [Forest.tops, List.map_cons, List.cons_append, mountFrom, childrenOf_eq hfound,
        Node.children_slot, hwalk, hsize]
      exact hwalk'

theorem Nodes.derivationsOf?_eq {f : Forest Node} (h : f.IsIn nodes) :
    Nodes.derivationsOf? nodes (f.tops.map Node.key) = some f.derivations? := by
  induction f with
  | nil => exact Nodes.derivationsOf?.eq_1 nodes
  | cons n below rest ihb ihr =>
    obtain ⟨hfound, hbelow, hrest⟩ := Forest.isIn_cons.mp h
    rw [Forest.tops, List.map_cons, Nodes.derivationsOf?, hfound, Forest.derivations?]
    cases hb : n.body with
    | hole => simp [Node.slot, Node.payload, Node.subtree?, Node.attached?, hb]
    | gathering premises => simp [Node.slot, Node.payload, Node.subtree?, Node.attached?, hb]
    | ruled rule =>
      have hslot : (n.slot below.tops).subtree? = none ∧ (n.slot below.tops).rule? = some rule := by
        simp [Node.slot, Node.payload, Node.subtree?, Node.attached?, hb]
      simp only [hslot.1, hslot.2, Node.children_slot, ihb hbelow, ihr hrest]
      cases below.derivations? with
      | none => rfl
      | some premises => cases rest.derivations? <;> rfl
    | delivered proof =>
      have hslot : (n.slot below.tops).subtree? = some proof := by
        simp [Node.slot, Node.payload, Node.subtree?, hb]
      simp only [hslot, ihr hrest]
      cases rest.derivations? with
      | none => rfl
      | some others =>
        rw [Node.deliveredAs]
        by_cases hname : Text.isBlankText n.name = true <;> simp [Node.slot, Node.payload, hname]

theorem derivationOf?_eq {a : Arena} {t : Tree Node}
    (h : a.nodes[t.value.key]? = some (t.value.slot t.below.tops)) (hbelow : t.below.IsIn a.nodes) :
    a.derivationOf? t.value.key = some t.derivation? := by
  have hin : (Forest.cons t.value t.below .nil).IsIn a.nodes :=
    Forest.isIn_cons.mpr ⟨h, hbelow, fun _ he => by cases he⟩
  have htrees := Nodes.derivationsOf?_eq hin
  rw [Forest.tops, Forest.tops, List.map_cons, List.map_nil] at htrees
  rw [derivationOf?, htrees]
  rfl

/-- The way down meets the nodes of a forest, the last tree first, before the rest of the stack. -/
theorem descendants_eq {a : Arena} {f : Forest Node} (h : f.IsIn a.nodes) (stack : List Nat) :
    a.descendants ((f.tops.map Node.key).reverse ++ stack) =
      (a.descendants stack).map (f.fromLast.map Node.key ++ ·) := by
  induction f generalizing stack with
  | nil => cases hd : a.descendants stack <;> simp [Forest.tops, Forest.fromLast, hd]
  | cons n below rest ihb ihr =>
    obtain ⟨hfound, hbelow, hrest⟩ := Forest.isIn_cons.mp h
    have hstack : ((Forest.cons n below rest).tops.map Node.key).reverse ++ stack =
        (rest.tops.map Node.key).reverse ++ n.key :: stack := by
      simp [Forest.tops]
    have hnode : a.descendants (n.key :: stack) =
        (a.descendants stack).map (n.key :: below.fromLast.map Node.key ++ ·) := by
      rw [descendants, childrenOf_eq hfound, Node.children_slot, ihb hbelow]
      cases a.descendants stack <;> rfl
    rw [hstack, ihr hrest, hnode]
    cases a.descendants stack <;> simp [Forest.fromLast]

/-- The parents of the nodes of a chain are the next nodes of it, and the last node has none. -/
structure Climbs (a : Arena) (w : Walk) (key : Nat) (above : List Nat) : Prop where
  chain : List.IsChain (fun child parent => a.parentOf? w child = some parent) (key :: above)
  top : ∀ last, (key :: above).getLast? = some last → a.parentOf? w last = none

theorem Climbs.ancestors {a : Arena} {w : Walk} {key : Nat} {above : List Nat}
    (h : a.Climbs w key above) : a.ancestors w key = some above := by
  induction above generalizing key with
  | nil =>
    rw [Arena.ancestors, h.top key rfl]
  | cons parent above ih =>
    obtain ⟨hparent, hrest⟩ := List.isChain_cons_cons.mp h.chain
    have htop : ∀ last, (parent :: above).getLast? = some last → a.parentOf? w last = none := by
      intro last hlast
      exact h.top last (by rw [List.getLast?_cons_cons, hlast])
    rw [Arena.ancestors, hparent]
    simp only [ih ⟨hrest, htop⟩]
    rfl

theorem Climbs.notifyAncestors {a : Arena} {w : Walk} {key : Nat} {above : List Nat}
    (h : a.Climbs w key above) {proofs : Nat → Option Derivation}
    (hp : ∀ k ∈ key :: above, a.derivationOf? k = some (proofs k)) :
    a.notifyAncestors w key = some { a with
      events := a.events ++ (key :: above).map fun k =>
        Event.derivationChanged (a.mountId k) (proofs k).isSome } := by
  induction above generalizing key a with
  | nil =>
    rw [Arena.notifyAncestors, hp key List.mem_cons_self]
    have htop : (a.note (.derivationChanged (a.mountId key) (proofs key).isSome)).parentOf? w key =
        none := h.top key rfl
    simp only [Option.bind_eq_bind, Option.bind_some, htop]
    rfl
  | cons parent above ih =>
    obtain ⟨hparent, hrest⟩ := List.isChain_cons_cons.mp h.chain
    let noted := a.note (.derivationChanged (a.mountId key) (proofs key).isSome)
    have hnoted : noted.parentOf? w key = some parent := hparent
    have htop : ∀ last, (parent :: above).getLast? = some last → noted.parentOf? w last = none := by
      intro last hlast
      exact h.top last (by rw [List.getLast?_cons_cons, hlast])
    have hinner := ih (a := noted) ⟨hrest, htop⟩ fun k hk => hp k (List.mem_cons_of_mem _ hk)
    rw [Arena.notifyAncestors, hp key List.mem_cons_self]
    simp only [Option.bind_eq_bind, Option.bind_some]
    rw [hnoted]
    refine hinner.trans ?_
    simp [noted, note, mountId]

end Arena

end ProofDesk
