import ProofDesk.Proofs.Canvas.Sound

namespace ProofDesk

/-- The first key, in the order of the entries, that has the given key among its children. -/
def parentIn (entries : List (Nat × List Nat)) (key : Nat) : Option Nat :=
  (entries.find? fun e => e.2.contains key).map Prod.fst

namespace Canvas

def roots (c : Canvas) : List Nat :=
  c.forest.tops.map Node.key

/-- Every live key with the keys of its children. -/
def entries (c : Canvas) : List (Nat × List Nat) :=
  c.forest.rows.map fun r => (r.1.key, r.2.map Node.key)

/-- The second key is among the children of the first. -/
def Links (c : Canvas) (parent child : Nat) : Prop :=
  ∃ children, (parent, children) ∈ c.entries ∧ child ∈ children

variable {c : Canvas}

theorem roots_eq (c : Canvas) : c.roots = c.shape.tops := by
  simp [roots, shape]

theorem entries_eq (c : Canvas) : c.entries = c.shape.rows := by
  rw [entries, shape, Forest.rows_map]

theorem keys_entries (c : Canvas) : c.entries.map Prod.fst = c.shape.preorder := by
  rw [entries_eq, Forest.map_fst_rows]

theorem links_eq (c : Canvas) : c.Links = c.shape.Covers := by
  funext parent child
  rw [Links, entries_eq, Forest.Covers]

/-- Where a key has one parent, every walk finds it. -/
theorem parentIn_eq_some_iff {walk entries : List (Nat × List Nat)} (hw : walk.Perm entries)
    {k p : Nat} (unique : ∀ q q' qs qs', (q, qs) ∈ entries → k ∈ qs → (q', qs') ∈ entries →
      k ∈ qs' → q = q') :
    parentIn walk k = some p ↔ ∃ ps, (p, ps) ∈ entries ∧ k ∈ ps := by
  have found : ∀ e, (walk.find? fun e => e.2.contains k) = some e → e ∈ entries ∧ k ∈ e.2 :=
    fun e he => ⟨hw.subset (List.mem_of_find?_eq_some he), by simpa using List.find?_some he⟩
  constructor
  · intro h
    obtain ⟨⟨q, qs⟩, he, rfl⟩ := Option.map_eq_some_iff.mp h
    exact ⟨qs, found _ he⟩
  · rintro ⟨ps, hm, hk⟩
    cases hf : walk.find? fun e => e.2.contains k with
    | none =>
      have hn := List.find?_eq_none.mp hf (p, ps) (hw.symm.subset hm)
      simp [hk] at hn
    | some e =>
      obtain ⟨he, hke⟩ := found e hf
      rw [parentIn, hf, Option.map_some, unique e.1 p e.2 ps he hke hm hk]

namespace Sound

variable (hs : c.Sound)

include hs

theorem distinct_roots : c.roots.Nodup := by
  rw [roots_eq]
  exact (c.shape.tops_append_rows_perm.nodup_iff.mpr hs.distinct).of_append_left

theorem links_unique {p q k : Nat} (hp : c.Links p k) (hq : c.Links q k) : p = q := by
  rw [links_eq] at hp hq
  exact Forest.covers_unique hs.distinct hp hq

theorem parentIn_iff {walk : List (Nat × List Nat)} (hw : walk.Perm c.entries) {k p : Nat} :
    parentIn walk k = some p ↔ c.Links p k :=
  parentIn_eq_some_iff hw fun _ _ qs qs' hq hk hq' hk' =>
    hs.links_unique ⟨qs, hq, hk⟩ ⟨qs', hq', hk'⟩

theorem parentId?_eq_some_iff {j : Nat} {s t : Tree Node} {y : Target}
    (hsm : s.value ∈ c.forest.preorder) (hj : c.resolve? j = some (t, y)) :
    c.parentId? j = some s.value.id ↔ c.forest.Covers s.value t.value := by
  obtain ⟨p, hp⟩ := find?_of_resolve? hj
  obtain ⟨e, he, hl⟩ := hs.exists_fill hp
  have hd := hs.distinct_nodes
  rw [he] at hd ⊢
  rw [← Forest.Context.head?_above_eq_some_iff hd]
  have hpar : c.parentId? j = e.above.head?.map Node.id := by
    simp only [parentId?, hj, hl, Option.bind_eq_bind, Option.bind_some]
    cases e.above <;> rfl
  rw [hpar]
  constructor
  · intro h
    obtain ⟨m, hm, hid⟩ := Option.map_eq_some_iff.mp h
    have hmf : m ∈ c.forest.preorder := by
      rw [he, e.preorder_fill]
      exact List.mem_append_left _ (Forest.Context.mem_left_of_mem_above (List.mem_of_mem_head? hm))
    rwa [← hs.eq_of_id_eq hmf hsm hid]
  · intro h
    rw [h, Option.map_some]

theorem mem_childIds_iff {i : Nat} {s t : Tree Node} {x : Target}
    (hi : c.resolve? i = some (s, x)) (ht : t.value ∈ c.forest.preorder) :
    t.value.id ∈ c.childIds i ↔ c.forest.Covers s.value t.value := by
  obtain ⟨p, hp⟩ := find?_of_resolve? hi
  obtain ⟨e, he, -, -⟩ := Forest.exists_fill_of_find? hp
  have hrow : (s.value, s.below.tops) ∈ c.forest.rows := he ▸ e.row_mem_fill s
  have hch : c.childIds i = s.below.tops.map Node.id := by rw [childIds, hi]
  rw [hch]
  constructor
  · intro h
    obtain ⟨m, hm, hid⟩ := List.mem_map.mp h
    have hc : c.forest.Covers s.value m := ⟨_, hrow, hm⟩
    rwa [← hs.eq_of_id_eq (Forest.mem_of_covers hc).2 ht hid]
  · rintro ⟨bs, hbs, hm⟩
    rw [Forest.row_unique hs.distinct_nodes hbs hrow] at hm
    exact List.mem_map_of_mem hm

theorem upward {walk : List (Nat × List Nat)} (hw : walk.Perm c.entries) {k : Nat}
    (hk : k ∈ c.entries.map Prod.fst) :
    ∃ above, (c.lineage k).map Node.key = k :: above ∧
      List.IsChain (fun child parent => parentIn walk child = some parent) (k :: above) ∧
      ∃ r ∈ c.roots, (k :: above).getLast? = some r ∧ parentIn walk r = none := by
  rw [keys_entries, shape, Forest.preorder_map] at hk
  obtain ⟨n, hn, rfl⟩ := List.mem_map.mp hk
  obtain ⟨t, ht⟩ := Forest.exists_find?_of_mem (p := fun m => m.key == n.key) hn (by simp)
  have htk : t.value.key = n.key := (mem_of_tree? ht).2
  obtain ⟨e, he, hl⟩ := hs.exists_fill ht
  obtain ⟨hc, r, hr, hlast⟩ := e.isChain_above t
  rw [← he] at hc hr
  rw [htk] at hl
  have hkeys : (t.value :: e.above).map Node.key = n.key :: e.above.map Node.key := by
    rw [List.map_cons, htk]
  have hroot : r.key ∈ c.roots := List.mem_map_of_mem hr
  refine ⟨e.above.map Node.key, by rw [hl, hkeys], ?_, r.key, hroot, ?_, ?_⟩
  · rw [← hkeys, List.isChain_map]
    refine hc.imp fun a b hab => (hs.parentIn_iff hw).mpr ?_
    rw [links_eq, shape]
    exact Forest.covers_iff_of_map.mpr ⟨b, a, hab, rfl, rfl⟩
  · rw [← hkeys, List.getLast?_map, hlast, Option.map_some]
  · cases hp : parentIn walk r.key with
    | none => rfl
    | some p =>
      have hlink := (hs.parentIn_iff hw).mp hp
      rw [links_eq] at hlink
      rw [roots_eq] at hroot
      exact absurd hlink (Forest.not_covers_of_mem_tops hs.distinct hroot)

omit hs in
theorem occurrences_perm (c : Canvas) :
    (c.roots ++ c.entries.flatMap Prod.snd).Perm (c.entries.map Prod.fst) := by
  rw [roots_eq, keys_entries, entries_eq]
  exact c.shape.tops_append_rows_perm

theorem acyclic (k : Nat) : ¬Relation.TransGen c.Links k k := by
  intro hk
  rw [links_eq] at hk
  exact Nat.lt_irrefl k (hs.rising.lt_of_transGen hk)

end Sound

end Canvas

end ProofDesk
