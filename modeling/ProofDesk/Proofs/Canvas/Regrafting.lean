import ProofDesk.Proofs.Canvas.Slots

namespace ProofDesk

namespace Payload

def hole (free : Bool) (conclusion : Text) : Payload :=
  ⟨conclusion, [], none, none, true, free, none⟩

/-- A node that is proved down from premises; blank ones do not count. -/
def gathering (free : Bool) (premises : List Text) : Payload :=
  { hole free [] with gathered? := some (premises.filter fun p => !Text.isBlankText p) }

def leaf (p : Payload) : Forest Payload :=
  .cons p .nil .nil

def ruled (rule : Text) (premises : List Text) (t : Tree Payload) : Tree Payload :=
  ⟨{ t.value with rule? := some rule, subtree? := none, expanded := true },
    .ofValues (premises.map (hole t.value.free))⟩

/-- A node becomes one that a rule justifies from the premises that it gathered. -/
def promoted (rule conclusion : Text) (t : Tree Payload) : Tree Payload :=
  ⟨{ t.value with conclusion, rule? := some rule, subtree? := none, gathered? := none },
    .ofValues ((t.value.gathered?.getD []).map (hole t.value.free))⟩

def cleared (t : Tree Payload) : Tree Payload :=
  ⟨{ t.value with rule? := none, subtree? := none }, .nil⟩

end Payload

namespace Canvas

/-- Whatever is not at the path or below it is in the second canvas as it is in the first: nodes
with their children, and roots in their order. -/
structure Spares (c c' : Canvas) (path : List Nat) : Prop where
  slots : ∀ e ∈ c.forest.slots,
    (∀ key, c.IsAt path key → ¬Relation.ReflTransGen c.Links key e.1) → e ∈ c'.forest.slots
  roots : ∀ keys : List Nat, keys.Sublist c.roots → (∀ key ∈ keys, ¬c.IsAt path key) →
    keys.Sublist c'.roots

end Canvas

namespace Canvas

variable {c c' : Canvas} {m : Nat}

theorem roots_eq_of_number {f : Forest Node} (h : c.forest = f.number m) :
    c.roots = f.tops.map Node.key := by
  have hmap := congrArg Forest.tops (Forest.map_key_number m f)
  rw [Forest.tops_map, Forest.tops_map] at hmap
  rw [roots, h, hmap]

namespace Sound

variable (hs : c.Sound)

include hs

/-- A change of the tree of one key is a change at one path, and spares the rest. -/
theorem regrafted {key : Nat} {t : Tree Node} (ht : c.tree? key = some t)
    {k : Tree Node → Tree Node} {g : Tree Payload → Tree Payload}
    (hkey : (k t).value.key = t.value.key)
    (hg : g ⟨t.value.payload, t.below.map Node.payload⟩ =
      ⟨(k t).value.payload, (k t).below.map Node.payload⟩)
    (hf : c'.forest = ((c.change key k).forest).number m) :
    ∃ path, c.IsAt path key ∧
      c'.forest.map Node.payload = (c.forest.map Node.payload).changeAt g path ∧
      c.Spares c' path := by
  obtain ⟨-, htk⟩ := mem_of_tree? ht
  obtain ⟨path, hpath, hchange⟩ := Forest.exists_path_of_distinct hs.distinct_keys ht
  have hroots := roots_eq_of_number hf
  rw [change, hchange] at hf hroots
  refine ⟨path, ⟨t, hpath, htk⟩, ?_, ?_⟩
  · rw [hf, Forest.map_number (fun _ _ => rfl), Forest.map_changeAt hpath hg]
  · obtain ⟨e, he, rfl⟩ := Forest.exists_fill_of_at? hpath
    rw [he, e.changeAt_fill] at hf hroots
    refine ⟨fun entry hentry hout => ?_, fun keys hkeys _ => ?_⟩
    · obtain ⟨r, hr, rfl⟩ := List.mem_map.mp hentry
      have hr' := he ▸ hr
      rcases e.exists_row_fill hkey hr' with hin | ⟨r', hr', hv, hb⟩
      · exact absurd (reaches_of_row he hin) (hout _ ⟨t, hpath, rfl⟩)
      · rw [hf, Forest.slots_number]
        refine List.mem_map.mpr ⟨r', hr', ?_⟩
        rw [Node.slot, Node.slot, hv, hb]
    · rw [hroots, e.map_tops_fill hkey, ← he]
      exact hkeys

/-- A removal of the root of one key is a removal at one position, and spares the rest. -/
theorem pruned {key : Nat} (hk : key ∈ c.forest.tops.map Node.key)
    (hf : c'.forest = (c.forest.eraseTops fun n => n.key == key).number m) :
    ∃ i, c.IsAt [i] key ∧
      c'.forest.map Node.payload = (c.forest.map Node.payload).eraseAt i ∧ c.Spares c' [i] := by
  obtain ⟨i, t, ht, htk, herase⟩ := Forest.exists_position_of_distinct hs.distinct_roots hk
  have hroots := roots_eq_of_number hf
  refine ⟨i, ⟨t, ht, htk⟩, ?_, ?_⟩
  · rw [hf, Forest.map_number (fun _ _ => rfl), herase, Forest.map_eraseAt]
  · refine ⟨fun entry hentry hout => ?_, fun keys hkeys hout => ?_⟩
    · obtain ⟨r, hr, rfl⟩ := List.mem_map.mp hentry
      obtain ⟨e, he, -⟩ := Forest.exists_fill_of_at? ht
      rcases Forest.mem_rows_eraseAt ht hr with hin | hr'
      · exact absurd (reaches_of_row he hin) (hout _ ⟨t, ht, rfl⟩)
      · rw [hf, Forest.slots_number, herase]
        exact List.mem_map_of_mem hr'
    · have hne : ∀ k ∈ keys, (!(k == key)) = true := by
        intro k hkm
        have hnot : k ≠ key := fun he => hout k hkm ⟨t, ht, htk.trans he.symm⟩
        simpa using hnot
      have hroots' : c'.roots = c.roots.filter fun k => !(k == key) := by
        rw [hroots, Forest.tops_eraseTops, roots, List.filter_map]
        rfl
      rw [hroots', ← List.filter_eq_self.mpr hne]
      exact hkeys.filter _

end Sound

theorem planted (c : Canvas) (conclusion : Text) (free : Bool) (body : Body) {p : Payload}
    (hp : ∀ n : Node, n = ⟨c.nextKey, n.id, conclusion, [], free, true, body⟩ → n.payload = p) :
    (c.addRoot conclusion free body).2.forest.map Node.payload =
        (c.forest.map Node.payload).append p.leaf ∧
      c.Spares (c.addRoot conclusion free body).2 [] := by
  have hf : (c.addRoot conclusion free body).2.forest = (c.forest.append
      (.cons ⟨c.nextKey, 0, conclusion, [], free, true, body⟩ .nil .nil)).number c.nextId := rfl
  have hroots := roots_eq_of_number hf
  refine ⟨?_, fun entry hentry _ => ?_, fun keys hkeys _ => ?_⟩
  · rw [hf, Forest.map_number (fun _ _ => rfl), Forest.map_append, Payload.leaf, Forest.map,
      hp _ rfl]
    rfl
  · rw [hf, Forest.slots_number, Forest.slots_append]
    exact List.mem_append_left _ hentry
  · rw [hroots, Forest.tops_append, List.map_append]
    exact hkeys.trans (List.sublist_append_left _ _)

theorem map_payload_holes (c : Canvas) (free : Bool) (premises : List Text) :
    (c.holes free premises).map Node.payload =
      .ofValues (premises.map (Payload.hole free)) := by
  rw [holes, Forest.map_ofValues, List.map_map]
  refine congrArg Forest.ofValues (List.ext_getElem (by simp) fun i hi hj => ?_)
  simp [Node.payload, Node.attached?, Node.subtree?, Node.gathered?, Payload.hole]

namespace Sound

variable (hs : c.Sound)

include hs

theorem regrafted_attachRule {q : RuleRequest} {premises : List Text}
    (h : (c.attachRule q premises).answer = .ok ()) :
    ∃ path, c.IsAt path q.key ∧
      (c.attachRule q premises).canvas.forest.map Node.payload =
        (c.forest.map Node.payload).changeAt (Payload.ruled q.rule premises) path ∧
      c.Spares (c.attachRule q premises).canvas path := by
  rcases c.attachRule_cases q premises with hr | ⟨n, c', children, hn, htop, -, hc, -, hr⟩
  · rw [hr] at h
    cases h
  · obtain ⟨t, ht, rfl⟩ := Option.map_eq_some_iff.mp hn
    have hg : Payload.ruled q.rule premises ⟨t.value.payload, t.below.map Node.payload⟩ =
        ⟨Node.payload { t.value with body := .ruled q.rule, expanded := true },
          (c.holes t.value.free premises).map Node.payload⟩ := by
      rw [map_payload_holes, t.value.payload_ruled q.rule t.value.conclusion true,
        Payload.ruled, Node.payload, Node.gathered?_eq_none htop]
    rw [hr]
    exact hs.regrafted ht (k := fun t' => (⟨{ t'.value with
      body := .ruled q.rule, expanded := true }, c.holes t.value.free premises⟩)) rfl hg
      (by rw [hc]; rfl)

theorem regrafted_promote {q : TopDownRequest} {conclusion : Text}
    (h : (c.promote q conclusion).answer = .ok ()) :
    ∃ path, c.IsAt path q.key ∧
      (c.promote q conclusion).canvas.forest.map Node.payload =
        (c.forest.map Node.payload).changeAt (Payload.promoted q.rule conclusion) path ∧
      c.Spares (c.promote q conclusion).canvas path := by
  rcases c.promote_cases q conclusion with hr | ⟨n, c', hn, hbody, hc, hr⟩
  · rw [hr] at h
    cases h
  · obtain ⟨t, ht, rfl⟩ := Option.map_eq_some_iff.mp hn
    have hgathered : t.value.gathered? = some q.premises := by rw [Node.gathered?, hbody]
    have hg : Payload.promoted q.rule conclusion ⟨t.value.payload, t.below.map Node.payload⟩ =
        ⟨Node.payload { t.value with conclusion, body := .ruled q.rule },
          (c.holes t.value.free q.premises).map Node.payload⟩ := by
      rw [map_payload_holes, t.value.payload_ruled q.rule conclusion t.value.expanded,
        Payload.promoted, Node.payload, hgathered, Option.getD_some]
    rw [hr]
    exact hs.regrafted ht (k := fun t' => (⟨{ t'.value with
      conclusion, body := .ruled q.rule }, c.holes t.value.free q.premises⟩)) rfl hg
      (by rw [hc]; rfl)

theorem regrafted_deleteRule {id : Nat} {t : Tree Node} {target : Target}
    (ht : c.resolve? id = some (t, target)) (hp : t.value.progress ≠ .empty) :
    ∃ path, c.IsAt path t.value.key ∧
      (c.deleteRule id).canvas.forest.map Node.payload =
        (c.forest.map Node.payload).changeAt Payload.cleared path ∧
      c.Spares (c.deleteRule id).canvas path := by
  obtain ⟨c', hc, hr⟩ := deleteRule_of_progress ht hp
  have hg : Payload.cleared ⟨t.value.payload, t.below.map Node.payload⟩ =
      ⟨Node.payload { t.value with body := .hole }, (c.holes false []).map Node.payload⟩ := by
    rw [map_payload_holes, Node.payload_hole (Node.isTopDown_of_progress hp)]
    rfl
  rw [hr]
  exact hs.regrafted (hs.tree?_of_resolve? ht) (k := fun t' => (⟨{ t'.value with body := .hole },
    c.holes false []⟩)) rfl hg (by rw [hc]; rfl)

theorem pruned_removeRoot {id : Nat} (h : (c.removeRoot id).answer = .ok ()) :
    ∃ t target i, c.resolve? id = some (t, target) ∧ c.IsAt [i] t.value.key ∧
      (c.removeRoot id).canvas.forest.map Node.payload =
        (c.forest.map Node.payload).eraseAt i ∧
      c.Spares (c.removeRoot id).canvas [i] := by
  rcases c.removeRoot_cases id with ⟨cause, -, hr⟩ | ⟨t, target, ht, htop, hr⟩
  · rw [hr] at h
    cases h
  · rw [hr]
    have hf : ({ c with forest := c.forest.eraseTops fun n => n.key == t.value.key }.renumber.note
        (.rootRemoved t.value.conclusion)).forest =
        (c.forest.eraseTops fun n => n.key == t.value.key).number c.nextId := rfl
    obtain ⟨i, hi⟩ := hs.pruned htop hf
    exact ⟨t, target, i, ht, hi⟩

end Sound

end Canvas

end ProofDesk
