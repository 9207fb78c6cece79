import Mathlib.Data.List.Nodup
import ProofDesk.Arena.Edit

namespace ProofDesk

open Std (HashMap)

/-- The entries of a map, in some order. -/
def Lists {β : Type} (m : HashMap Nat β) (entries : List (Nat × β)) : Prop :=
  m.toList.Perm entries

section Generic

variable {β : Type} {m : HashMap Nat β} {entries l r : List (Nat × β)} {key : Nat} {b : β}

theorem Lists.distinct (h : Lists m entries) : (entries.map Prod.fst).Nodup := by
  have hkeys : (m.toList.map Prod.fst).Nodup := by
    rw [HashMap.map_fst_toList_eq_keys]
    exact HashMap.nodup_keys
  exact (h.map Prod.fst).nodup_iff.mp hkeys

theorem Lists.getElem?_iff (h : Lists m entries) : m[key]? = some b ↔ (key, b) ∈ entries := by
  rw [← HashMap.mem_toList_iff_getElem?_eq_some]
  exact h.mem_iff

theorem Lists.mem_iff (h : Lists m entries) : key ∈ m ↔ key ∈ entries.map Prod.fst := by
  rw [← HashMap.mem_keys, ← HashMap.map_fst_toList_eq_keys]
  exact (h.map Prod.fst).mem_iff

theorem Lists.getElem?_eq_none (h : Lists m entries) (hk : key ∉ entries.map Prod.fst) :
    m[key]? = none := by
  cases hb : m[key]? with
  | none => rfl
  | some b => exact absurd (List.mem_map_of_mem (h.getElem?_iff.mp hb)) hk

/-- Entries with distinct keys that are found as they stand are all entries. -/
theorem lists_of (distinct : (entries.map Prod.fst).Nodup)
    (h : ∀ k b, m[k]? = some b ↔ (k, b) ∈ entries) : Lists m entries := by
  have hkeys : (m.toList.map Prod.fst).Nodup := by
    rw [HashMap.map_fst_toList_eq_keys]
    exact HashMap.nodup_keys
  refine (List.perm_ext_iff_of_nodup hkeys.of_map distinct.of_map).mpr fun e => ?_
  rw [← h e.1 e.2]
  exact HashMap.mem_toList_iff_getElem?_eq_some

theorem lists_empty : Lists ({} : HashMap Nat β) [] :=
  lists_of .nil fun k b => by simp

/-- In a list with distinct keys an entry is the one in the middle or has another key. -/
theorem mem_middle_iff (distinct : ((l ++ (key, b) :: r).map Prod.fst).Nodup) {k : Nat} {x : β} :
    (k, x) ∈ l ++ (key, b) :: r ↔ if key = k then b = x else (k, x) ∈ l ++ r := by
  have hout : key ∉ (l ++ r).map Prod.fst := by
    rw [List.map_append, List.map_cons, List.nodup_middle] at distinct
    rw [List.map_append]
    exact (List.nodup_cons.mp distinct).1
  split
  next hk =>
    subst hk
    constructor
    · intro hm
      rcases List.mem_append.mp hm with hl | hr
      · exact absurd (List.mem_map_of_mem (List.mem_append_left r hl)) hout
      · rcases List.mem_cons.mp hr with he | hr
        · exact ((Prod.mk.inj he).2).symm
        · exact absurd (List.mem_map_of_mem (List.mem_append_right l hr)) hout
    · rintro rfl
      exact List.mem_append_right l List.mem_cons_self
  next hk =>
    have hne : ¬(k = key ∧ x = b) := fun h => hk h.1.symm
    simp [hne]

theorem Lists.modify (h : Lists m (l ++ (key, b) :: r)) (f : β → β) :
    Lists (m.modify key f) (l ++ (key, f b) :: r) := by
  have hd := h.distinct
  have hd' : ((l ++ (key, f b) :: r).map Prod.fst).Nodup := by simpa using hd
  refine lists_of hd' fun k x => ?_
  rw [mem_middle_iff hd', HashMap.getElem?_modify]
  have hfound : m[key]? = some b := h.getElem?_iff.mpr (List.mem_append_right l List.mem_cons_self)
  by_cases hk : key = k
  · simp [hk ▸ hfound, hk]
  · simp only [beq_iff_eq, hk, if_false]
    rw [h.getElem?_iff, mem_middle_iff hd, if_neg hk]

theorem Lists.erase (h : Lists m (l ++ (key, b) :: r)) : Lists (m.erase key) (l ++ r) := by
  have hd := h.distinct
  have hd' : ((l ++ r).map Prod.fst).Nodup := by
    refine hd.sublist (List.Sublist.map _ ?_)
    exact (List.sublist_cons_self _ _).append_left l
  have hout : key ∉ (l ++ r).map Prod.fst := by
    rw [List.map_append, List.map_cons, List.nodup_middle] at hd
    rw [List.map_append]
    exact (List.nodup_cons.mp hd).1
  refine lists_of hd' fun k x => ?_
  rw [HashMap.getElem?_erase]
  by_cases hk : key = k
  · subst hk
    simp only [beq_self_eq_true, if_true]
    exact ⟨nofun, fun hm => absurd (List.mem_map_of_mem hm) hout⟩
  · simp only [beq_iff_eq, hk, if_false]
    rw [h.getElem?_iff, mem_middle_iff hd, if_neg hk]

theorem Lists.insert (h : Lists m (l ++ r)) (hk : key ∉ (l ++ r).map Prod.fst) (b : β) :
    Lists (m.insert key b) (l ++ (key, b) :: r) := by
  have hd : ((l ++ (key, b) :: r).map Prod.fst).Nodup := by
    rw [List.map_append] at hk
    rw [List.map_append, List.map_cons, List.nodup_middle]
    exact List.nodup_cons.mpr ⟨hk, by simpa using h.distinct⟩
  refine lists_of hd fun k x => ?_
  rw [mem_middle_iff hd, HashMap.getElem?_insert]
  by_cases he : key = k
  · simp [he]
  · simp only [beq_iff_eq, he, if_false]
    exact h.getElem?_iff

end Generic

end ProofDesk
