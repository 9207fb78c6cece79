import Mathlib.Data.List.Chain
import Mathlib.Data.List.Pairwise
import Mathlib.Logic.Relation
import ProofDesk.Proofs.Forest.Context

namespace ProofDesk

namespace Forest

variable {α β : Type}

def rows : Forest α → List (α × List α)
  | nil => []
  | cons a below rest => (a, below.tops) :: (below.rows ++ rest.rows)

def Covers (f : Forest α) (a b : α) : Prop :=
  ∃ bs, (a, bs) ∈ f.rows ∧ b ∈ bs

/-- Every value is below the values under it in the order of the numbers. -/
def Rising : Forest Nat → Prop
  | nil => True
  | cons a below rest => (∀ b ∈ below.preorder, a < b) ∧ below.Rising ∧ rest.Rising

@[simp] theorem map_fst_rows (f : Forest α) : f.rows.map Prod.fst = f.preorder := by
  induction f with
  | nil => rfl
  | cons a below rest ihb ihr => simp [rows, preorder, ihb, ihr]

theorem rows_map (h : α → β) (f : Forest α) :
    (f.map h).rows = f.rows.map fun r => (h r.1, r.2.map h) := by
  induction f with
  | nil => rfl
  | cons a below rest ihb ihr => simp [rows, map, ihb, ihr]

theorem tops_append_rows_perm (f : Forest α) :
    (f.tops ++ f.rows.flatMap Prod.snd).Perm f.preorder := by
  induction f with
  | nil => exact .nil
  | cons a below rest ihb ihr =>
    simp only [tops, rows, preorder, List.flatMap_cons, List.flatMap_append, List.cons_append]
    refine (List.Perm.trans ?_ (ihb.append ihr)).cons a
    rw [← List.append_assoc below.tops]
    exact List.perm_append_comm_assoc _ _ _

theorem covers_iff_of_map {h : α → β} {f : Forest α} {a b : β} :
    (f.map h).Covers a b ↔ ∃ x y, f.Covers x y ∧ h x = a ∧ h y = b := by
  simp only [Covers, rows_map, List.mem_map, Prod.mk.injEq, Prod.exists]
  constructor
  · rintro ⟨bs, ⟨x, ys, hm, hx, rfl⟩, hb⟩
    obtain ⟨y, hy, he⟩ := List.mem_map.mp hb
    exact ⟨x, y, ⟨ys, hm, hy⟩, hx, he⟩
  · rintro ⟨x, y, ⟨ys, hm, hy⟩, hx, he⟩
    exact ⟨ys.map h, ⟨x, ys, hm, hx, rfl⟩, List.mem_map.mpr ⟨y, hy, he⟩⟩

theorem mem_of_covers {f : Forest α} {a b : α} (h : f.Covers a b) :
    a ∈ f.preorder ∧ b ∈ f.preorder := by
  obtain ⟨bs, hr, hb⟩ := h
  have ha : a ∈ f.rows.map Prod.fst := List.mem_map_of_mem hr
  have hm : b ∈ f.rows.flatMap Prod.snd := List.mem_flatMap.mpr ⟨(a, bs), hr, hb⟩
  exact ⟨by simpa using ha, f.tops_append_rows_perm.subset (List.mem_append_right _ hm)⟩

theorem covers_cons {a x y : α} {below rest : Forest α} :
    (cons a below rest).Covers x y ↔
      (x = a ∧ y ∈ below.tops) ∨ below.Covers x y ∨ rest.Covers x y := by
  simp only [Covers, rows, List.mem_cons, List.mem_append, Prod.mk.injEq]
  constructor
  · rintro ⟨bs, ⟨rfl, rfl⟩ | hr | hr, hb⟩
    · exact Or.inl ⟨rfl, hb⟩
    · exact Or.inr (Or.inl ⟨bs, hr, hb⟩)
    · exact Or.inr (Or.inr ⟨bs, hr, hb⟩)
  · rintro (⟨rfl, hb⟩ | ⟨bs, hr, hb⟩ | ⟨bs, hr, hb⟩)
    · exact ⟨_, Or.inl ⟨rfl, rfl⟩, hb⟩
    · exact ⟨bs, Or.inr (Or.inl hr), hb⟩
    · exact ⟨bs, Or.inr (Or.inr hr), hb⟩

theorem exists_top_reaches {f : Forest α} {a : α} (h : a ∈ f.preorder) :
    ∃ r ∈ f.tops, Relation.ReflTransGen f.Covers r a := by
  induction f with
  | nil => simp [preorder] at h
  | cons b below rest ihb ihr =>
    rcases List.mem_cons.mp h with rfl | h
    · exact ⟨a, List.mem_cons_self, .refl⟩
    rcases List.mem_append.mp h with h | h
    · obtain ⟨r, hr, hreach⟩ := ihb h
      refine ⟨b, List.mem_cons_self, .head (covers_cons.mpr (Or.inl ⟨rfl, hr⟩)) ?_⟩
      exact Relation.ReflTransGen.mono (fun x y hxy => covers_cons.mpr (Or.inr (Or.inl hxy))) _ _ hreach
    · obtain ⟨r, hr, hreach⟩ := ihr h
      refine ⟨r, List.mem_cons_of_mem _ hr, ?_⟩
      exact Relation.ReflTransGen.mono (fun x y hxy => covers_cons.mpr (Or.inr (Or.inr hxy))) _ _ hreach

theorem Rising.lt_of_covers {f : Forest Nat} (h : f.Rising) {a b : Nat} (hab : f.Covers a b) :
    a < b := by
  induction f with
  | nil => obtain ⟨bs, hr, _⟩ := hab; simp [rows] at hr
  | cons c below rest ihb ihr =>
    rcases covers_cons.mp hab with ⟨rfl, hb⟩ | hab | hab
    · exact h.1 b (below.tops_subset_preorder hb)
    · exact ihb h.2.1 hab
    · exact ihr h.2.2 hab

/-- Links of a rising forest only go up, so they never come back. -/
theorem Rising.lt_of_transGen {f : Forest Nat} (h : f.Rising) {a b : Nat}
    (hab : Relation.TransGen f.Covers a b) : a < b := by
  induction hab with
  | single hs => exact h.lt_of_covers hs
  | tail _ hs ih => exact Nat.lt_trans ih (h.lt_of_covers hs)

theorem Rising.append {f g : Forest Nat} (hf : f.Rising) (hg : g.Rising) :
    (f.append g).Rising := by
  induction f with
  | nil => exact hg
  | cons a below rest _ ih => exact ⟨hf.1, hf.2.1, ih hf.2.2⟩

theorem Rising.eraseTops {f : Forest Nat} (h : f.Rising) (p : Nat → Bool) :
    (f.eraseTops p).Rising := by
  induction f with
  | nil => exact h
  | cons a below rest _ ih =>
    rw [Forest.eraseTops]
    split
    next => exact ih h.2.2
    next => exact ⟨h.1, h.2.1, ih h.2.2⟩

theorem rising_ofValues (xs : List Nat) : (ofValues xs).Rising := by
  induction xs with
  | nil => trivial
  | cons x xs ih => exact ⟨by simp [preorder], trivial, ih⟩

/-- What is put below a value has to rise and to be greater than that value and those above. -/
theorem Rising.fill {e : Context Nat} {k : Nat} {old new : Forest Nat}
    (h : (e.fill ⟨k, old⟩).Rising) (hn : new.Rising)
    (hlt : ∀ b ∈ new.preorder, k < b ∧ ∀ a ∈ e.above, a < b) : (e.fill ⟨k, new⟩).Rising := by
  induction e with
  | here rest => exact ⟨fun b hb => (hlt b hb).1, hn, h.2.2⟩
  | under a below rest ih =>
    refine ⟨?_, ih h.2.1 fun b hb => ⟨(hlt b hb).1, fun x hx => (hlt b hb).2 x ?_⟩, h.2.2⟩
    · intro b hb
      have hold := h.1 b
      simp only [Context.preorder_fill, List.mem_append, List.mem_cons] at hb hold
      rcases hb with hb | hb | hb | hb
      · exact hold (Or.inl hb)
      · exact hold (Or.inr (Or.inl hb))
      · exact (hlt b hb).2 a (by simp [Context.above])
      · exact hold (Or.inr (Or.inr (Or.inr hb)))
    · exact List.mem_append_left _ hx
  | after a below rest ih => exact ⟨h.1, h.2.1, ih h.2.2 hlt⟩

section Distinct

variable {f : Forest α} (distinct : f.preorder.Nodup)

include distinct

theorem not_covers_of_mem_tops {a b : α} (hb : b ∈ f.tops) : ¬f.Covers a b := by
  rintro ⟨bs, hr, hm⟩
  have hn := f.tops_append_rows_perm.nodup_iff.mpr distinct
  exact List.disjoint_of_nodup_append hn hb (List.mem_flatMap.mpr ⟨(a, bs), hr, hm⟩)

theorem row_unique {a : α} {bs bs' : List α} (h : (a, bs) ∈ f.rows) (h' : (a, bs') ∈ f.rows) :
    bs = bs' := by
  have hn : (f.rows.map Prod.fst).Nodup := by simpa using distinct
  exact congrArg Prod.snd (List.inj_on_of_nodup_map hn h h' rfl)

theorem covers_unique {a a' b : α} (h : f.Covers a b) (h' : f.Covers a' b) : a = a' := by
  obtain ⟨bs, hr, hb⟩ := h
  obtain ⟨bs', hr', hb'⟩ := h'
  have hn := (f.tops_append_rows_perm.nodup_iff.mpr distinct).of_append_right
  have hs : Std.Symm (Function.onFun List.Disjoint (Prod.snd : α × List α → List α)) :=
    ⟨fun _ _ hd => List.disjoint_symm hd⟩
  by_contra hne
  have hd := (List.nodup_flatMap.mp hn).2.forall hr hr' (fun he => hne (congrArg Prod.fst he))
  exact hd hb hb'

end Distinct

namespace Context

theorem row_mem_fill (e : Context α) (t : Tree α) : (t.value, t.below.tops) ∈ (e.fill t).rows := by
  induction e with
  | here rest => exact List.mem_cons_self
  | under a below rest ih => exact List.mem_cons_of_mem _ (List.mem_append_left _ ih)
  | after a below rest ih => exact List.mem_cons_of_mem _ (List.mem_append_right _ ih)

theorem mem_tops_fill {e : Context α} (h : e.above = []) (t : Tree α) :
    t.value ∈ (e.fill t).tops := by
  induction e with
  | here rest => exact List.mem_cons_self
  | under a below rest _ => simp [above] at h
  | after a below rest ih => exact List.mem_cons_of_mem _ (ih h)

/-- The values from the open place up are linked, and the last one is a top. -/
theorem isChain_above (e : Context α) (t : Tree α) :
    List.IsChain (fun b a => (e.fill t).Covers a b) (t.value :: e.above) ∧
      ∃ r ∈ (e.fill t).tops, (t.value :: e.above).getLast? = some r := by
  induction e with
  | here rest => exact ⟨.singleton _, t.value, List.mem_cons_self, rfl⟩
  | under a below rest ih =>
    obtain ⟨hc, r, hr, hl⟩ := ih
    rw [fill, above, ← List.cons_append]
    refine ⟨List.IsChain.append ?_ (.singleton _) ?_, a, List.mem_cons_self, List.getLast?_concat⟩
    · exact hc.imp fun b c h => covers_cons.mpr (Or.inr (Or.inl h))
    · intro x hx y hy
      have hxr : x = r := Option.some.inj (hx.symm.trans hl)
      have hya : y = a := by simpa [eq_comm] using hy
      rw [hxr, hya]
      exact covers_cons.mpr (Or.inl ⟨rfl, hr⟩)
  | after a below rest ih =>
    obtain ⟨hc, r, hr, hl⟩ := ih
    exact ⟨hc.imp fun b c h => covers_cons.mpr (Or.inr (Or.inr h)), r,
      List.mem_cons_of_mem _ hr, hl⟩

/-- In a forest with distinct values the nearest value above is the only one that is linked. -/
theorem head?_above_eq_some_iff {e : Context α} {t : Tree α}
    (distinct : (e.fill t).preorder.Nodup) {a : α} :
    e.above.head? = some a ↔ (e.fill t).Covers a t.value := by
  obtain ⟨hc, -⟩ := e.isChain_above t
  constructor
  · intro h
    obtain ⟨as, has⟩ := List.head?_eq_some_iff.mp h
    rw [has] at hc
    exact (List.isChain_cons_cons.mp hc).1
  · intro h
    cases ha : e.above with
    | nil => exact absurd h (not_covers_of_mem_tops distinct (mem_tops_fill ha t))
    | cons b bs =>
      rw [ha] at hc
      simp [covers_unique distinct h (List.isChain_cons_cons.mp hc).1]

end Context

end Forest

end ProofDesk
