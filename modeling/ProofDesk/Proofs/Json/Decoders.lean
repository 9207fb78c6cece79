import Mathlib.Data.List.Forall2
import ProofDesk.Json.Decoder

namespace ProofDesk

open RecordFields (open?)

variable {α : Type} {d e : Decoder α} {a missing : α} {levels : Nat} {j : Json}

namespace Decoder

theorem mapM_eq_some_iff {f : Json → Option α} {items : List Json} {as : List α} :
    items.mapM f = some as ↔ List.Forall₂ (fun x a => f x = some a) items as := by
  induction items generalizing as with
  | nil => simp [eq_comm]
  | cons x items ih =>
    cases as with
    | nil => simp [Option.bind_eq_some_iff]
    | cons a as => simp [Option.bind_eq_some_iff, ih]

theorem list_eq_some_iff {as : List α} : d.list levels j = some as ↔
    ∃ level items, levels = level + 1 ∧ j = .array items ∧
      List.Forall₂ (fun x a => d level x = some a) items as := by
  cases levels with
  | zero => simp [Decoder.list]
  | succ level =>
    cases j with
    | array items => simp [Decoder.list, mapM_eq_some_iff]
    | _ => simp [Decoder.list]

theorem exists_of_mem_list {as : List α} (h : d.list levels j = some as) (ha : a ∈ as) :
    ∃ level x, levels = level + 1 ∧ d level x = some a := by
  obtain ⟨level, items, rfl, -, hitems⟩ := list_eq_some_iff.mp h
  clear h
  induction hitems with
  | nil => cases ha
  | cons hx _ ih =>
    rcases List.mem_cons.mp ha with rfl | ha
    · exact ⟨level, _, rfl, hx⟩
    · exact ih ha

theorem optional_eq_some_iff {o : Option α} : d.optional levels j = some o ↔
    (j = .null ∧ o = none) ∨ (j ≠ .null ∧ ∃ a, d levels j = some a ∧ o = some a) := by
  have hcomm (x : Option α) : x = o ↔ o = x := eq_comm
  cases j <;> simp [Decoder.optional, Option.map_eq_some_iff, hcomm]

section Agree

variable {bound : Nat}

/-- The decoders agree as long as no more than `bound` levels may be opened. -/
def AgreeTo (bound : Nat) (d e : Decoder α) : Prop :=
  ∀ levels, levels ≤ bound → d levels = e levels

theorem AgreeTo.list (h : AgreeTo bound d e) : AgreeTo bound d.list e.list := by
  intro levels hl
  funext j
  cases levels with
  | zero => rfl
  | succ levels =>
    have hitem := h levels (by omega)
    cases j with
    | array items => simp only [Decoder.list, hitem]
    | _ => rfl

theorem AgreeTo.optional (h : AgreeTo bound d e) : AgreeTo bound d.optional e.optional := by
  intro levels hl
  funext j
  cases j <;> simp only [Decoder.optional, h levels hl]

theorem AgreeTo.get (h : AgreeTo bound d e) {r : RecordFields} (hr : r.levels ≤ bound)
    (place : Nat) (names : List String) (missing : α) :
    r.get place names d missing = r.get place names e missing := by
  simp only [RecordFields.get, h r.levels hr]

end Agree

end Decoder

namespace RecordFields

/-- Opening a record takes one level. -/
theorem levels_of_open? {size levels : Nat} {j : Json} {r : RecordFields}
    (h : open? size levels j = some r) : levels = r.levels + 1 := by
  unfold open? at h
  split at h
  · cases h
    rfl
  · split at h
    · cases h
      rfl
    · cases h
  · cases h

theorem open?_object_iff {size levels : Nat} {members : List (Text × Json)} {r : RecordFields} :
    open? size levels (.object members) = some r ↔
      ∃ level, levels = level + 1 ∧ r = ⟨level, .inl members⟩ := by
  cases levels <;> simp [open?, eq_comm]

theorem open?_array_iff {size levels : Nat} {items : List Json} {r : RecordFields} :
    open? size levels (.array items) = some r ↔
      ∃ level, levels = level + 1 ∧ items.length ≤ size ∧ r = ⟨level, .inr items⟩ := by
  cases levels <;> simp [open?, eq_comm]

theorem get_eq_some_iff {r : RecordFields} {place : Nat} {names : List String} :
    r.get place names d missing = some a ↔
      (r.given? place names = some none ∧ a = missing) ∨
        ∃ x, r.given? place names = some (some x) ∧ d r.levels x = some a := by
  rw [RecordFields.get]
  rcases r.given? place names with _ | _ | x <;> simp [eq_comm]

end RecordFields

section Named

variable {names : List String} {members members' before after : List (Text × Json)}
  {name : String} {x : Json} {level place : Nat}

/-- The members that go by one of the names. -/
def named (names : List String) (members : List (Text × Json)) : List (Text × Json) :=
  members.filter fun m => names.any fun name => name.toList == m.1

theorem named_append : named names (before ++ after) = named names before ++ named names after :=
  List.filter_append ..

theorem named_cons_of_mem (h : name ∈ names) :
    named names ((name.toList, x) :: members) = (name.toList, x) :: named names members :=
  List.filter_cons_of_pos (List.any_eq_true.mpr ⟨name, h, by simp⟩)

theorem named_cons_of_ne {name : Text} (h : ∀ n ∈ names, n.toList ≠ name) :
    named names ((name, x) :: members) = named names members :=
  List.filter_cons_of_neg (by simpa using h)

theorem get_members_iff :
    (RecordFields.mk level (.inl members)).get place names d missing = some a ↔
      (named names members = [] ∧ a = missing) ∨
        ∃ m, named names members = [m] ∧ d level m.2 = some a := by
  simp only [RecordFields.get_eq_some_iff, RecordFields.given?, ← named.eq_def]
  rcases named names members with _ | ⟨m, _ | _⟩ <;> simp

theorem get_congr_named (h : named names members' = named names members) :
    (RecordFields.mk level (.inl members')).get place names d missing =
      (RecordFields.mk level (.inl members)).get place names d missing := by
  ext b
  rw [get_members_iff, get_members_iff, h]

end Named

end ProofDesk
