import ProofDesk.Json.Basic

namespace ProofDesk

/-- Decodes a value, opening at most the given number of levels. -/
abbrev Decoder (α : Type) := Nat → Json → Option α

namespace Decoder

def text : Decoder Text := fun _ j => j.text?

def bool : Decoder Bool := fun _ j => j.bool?

def count : Decoder Nat := fun _ j => j.nat?.filter (· < Nat.pow 2 32)

def list {α : Type} (item : Decoder α) : Decoder (List α)
  | levels + 1, .array items => items.mapM (item levels)
  | _, _ => none

def optional {α : Type} (value : Decoder α) : Decoder (Option α)
  | _, .null => some none
  | levels, j => (value levels j).map some

end Decoder

/-- A record that has been opened: its members or its items, and the levels left for its fields. -/
structure RecordFields where
  levels : Nat
  content : List (Text × Json) ⊕ List Json

namespace RecordFields

def open? (size : Nat) : Decoder RecordFields
  | levels + 1, .object members => some ⟨levels, .inl members⟩
  | levels + 1, .array items => if items.length ≤ size then some ⟨levels, .inr items⟩ else none
  | _, _ => none

/-- The value given for a field, which has a place among the fields and one or more names; nothing
if it is given more than once. -/
def given? (r : RecordFields) (place : Nat) (names : List String) : Option (Option Json) :=
  match r.content with
  | .inl members =>
    match members.filter fun m => names.any fun name => name.toList == m.1 with
    | [] => some none
    | [m] => some (some m.2)
    | _ => none
  | .inr items => some items[place]?

def get {α : Type} (r : RecordFields) (place : Nat) (names : List String) (value : Decoder α)
    (missing : α) : Option α := do
  match ← r.given? place names with
  | none => some missing
  | some j => value r.levels j

def require {α : Type} (r : RecordFields) (place : Nat) (names : List String)
    (value : Decoder α) : Option α := do
  match ← r.given? place names with
  | none => none
  | some j => value r.levels j

end RecordFields

end ProofDesk
