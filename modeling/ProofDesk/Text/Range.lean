import ProofDesk.Text.Basic

namespace ProofDesk

/-- A zero-based line, and a column in UTF-16 code units. -/
structure Position where
  line : Nat
  character : Nat
deriving DecidableEq, Repr

/-- A stretch of text between two positions. -/
structure Range where
  start : Position
  stop : Position
deriving DecidableEq, Repr

def Position.le (p q : Position) : Prop :=
  p.line < q.line ∨ (p.line = q.line ∧ p.character ≤ q.character)

instance : LE Position := ⟨Position.le⟩

instance (p q : Position) : Decidable (p ≤ q) :=
  inferInstanceAs (Decidable (p.line < q.line ∨ (p.line = q.line ∧ p.character ≤ q.character)))

/-- The position of a line and column that are both counted from one; zero counts as one. -/
def Position.ofOneBased (line column : Nat) : Position :=
  ⟨line - 1, column - 1⟩

/-- The position some units to the right. Columns are numbers of 32 bits, and so is their sum. -/
def Position.advance (p : Position) (units : Nat) : Position :=
  ⟨p.line, (p.character + units) % 4294967296⟩

namespace Range

def point (p : Position) : Range :=
  ⟨p, p⟩

def isSingleLine (r : Range) : Bool :=
  r.start.line == r.stop.line

end Range

namespace Text

/-- A character beyond the basic plane takes two UTF-16 code units, any other one. -/
def unitsOf (c : Char) : Nat :=
  if c.toNat < 0x10000 then 1 else 2

def units (s : Text) : Nat :=
  s.foldr (fun c n => unitsOf c + n) 0

def bytes (s : Text) : Nat :=
  s.foldr (fun c n => c.utf8Size + n) 0

def takeBytes : Nat → Text → Text
  | _, [] => []
  | n, c :: s => if c.utf8Size ≤ n then c :: takeBytes (n - c.utf8Size) s else []

def dropBytes : Nat → Text → Text
  | _, [] => []
  | n, c :: s => if c.utf8Size ≤ n then dropBytes (n - c.utf8Size) s else c :: s

def isBoundary (s : Text) (offset : Nat) : Bool :=
  (takeBytes offset s).bytes == offset

/-- The shortest beginning that has at least the given number of UTF-16 units, or all of the
text. -/
def takeUnits : Nat → Text → Text
  | 0, _ => []
  | _ + 1, [] => []
  | n + 1, c :: s => c :: takeUnits (n + 1 - unitsOf c) s

/-- The range on `line` from after the beginning `before` of its text to after `before ++ part`. -/
def spanAfter (line : Nat) (before part : Text) : Range :=
  ⟨⟨line, units before⟩, ⟨line, units before + units part⟩⟩

def indentation (line : Text) : Text :=
  line.takeWhile fun c => c == ' ' || c == '\t'

@[simp] theorem units_nil : units [] = 0 := rfl

@[simp] theorem units_cons (c : Char) (s : Text) : units (c :: s) = unitsOf c + units s := rfl

@[simp] theorem units_append (s t : Text) : units (s ++ t) = units s + units t := by
  induction s with
  | nil => simp
  | cons c s ih => simp [ih, Nat.add_assoc]

@[simp] theorem bytes_nil : bytes [] = 0 := rfl

@[simp] theorem bytes_cons (c : Char) (s : Text) : bytes (c :: s) = c.utf8Size + bytes s := rfl

@[simp] theorem bytes_append (s t : Text) : bytes (s ++ t) = bytes s + bytes t := by
  induction s with
  | nil => simp
  | cons c s ih => simp [ih, Nat.add_assoc]

theorem unitsOf_pos (c : Char) : 0 < unitsOf c := by
  unfold unitsOf
  split <;> omega

theorem takeBytes_append_dropBytes (n : Nat) (s : Text) : takeBytes n s ++ dropBytes n s = s := by
  induction s generalizing n with
  | nil => rfl
  | cons c s ih =>
    by_cases h : c.utf8Size ≤ n
    · simp [takeBytes, dropBytes, h, ih]
    · simp [takeBytes, dropBytes, h]

theorem bytes_takeBytes_le (n : Nat) (s : Text) : bytes (takeBytes n s) ≤ n := by
  induction s generalizing n with
  | nil => simp [takeBytes]
  | cons c s ih =>
    by_cases h : c.utf8Size ≤ n
    · have := ih (n - c.utf8Size)
      simp only [takeBytes, h, if_true, bytes_cons]
      omega
    · simp [takeBytes, h]

theorem takeBytes_bytes_append (s t : Text) : takeBytes (bytes s) (s ++ t) = s := by
  induction s with
  | nil =>
    cases t with
    | nil => rfl
    | cons c t =>
      have := c.utf8Size_pos
      simp [takeBytes, show ¬ c.utf8Size ≤ 0 by omega]
  | cons c s ih => simp [takeBytes, ih]

theorem dropBytes_bytes_append (s t : Text) : dropBytes (bytes s) (s ++ t) = t := by
  have h := takeBytes_append_dropBytes (bytes s) (s ++ t)
  rw [takeBytes_bytes_append] at h
  exact List.append_cancel_left h

theorem takeUnits_prefix (n : Nat) (s : Text) : takeUnits n s <+: s := by
  induction s generalizing n with
  | nil => cases n <;> simp [takeUnits]
  | cons c s ih =>
    cases n with
    | zero => simp [takeUnits]
    | succ n => simpa [takeUnits] using ih _

theorem takeUnits_units_append (s t : Text) : takeUnits (units s) (s ++ t) = s := by
  induction s with
  | nil => cases t <;> rfl
  | cons c s ih =>
    obtain ⟨n, hn⟩ := Nat.exists_eq_succ_of_ne_zero (show units (c :: s) ≠ 0 by
      have := unitsOf_pos c; simp; omega)
    have hr : n + 1 - unitsOf c = units s := by simp at hn; omega
    rw [hn, List.cons_append, takeUnits, hr, ih]

end Text

end ProofDesk
