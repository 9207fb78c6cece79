import ProofDesk.Text.Blank

namespace ProofDesk

abbrev Text := List Char

namespace Text

def trimEnd (s : Text) : Text :=
  (s.reverse.dropWhile isBlank).reverse

def trim (s : Text) : Text :=
  trimEnd (s.dropWhile isBlank)

def trimOf (c : Char) (s : Text) : Text :=
  ((s.dropWhile (· == c)).reverse.dropWhile (· == c)).reverse

def isBlankText (s : Text) : Bool :=
  s.all isBlank

/-- The pieces between the occurrences of a character; there is one more piece than occurrences. -/
def split (c : Char) : Text → List Text
  | [] => [[]]
  | x :: xs =>
    if x = c then [] :: split c xs
    else match split c xs with
      | [] => [[x]]
      | piece :: pieces => (x :: piece) :: pieces

/-- The texts one after the other, with `glue` between neighbours. -/
def join (glue : Text) : List Text → Text
  | [] => []
  | [s] => s
  | s :: rest => s ++ glue ++ join glue rest

/-- The parts before and after the first occurrence of a character. -/
def cut? (c : Char) : Text → Option (Text × Text)
  | [] => none
  | x :: xs =>
    if x = c then some ([], xs)
    else (cut? c xs).map fun p => (x :: p.1, p.2)

def after? : Text → Text → Option Text
  | [], s => some s
  | _ :: _, [] => none
  | b :: bs, x :: xs => if b = x then after? bs xs else none

/-- The parts before and after the first occurrence of `needle`. -/
def find? (needle : Text) : Text → Option (Text × Text)
  | [] => if needle = [] then some ([], []) else none
  | x :: xs =>
    match after? needle (x :: xs) with
    | some rest => some ([], rest)
    | none => (find? needle xs).map fun p => (x :: p.1, p.2)

def contains (s needle : Text) : Bool :=
  (find? needle s).isSome

def startsWith (s beginning : Text) : Bool :=
  (after? beginning s).isSome

def dropLast? (c : Char) (s : Text) : Text :=
  if s.getLast? = some c then s.dropLast else s

def dropReturn (s : Text) : Text :=
  dropLast? '\r' s

def dropEnding (ending s : Text) : Text :=
  match after? ending.reverse s.reverse with
  | some rest => rest.reverse
  | none => s

/-- The words of a text, given the word that it goes on with, last character first. -/
def wordsFrom (word : Text) : Text → List Text
  | [] => if word = [] then [] else [word.reverse]
  | x :: xs =>
    if isBlank x then
      if word = [] then wordsFrom [] xs else word.reverse :: wordsFrom [] xs
    else wordsFrom (x :: word) xs

def words (s : Text) : List Text :=
  wordsFrom [] s

/-- The lines as a reader of a listing counts them: a line ends with LF or CRLF, and nothing after
the last terminator is no line. -/
def listing (s : Text) : List Text :=
  let pieces := split '\n' s
  let last := pieces.getLast?.getD []
  pieces.dropLast.map dropReturn ++ (if last = [] then [] else [last])

def ofNat (n : Nat) : Text :=
  Nat.toDigits 10 n

def ofInt : Int → Text
  | .ofNat n => ofNat n
  | .negSucc n => '-' :: ofNat (n + 1)

def digits? (s : Text) : Option Nat :=
  if s ≠ [] ∧ s.all Char.isDigit then some (s.foldl (fun n c => 10 * n + (c.toNat - '0'.toNat)) 0)
  else none

/-- The number below `bound` written by ASCII digits, which a plus sign may precede. -/
def count? (bound : Nat) (s : Text) : Option Nat :=
  let number := match s with
    | '+' :: rest => digits? rest
    | _ => digits? s
  number.filter (· < bound)

/-- The number of at most 32 bits, sign included, written by ASCII digits after an optional sign. -/
def int32? (s : Text) : Option Int :=
  let number : Option Int := match s with
    | '+' :: rest => (digits? rest).map Int.ofNat
    | '-' :: rest => (digits? rest).map fun n => -Int.ofNat n
    | _ => (digits? s).map Int.ofNat
  number.filter fun n => -2147483648 ≤ n ∧ n ≤ 2147483647

/-- The second text does not come before the first one in the order of characters. -/
def inOrder (a b : Text) : Bool :=
  !decide (b < a)

theorem all_dropWhile (p : Char → Bool) (s : Text) : (s.dropWhile p).all p = s.all p := by
  induction s with
  | nil => rfl
  | cons x xs ih => by_cases h : p x = true <;> simp [h, ih]

/-- Dropping white space from both ends leaves a text blank or not. -/
@[simp] theorem isBlankText_trim (s : Text) : isBlankText s.trim = isBlankText s := by
  rw [isBlankText, isBlankText, trim, trimEnd, List.all_reverse, all_dropWhile, List.all_reverse,
    all_dropWhile]

theorem split_ne_nil (c : Char) (s : Text) : split c s ≠ [] := by
  cases s with
  | nil => simp [split]
  | cons x xs =>
    by_cases h : x = c
    · simp [split, h]
    · rw [split, if_neg h]
      split <;> simp

theorem join_split (c : Char) (s : Text) : join [c] (split c s) = s := by
  induction s with
  | nil => rfl
  | cons x xs ih =>
    obtain ⟨p, ps, hp⟩ := List.exists_cons_of_ne_nil (split_ne_nil c xs)
    by_cases h : x = c
    · rw [hp] at ih
      simp [split, h, hp, join, ih]
    · rw [hp] at ih
      cases ps with
      | nil => simpa [split, h, hp, join] using ih
      | cons q qs => simpa [split, h, hp, join] using ih

theorem length_split (c : Char) (s : Text) : (split c s).length = s.count c + 1 := by
  induction s with
  | nil => rfl
  | cons x xs ih =>
    obtain ⟨p, ps, hp⟩ := List.exists_cons_of_ne_nil (split_ne_nil c xs)
    rw [hp] at ih
    by_cases h : x = c
    · simp [split, h, hp, ← ih]
    · simp [split, h, hp, ← ih]

theorem not_mem_of_mem_split {c : Char} {s piece : Text} (h : piece ∈ split c s) : c ∉ piece := by
  induction s generalizing piece with
  | nil => simp_all [split]
  | cons x xs ih =>
    obtain ⟨p, ps, hp⟩ := List.exists_cons_of_ne_nil (split_ne_nil c xs)
    by_cases hx : x = c
    · rw [split, if_pos hx] at h
      rcases List.mem_cons.mp h with rfl | h
      · simp
      · exact ih h
    · rw [split, if_neg hx, hp] at h
      rcases List.mem_cons.mp h with rfl | h
      · have := @ih p (by simp [hp])
        simp [this, Ne.symm hx]
      · exact ih (by simp [hp, h])

theorem split_of_not_mem {c : Char} {s : Text} (h : c ∉ s) : split c s = [s] := by
  induction s with
  | nil => rfl
  | cons x xs ih =>
    rw [List.mem_cons, not_or] at h
    rw [split, if_neg (Ne.symm h.1), ih h.2]

theorem split_append (c : Char) (a b : Text) : split c (a ++ c :: b) = split c a ++ split c b := by
  induction a with
  | nil => simp [split]
  | cons x xs ih =>
    by_cases hx : x = c
    · rw [List.cons_append, split, if_pos hx, split, if_pos hx, ih, List.cons_append]
    · obtain ⟨p, ps, hp⟩ := List.exists_cons_of_ne_nil (split_ne_nil c xs)
      rw [List.cons_append, split, if_neg hx, ih, split, if_neg hx, hp, List.cons_append]
      rfl

theorem after?_eq_some_iff {beginning s rest : Text} :
    after? beginning s = some rest ↔ s = beginning ++ rest := by
  induction beginning generalizing s with
  | nil => simp [after?, eq_comm]
  | cons b bs ih =>
    cases s with
    | nil => simp [after?]
    | cons x xs =>
      by_cases h : b = x
      · simp [after?, h, ih]
      · simp [after?, h, Ne.symm h]

theorem eq_append_of_cut? {c : Char} {s before after : Text} (h : cut? c s = some (before, after)) :
    s = before ++ c :: after ∧ c ∉ before := by
  induction s generalizing before with
  | nil => simp [cut?] at h
  | cons x xs ih =>
    by_cases hx : x = c
    · simp only [cut?, hx, if_true, Option.some.injEq, Prod.mk.injEq] at h
      simp [← h.1, ← h.2, hx]
    · rw [cut?, if_neg hx] at h
      obtain ⟨⟨b, a⟩, hb, hba⟩ := Option.map_eq_some_iff.mp h
      cases hba
      obtain ⟨rfl, hc⟩ := ih hb
      simp [hc, Ne.symm hx]

theorem cut?_eq_none_iff {c : Char} {s : Text} : cut? c s = none ↔ c ∉ s := by
  induction s with
  | nil => simp [cut?]
  | cons x xs ih =>
    by_cases h : x = c
    · simp [cut?, h]
    · simp [cut?, h, ih, Ne.symm h]

theorem eq_append_of_find? {needle s before after : Text}
    (h : find? needle s = some (before, after)) : s = before ++ needle ++ after := by
  induction s generalizing before with
  | nil =>
    by_cases hn : needle = []
    · simp only [find?, hn, if_true, Option.some.injEq, Prod.mk.injEq] at h
      simp [← h.1, ← h.2, hn]
    · simp [find?, hn] at h
  | cons x xs ih =>
    rw [find?] at h
    split at h
    next rest hr =>
      cases h
      simpa using after?_eq_some_iff.mp hr
    next =>
      obtain ⟨⟨b, a⟩, hb, hba⟩ := Option.map_eq_some_iff.mp h
      cases hba
      simp [ih hb]

end Text

end ProofDesk
