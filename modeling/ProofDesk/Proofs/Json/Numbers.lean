import Mathlib.Data.Fintype.Basic
import Mathlib.Tactic.FinCases
import ProofDesk.Json.Printer
import ProofDesk.Json.Reader

namespace ProofDesk.Json

/-- The text does not go on with a number that stands before it. -/
def Stops (s : Text) : Prop :=
  ∀ c ∈ s.head?, digit? c = none ∧ c ≠ '.' ∧ c ≠ 'e' ∧ c ≠ 'E'

theorem stops_nil : Stops [] := by
  simp [Stops]

theorem Stops.cons {c : Char} {s : Text} (hd : digit? c = none) (hp : c ≠ '.') (he : c ≠ 'e')
    (hE : c ≠ 'E') : Stops (c :: s) := by
  rintro x hx
  obtain rfl : c = x := by simpa using hx
  exact ⟨hd, hp, he, hE⟩

/-- The text does not go on with the digits that stand before it. -/
def EndsDigits (s : Text) : Prop :=
  ∀ c ∈ s.head?, digit? c = none

theorem Stops.endsDigits {s : Text} (h : Stops s) : EndsDigits s :=
  fun c hc => (h c hc).1

theorem EndsDigits.cons {c : Char} {s : Text} (h : digit? c = none) : EndsDigits (c :: s) := by
  intro x hx
  obtain rfl : c = x := by simpa using hx
  exact h

def digitChar (d : Fin 10) : Char :=
  Nat.digitChar d.val

@[simp] theorem digit?_digitChar (d : Fin 10) : digit? (digitChar d) = some d := by
  fin_cases d <;> rfl

theorem readDigits_append (ds : List (Fin 10)) {rest : Text} (h : EndsDigits rest) :
    readDigits (ds.map digitChar ++ rest) = (ds, rest) := by
  induction ds with
  | nil =>
    cases rest with
    | nil => rfl
    | cons c s => simp [readDigits, h c rfl]
  | cons d ds ih => simp [readDigits, ih]

theorem ofDigits_concat (ds : List (Fin 10)) (d : Fin 10) :
    ofDigits (ds ++ [d]) = 10 * ofDigits ds + d.val := by
  simp [ofDigits]

/-- The digits that a number is written with denote it. The first one is zero for zero alone. -/
theorem exists_digits (n : Nat) :
    ∃ d ds, Text.ofNat n = (d :: ds).map digitChar ∧ ofDigits (d :: ds) = n ∧
      (d = 0 → n = 0 ∧ ds = []) := by
  induction n using Nat.strong_induction_on with
  | _ n ih =>
    rw [Text.ofNat, Nat.toDigits_eq_if (by omega)]
    split
    next h => exact ⟨⟨n, h⟩, [], rfl, by simp [ofDigits], fun hd => ⟨by simpa using hd, rfl⟩⟩
    next h =>
      obtain ⟨d, ds, hs, hn, hz⟩ := ih (n / 10) (by omega)
      have hlast : n % 10 < 10 := Nat.mod_lt _ (by omega)
      refine ⟨d, ds ++ [⟨n % 10, hlast⟩], ?_, ?_, ?_⟩
      · rw [← Text.ofNat, hs]
        simp [digitChar]
      · rw [← List.cons_append, ofDigits_concat, hn]
        exact Nat.div_add_mod n 10
      · intro hd
        have := (hz hd).1
        omega

theorem readWhole_ofNat (n : Nat) {rest : Text} (h : EndsDigits rest) :
    readWhole (Text.ofNat n ++ rest) = some (n, rest) := by
  obtain ⟨d, ds, hs, hn, hz⟩ := exists_digits n
  rw [hs, readWhole, readDigits_append (d :: ds) h]
  by_cases hd : d = 0
  · obtain ⟨rfl, rfl⟩ := hz hd
    simp [hd]
  · simp [hd, hn]

theorem readExponentDigits_ofNat (n : Nat) {rest : Text} (h : EndsDigits rest) :
    readExponentDigits (Text.ofNat n ++ rest) = some (n, rest) := by
  obtain ⟨d, ds, hs, hn, -⟩ := exists_digits n
  rw [hs, readExponentDigits, readDigits_append (d :: ds) h]
  simp [hn]

theorem exists_cons_ofNat (n : Nat) : ∃ d ds, Text.ofNat n = digitChar d :: ds := by
  obtain ⟨d, ds, hs, -⟩ := exists_digits n
  exact ⟨d, ds.map digitChar, by simpa using hs⟩

theorem digitChar_ne {d : Fin 10} {c : Char} (h : digit? c = none) : digitChar d ≠ c := by
  rintro rfl
  simp at h

/-- The digits after the point, as they are written. -/
def fractionText (ds : List (Fin 10)) : Text :=
  if ds.isEmpty then [] else '.' :: ds.map digitChar

/-- An exponent, as it is written. -/
def exponentText : Option Int → Text
  | none => []
  | some e => 'e' :: Text.ofInt e

theorem render_eq (n : Numeral) :
    n.render = (if n.negative then ['-'] else []) ++ Text.ofNat n.whole ++ fractionText n.fraction
      ++ exponentText n.exponent := by
  obtain ⟨negative, whole, fraction, exponent⟩ := n
  cases exponent <;> rfl

theorem readFraction_append (ds : List (Fin 10)) {rest : Text} (h : EndsDigits rest)
    (hp : '.' ∉ rest.head?) : readFraction (fractionText ds ++ rest) = some (ds, rest) := by
  cases ds with
  | nil =>
    cases rest with
    | nil => rfl
    | cons c s =>
      have : c ≠ '.' := by simpa using hp
      simp [fractionText, readFraction, this]
  | cons d ds =>
    change readFraction ('.' :: ((d :: ds).map digitChar ++ rest)) = some (d :: ds, rest)
    rw [readFraction, readDigits_append (d :: ds) h]

theorem readExponent_of_unsigned {c : Char} {s : Text} (hm : c ≠ '-') (hp : c ≠ '+') :
    readExponent ('e' :: c :: s) =
      (readExponentDigits (c :: s)).map fun p => (some (Int.ofNat p.1), p.2) := by
  rw [readExponent, if_pos (Or.inl rfl)]
  · rintro r ⟨⟩
    exact hm rfl
  · rintro r ⟨⟩
    exact hp rfl

theorem readExponent_append (e : Option Int) {rest : Text} (h : Stops rest) :
    readExponent (exponentText e ++ rest) = some (e, rest) := by
  cases e with
  | none =>
    cases rest with
    | nil => rfl
    | cons c s =>
      obtain ⟨-, -, he, hE⟩ := h c rfl
      simp [exponentText, readExponent, he, hE]
  | some e =>
    cases e with
    | ofNat n =>
      obtain ⟨d, ds, hs⟩ := exists_cons_ofNat n
      have hread := readExponentDigits_ofNat n h.endsDigits
      rw [hs] at hread
      change readExponent ('e' :: (Text.ofNat n ++ rest)) = _
      rw [hs, List.cons_append,
        readExponent_of_unsigned (digitChar_ne (by rfl)) (digitChar_ne (by rfl)),
        ← List.cons_append, hread]
      rfl
    | negSucc n =>
      change readExponent ('e' :: '-' :: (Text.ofNat (n + 1) ++ rest)) = _
      rw [readExponent, if_pos (Or.inl rfl)]
      simp only [readExponentDigits_ofNat (n + 1) h.endsDigits]
      rfl

theorem endsDigits_exponentText (e : Option Int) {rest : Text} (h : Stops rest) :
    EndsDigits (exponentText e ++ rest) ∧ '.' ∉ (exponentText e ++ rest).head? := by
  cases e with
  | none => exact ⟨h.endsDigits, fun hp => (h '.' hp).2.1 rfl⟩
  | some e => exact ⟨EndsDigits.cons (by rfl), by simp [exponentText]⟩

theorem endsDigits_fractionText (ds : List (Fin 10)) {rest : Text} (h : EndsDigits rest) :
    EndsDigits (fractionText ds ++ rest) := by
  cases ds with
  | nil => exact h
  | cons d ds => exact EndsDigits.cons (by rfl)

theorem readUnsigned_append (negative : Bool) (n : Numeral) {rest : Text} (h : Stops rest) :
    readUnsigned negative (Text.ofNat n.whole ++ (fractionText n.fraction
      ++ (exponentText n.exponent ++ rest))) = some (number { n with negative }, rest) := by
  obtain ⟨hexponent, hpoint⟩ := endsDigits_exponentText n.exponent h
  have hfraction := endsDigits_fractionText n.fraction hexponent
  rw [readUnsigned, readWhole_ofNat n.whole hfraction]
  simp only [Option.bind_eq_bind, Option.bind_some, readFraction_append n.fraction hexponent hpoint,
    readExponent_append n.exponent h]
  rfl

theorem readNumber_of_unsigned {c : Char} {s : Text} (hm : c ≠ '-') :
    readNumber (c :: s) = readUnsigned false (c :: s) := by
  rw [readNumber]
  rintro r ⟨⟩
  exact hm rfl

theorem readNumber_render (n : Numeral) {rest : Text} (h : Stops rest) :
    readNumber (n.render ++ rest) = some (number n, rest) := by
  have hread := readUnsigned_append n.negative n h
  rw [render_eq]
  simp only [List.append_assoc]
  cases hn : n.negative with
  | true =>
    rw [hn] at hread
    simpa [readNumber, ← hn] using hread
  | false =>
    obtain ⟨d, ds, hs⟩ := exists_cons_ofNat n.whole
    rw [hn, hs, List.cons_append] at hread
    rw [if_neg (by simp), List.nil_append, hs, List.cons_append,
      readNumber_of_unsigned (digitChar_ne (by rfl)), hread, ← hn]

end ProofDesk.Json
