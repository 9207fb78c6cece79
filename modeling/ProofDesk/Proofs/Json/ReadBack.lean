import ProofDesk.Proofs.Json.Numbers

namespace ProofDesk.Json

/-- The part of a quoted text that a character becomes: a code unit if it is escaped by number. -/
def pieceOf (c : Char) : Piece :=
  if c.toNat < 32 ∧ c.toNat ≠ 8 ∧ c.toNat ≠ 9 ∧ c.toNat ≠ 10 ∧ c.toNat ≠ 12 ∧ c.toNat ≠ 13 then
    .unit c.toNat
  else .char c

theorem hexValue?_hexDigit (n : Nat) : hexValue? (hexDigit n) = some (n % 16) := by
  have all : ∀ d : Fin 16, hexValue? (Nat.digitChar d.val) = some d.val := by decide
  exact all ⟨n % 16, Nat.mod_lt _ (by omega)⟩

theorem hex4?_control {n : Nat} (h : n < 32) :
    hex4? '0' '0' (hexDigit (n / 16)) (hexDigit n) = some n := by
  have hzero : hexValue? '0' = some 0 := by decide
  have : (n / 16 % 16) * 16 + n % 16 = n := by omega
  simp [hex4?, hzero, hexValue?_hexDigit, this]

theorem readPieces_plain {c : Char} {s : Text} (hq : c ≠ '"') (hb : c ≠ '\\')
    (hc : ¬c.toNat < 32) :
    readPieces (c :: s) = (readPieces s).map fun p => (.char c :: p.1, p.2) := by
  rw [readPieces]
  · rw [if_neg (by simp [hb, hc])]
    cases readPieces s <;> rfl
  · exact fun h => hq h
  · rintro a b c' d r rfl -
    exact hb rfl
  · rintro e r rfl -
    exact hb rfl

theorem readPieces_letter {e c : Char} {s : Text} (hu : e ≠ 'u') (h : unescape? e = some c) :
    readPieces ('\\' :: e :: s) = (readPieces s).map fun p => (.char c :: p.1, p.2) := by
  rw [readPieces, h]
  · cases readPieces s <;> rfl
  · rintro a b c d r rfl -
    exact hu rfl

theorem readPieces_number {a b c d : Char} {n : Nat} {s : Text} (h : hex4? a b c d = some n) :
    readPieces ('\\' :: 'u' :: a :: b :: c :: d :: s) =
      (readPieces s).map fun p => (.unit n :: p.1, p.2) := by
  rw [readPieces, h]
  cases readPieces s <;> rfl

/-- The characters that are escaped by a letter. -/
def letterEscaped : List Char :=
  ['"', '\\', '\x08', '\t', '\n', '\x0c', '\r']

theorem exists_escape_of_mem {c : Char} (h : c ∈ letterEscaped) :
    ∃ e, escape c = ['\\', e] ∧ e ≠ 'u' ∧ unescape? e = some c ∧ pieceOf c = .char c := by
  fin_cases h <;> exact ⟨_, by rfl, by decide, by rfl, by rfl⟩

theorem ne_of_not_mem_letterEscaped {c : Char} (h : c ∉ letterEscaped) : c ≠ '"' ∧ c ≠ '\\' := by
  constructor <;> (rintro rfl; exact h (by decide))

theorem escape_of_not_mem {c : Char} (h : c ∉ letterEscaped) :
    escape c = (if c.toNat < 32 then
        ['\\', 'u', '0', '0', hexDigit (c.toNat / 16), hexDigit c.toNat]
      else [c]) ∧
    pieceOf c = if c.toNat < 32 then .unit c.toNat else .char c := by
  obtain ⟨hq, hb⟩ := ne_of_not_mem_letterEscaped h
  have hnumber : ∀ n ∈ [8, 9, 10, 12, 13], c.toNat ≠ n := by
    intro n hn heq
    have hmem : ∀ m ∈ [8, 9, 10, 12, 13], Char.ofNat m ∈ letterEscaped := by decide
    exact h (c.ofNat_toNat ▸ heq ▸ hmem n hn)
  simp [escape, pieceOf, hq, hb, hnumber]

theorem readPieces_escape (c : Char) (s : Text) :
    readPieces (escape c ++ s) = (readPieces s).map fun p => (pieceOf c :: p.1, p.2) := by
  by_cases hc : c ∈ letterEscaped
  · obtain ⟨e, hescape, hu, hback, hpiece⟩ := exists_escape_of_mem hc
    rw [hescape, hpiece]
    exact readPieces_letter hu hback
  · obtain ⟨hescape, hpiece⟩ := escape_of_not_mem hc
    rw [hescape, hpiece]
    split
    next h => exact readPieces_number (hex4?_control h)
    next h =>
      obtain ⟨hq, hb⟩ := ne_of_not_mem_letterEscaped hc
      exact readPieces_plain hq hb h

theorem readPieces_flatMap_escape (s rest : Text) :
    readPieces (s.flatMap escape ++ '"' :: rest) = some (s.map pieceOf, rest) := by
  induction s with
  | nil => simp [readPieces]
  | cons c s ih =>
    rw [List.flatMap_cons, List.append_assoc, readPieces_escape, ih]
    rfl

theorem assemble_unit {n : Nat} (h : n < 32) (pieces : List Piece) :
    assemble (.unit n :: pieces) = (assemble pieces).map (Char.ofNat n :: ·) := by
  have hhigh : isHigh n = false := by
    simp [isHigh]
    omega
  have hlow : isLow n = false := by
    simp [isLow]
    omega
  rcases pieces with _ | ⟨_ | _, _⟩ <;> simp [assemble, hhigh, hlow]

theorem assemble_map_pieceOf (s : Text) : assemble (s.map pieceOf) = some s := by
  induction s with
  | nil => simp [assemble]
  | cons c s ih =>
    rw [List.map_cons, pieceOf]
    split
    next h => rw [assemble_unit h.1, ih, Option.map_some, Char.ofNat_toNat]
    next => rw [assemble, ih, Option.map_some]

/-- A text reads back from its quoted form. -/
theorem readText_quote (s rest : Text) :
    readText (s.flatMap escape ++ '"' :: rest) = some (some s, rest) := by
  rw [readText, readPieces_flatMap_escape]
  simp [assemble_map_pieceOf]

theorem isSpace_digitChar (d : Fin 10) : isSpace (digitChar d) = false := by
  fin_cases d <;> rfl

/-- What a number begins with: a character that no other value begins with. -/
theorem exists_cons_render (n : Numeral) :
    ∃ c s, n.render = c :: s ∧ isSpace c = false ∧ c ∉ ['"', '[', ']', '\x7b', 'n', 't', 'f'] := by
  obtain ⟨d, ds, hs⟩ := exists_cons_ofNat n.whole
  rw [render_eq, hs]
  cases n.negative with
  | true => exact ⟨'-', _, rfl, by decide, by decide⟩
  | false =>
    refine ⟨digitChar d, _, rfl, isSpace_digitChar d, fun h => ?_⟩
    have hdigit := digit?_digitChar d
    generalize digitChar d = c at h hdigit
    fin_cases h <;> cases hdigit

theorem compact_number (n : Numeral) : compact (number n) = n.render := rfl

theorem compact_text (s : Text) : compact (text s) = '"' :: (s.flatMap escape ++ ['"']) := rfl

theorem compact_array (items : List Json) :
    compact (array items) = '[' :: (compactItems items ++ [']']) := rfl

theorem compact_object (members : List (Text × Json)) :
    compact (object members) = '\x7b' :: (compactMembers members ++ ['\x7d']) := rfl

theorem compactItems_singleton (x : Json) : compactItems [x] = compact x := rfl

theorem compactItems_cons (x y : Json) (rest : List Json) :
    compactItems (x :: y :: rest) = compact x ++ ',' :: compactItems (y :: rest) := rfl

theorem compactMembers_singleton (name : Text) (x : Json) :
    compactMembers [(name, x)] = '"' :: (name.flatMap escape ++ '"' :: ':' :: compact x) := by
  change quote name ++ ':' :: compact x = _
  simp [quote]

theorem compactMembers_cons (name : Text) (x : Json) (y : Text × Json)
    (rest : List (Text × Json)) :
    compactMembers ((name, x) :: y :: rest) =
      '"' :: (name.flatMap escape ++
        '"' :: ':' :: (compact x ++ ',' :: compactMembers (y :: rest))) := by
  change quote name ++ ':' :: compact x ++ ',' :: compactMembers (y :: rest) = _
  simp [quote]

/-- What the text of a value begins with: no space, and nothing that closes an array. -/
theorem exists_cons_compact (j : Json) :
    ∃ c s, compact j = c :: s ∧ isSpace c = false ∧ c ≠ ']' := by
  cases j with
  | null => exact ⟨'n', "ull".toList, rfl, by decide, by decide⟩
  | bool b =>
    cases b
    · exact ⟨'f', "alse".toList, rfl, by decide, by decide⟩
    · exact ⟨'t', "rue".toList, rfl, by decide, by decide⟩
  | number n =>
    obtain ⟨c, s, hs, hspace, hc⟩ := exists_cons_render n
    exact ⟨c, s, hs, hspace, fun h => hc (by simp [h])⟩
  | text s => exact ⟨_, _, compact_text s, by decide, by decide⟩
  | array items => exact ⟨_, _, compact_array items, by decide, by decide⟩
  | object members => exact ⟨_, _, compact_object members, by decide, by decide⟩
  | garbled => exact ⟨'"', "\\ud800\"".toList, rfl, by decide, by decide⟩

theorem exists_cons_compactItems (x : Json) (items : List Json) :
    ∃ c s, compactItems (x :: items) = c :: s ∧ isSpace c = false ∧ c ≠ ']' := by
  obtain ⟨c, s, hs, hspace, hc⟩ := exists_cons_compact x
  cases items with
  | nil => exact ⟨c, s, by rw [compactItems_singleton, hs], hspace, hc⟩
  | cons y items => exact ⟨c, _, by rw [compactItems_cons, hs, List.cons_append], hspace, hc⟩

theorem exists_cons_compactMembers (m : Text × Json) (members : List (Text × Json)) :
    ∃ s, compactMembers (m :: members) = '"' :: s := by
  obtain ⟨name, x⟩ := m
  cases members with
  | nil => exact ⟨_, compactMembers_singleton name x⟩
  | cons y members => exact ⟨_, compactMembers_cons name x y members⟩

theorem skipSpace_cons {c : Char} {s : Text} (h : isSpace c = false) :
    skipSpace (c :: s) = c :: s := by
  simp [skipSpace, h]

theorem skipSpace_compact (j : Json) (s : Text) : skipSpace (compact j ++ s) = compact j ++ s := by
  obtain ⟨c, t, hc, hspace, -⟩ := exists_cons_compact j
  rw [hc]
  exact skipSpace_cons hspace

theorem readWord_eq_none {c : Char} {s : Text} (hn : c ≠ 'n') (ht : c ≠ 't') (hf : c ≠ 'f') :
    readWord (c :: s) = none := by
  simp [readWord, Text.after?, Ne.symm hn, Ne.symm ht, Ne.symm hf]

theorem readValue_render (n : Numeral) (fuel : Nat) {rest : Text} (h : Stops rest) :
    readValue (fuel + 1) (n.render ++ rest) = some (number n, rest) := by
  obtain ⟨c, s, hs, -, hc⟩ := exists_cons_render n
  have hread := readNumber_render n h
  simp only [List.mem_cons, List.not_mem_nil, or_false, not_or] at hc
  obtain ⟨hquote, hopen, -, hbrace, hn, ht, hf⟩ := hc
  rw [hs, List.cons_append] at hread ⊢
  rw [readValue, readWord_eq_none hn ht hf]
  · exact hread
  · rintro r ⟨⟩
    exact hquote rfl
  · rintro r ⟨⟩
    exact hopen rfl
  · rintro r ⟨⟩
    exact hbrace rfl

theorem readValue_text (s rest : Text) (fuel : Nat) :
    readValue (fuel + 1) ('"' :: (s.flatMap escape ++ '"' :: rest)) = some (text s, rest) := by
  rw [readValue, readText_quote]
  rfl

theorem readValue_array {c : Char} {s : Text} (fuel : Nat) (hspace : isSpace c = false)
    (hc : c ≠ ']') :
    readValue (fuel + 1) ('[' :: c :: s) =
      (readItems fuel (c :: s)).map fun p => (array p.1, p.2) := by
  rw [readValue, skipSpace_cons hspace]
  split
  next r hr => exact absurd (List.cons.inj hr).1 hc
  next => rfl

theorem readValue_object {c : Char} {s : Text} (fuel : Nat) (hspace : isSpace c = false)
    (hc : c ≠ '\x7d') :
    readValue (fuel + 1) ('\x7b' :: c :: s) =
      (readMembers fuel (c :: s)).map fun p => (ofMembers p.1, p.2) := by
  rw [readValue, skipSpace_cons hspace]
  split
  next r hr => exact absurd (List.cons.inj hr).1 hc
  next => rfl

theorem ofMembers_map_some (members : List (Text × Json)) :
    ofMembers (members.map fun m => (some m.1, m.2)) = object members := by
  have : (members.map fun m => (some m.1, m.2)).mapM
      (fun m : Option Text × Json => m.1.map fun name => (name, m.2)) = some members := by
    induction members with
    | nil => rfl
    | cons m members ih => simp [ih]
  rw [ofMembers, this]

theorem stops_of_delimiter {c : Char} (s : Text) (h : c = ',' ∨ c = ']' ∨ c = '\x7d') :
    Stops (c :: s) := by
  rcases h with rfl | rfl | rfl <;> exact Stops.cons (by decide) (by decide) (by decide) (by decide)

mutual

/-- A value reads back from its text, in front of a text that does not go on with a number. -/
theorem readValue_compact : ∀ (j : Json) (fuel : Nat) (rest : Text),
    2 * (compact j).length ≤ fuel → Stops rest → readValue fuel (compact j ++ rest) = some (j, rest)
  | j, 0, _, hf, _ => by
    obtain ⟨c, s, hs, -⟩ := exists_cons_compact j
    simp [hs] at hf
  | null, fuel + 1, rest, _, _ => by rfl
  | bool true, fuel + 1, rest, _, _ => by rfl
  | bool false, fuel + 1, rest, _, _ => by rfl
  | number n, fuel + 1, rest, _, hr => by
    rw [compact_number, readValue_render n fuel hr]
  | text s, fuel + 1, rest, _, _ => by
    rw [compact_text, List.cons_append, List.append_assoc, List.singleton_append, readValue_text]
  | array [], fuel + 1, rest, _, _ => by rfl
  | array (x :: items), fuel + 1, rest, hf, _ => by
    have hread := readItems_compactItems x items fuel rest (by
      simp only [compact_array, List.length_cons, List.length_append] at hf
      omega)
    obtain ⟨c, s, hs, hspace, hc⟩ := exists_cons_compactItems x items
    rw [hs, List.cons_append] at hread
    rw [compact_array, hs, List.cons_append, List.cons_append, List.cons_append, List.append_assoc,
      List.singleton_append, readValue_array fuel hspace hc, hread]
    rfl
  | object [], fuel + 1, rest, _, _ => by rfl
  | object (m :: members), fuel + 1, rest, hf, _ => by
    have hread := readMembers_compactMembers m members fuel rest (by
      simp only [compact_object, List.length_cons, List.length_append] at hf
      omega)
    obtain ⟨s, hs⟩ := exists_cons_compactMembers m members
    rw [hs, List.cons_append] at hread
    rw [compact_object, hs, List.cons_append, List.cons_append, List.cons_append, List.append_assoc,
      List.singleton_append, readValue_object fuel (by decide) (by decide), hread, Option.map_some,
      ofMembers_map_some]
  | garbled, fuel + 1, rest, _, _ => by rfl

theorem readItems_compactItems : ∀ (x : Json) (items : List Json) (fuel : Nat) (rest : Text),
    2 * (compactItems (x :: items)).length < fuel →
      readItems fuel (compactItems (x :: items) ++ ']' :: rest) = some (x :: items, rest)
  | x, [], fuel + 1, rest, hf => by
    rw [compactItems_singleton] at hf ⊢
    have hread := readValue_compact x fuel (']' :: rest) (by omega)
      (stops_of_delimiter rest (by simp))
    rw [readItems, hread]
    simp only [skipSpace_cons (show isSpace ']' = false by decide)]
  | x, y :: items, fuel + 1, rest, hf => by
    rw [compactItems_cons, List.length_append, List.length_cons] at hf
    have hread := readValue_compact x fuel (',' :: (compactItems (y :: items) ++ ']' :: rest))
      (by omega) (stops_of_delimiter _ (by simp))
    have hrest := readItems_compactItems y items fuel rest (by omega)
    obtain ⟨c, s, hs, hspace, -⟩ := exists_cons_compactItems y items
    rw [compactItems_cons, List.append_assoc, List.cons_append, readItems, hread]
    simp only [skipSpace_cons (show isSpace ',' = false by decide)]
    rw [hs, List.cons_append] at hrest ⊢
    rw [skipSpace_cons hspace, hrest]
    rfl

theorem readMembers_compactMembers : ∀ (m : Text × Json) (members : List (Text × Json)) (fuel : Nat)
    (rest : Text), 2 * (compactMembers (m :: members)).length < fuel →
      readMembers fuel (compactMembers (m :: members) ++ '\x7d' :: rest) =
        some ((m :: members).map fun m => (some m.1, m.2), rest)
  | (name, x), [], fuel + 1, rest, hf => by
    rw [compactMembers_singleton] at hf ⊢
    simp only [List.length_cons, List.length_append] at hf
    have hread := readValue_compact x fuel ('\x7d' :: rest) (by omega)
      (stops_of_delimiter rest (by simp))
    rw [List.cons_append, List.append_assoc, List.cons_append, List.cons_append, readMembers,
      readText_quote]
    simp only [skipSpace_cons (show isSpace ':' = false by decide), skipSpace_compact, hread,
      skipSpace_cons (show isSpace '\x7d' = false by decide)]
    rfl
  | (name, x), y :: members, fuel + 1, rest, hf => by
    rw [compactMembers_cons] at hf ⊢
    simp only [List.length_cons, List.length_append] at hf
    have hread := readValue_compact x fuel
      (',' :: (compactMembers (y :: members) ++ '\x7d' :: rest)) (by omega)
      (stops_of_delimiter _ (by simp))
    have hrest := readMembers_compactMembers y members fuel rest (by omega)
    obtain ⟨s, hs⟩ := exists_cons_compactMembers y members
    rw [List.cons_append, List.append_assoc, List.cons_append, List.cons_append, List.append_assoc,
      List.cons_append, readMembers, readText_quote]
    simp only [skipSpace_cons (show isSpace ':' = false by decide), skipSpace_compact, hread,
      skipSpace_cons (show isSpace ',' = false by decide)]
    rw [hs, List.cons_append] at hrest ⊢
    rw [skipSpace_cons (by decide), hrest]
    rfl

end

/-- A value is what its text reads as. -/
theorem read?_compact (j : Json) : read? (compact j) = some j := by
  have hspace := skipSpace_compact j []
  have hread := readValue_compact j (2 * (compact j).length + 2) [] (by omega) stops_nil
  rw [List.append_nil] at hspace hread
  rw [read?, hspace, hread]
  simp [skipSpace]

end ProofDesk.Json
