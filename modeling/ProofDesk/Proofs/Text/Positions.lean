import ProofDesk.Proofs.Text.Lines

namespace ProofDesk.Text

variable {s above text below before after : Text} {line offset column : Nat}

theorem takeBytes_add (before : Text) (offset : Nat) (after : Text) :
    takeBytes (before.bytes + offset) (before ++ after) = before ++ takeBytes offset after := by
  induction before with
  | nil => simp
  | cons c before ih =>
    have hle : c.utf8Size ≤ bytes (c :: before) + offset := by
      rw [bytes_cons]
      omega
    have hrest : bytes (c :: before) + offset - c.utf8Size = bytes before + offset := by
      rw [bytes_cons]
      omega
    rw [List.cons_append, takeBytes, if_pos hle, hrest, ih, List.cons_append]

/-- What stands behind a text does not matter for an offset within it. -/
theorem takeBytes_append_of_le (h : offset ≤ text.bytes) (below : Text) :
    takeBytes offset (text ++ below) = takeBytes offset text := by
  induction text generalizing offset with
  | nil =>
    obtain rfl : offset = 0 := by simpa using h
    simpa [takeBytes] using takeBytes_bytes_append [] below
  | cons c text ih =>
    rw [bytes_cons] at h
    rw [List.cons_append, takeBytes, takeBytes, ih (by omega)]

theorem isBoundary_bytes (before after : Text) :
    isBoundary (before ++ after) before.bytes = true := by
  simp [isBoundary, takeBytes_bytes_append]

theorem exists_parts_of_isBoundary (h : s.isBoundary offset = true) :
    ∃ before after, s = before ++ after ∧ before.bytes = offset := by
  refine ⟨takeBytes offset s, dropBytes offset s, (takeBytes_append_dropBytes offset s).symm, ?_⟩
  simpa [isBoundary] using h

/-- A boundary of the whole text that is within one of its parts is a boundary of that part. -/
theorem isBoundary_append (h : offset ≤ text.bytes) :
    isBoundary (above ++ text ++ below) (above.bytes + offset) = isBoundary text offset := by
  rw [isBoundary, isBoundary, List.append_assoc, takeBytes_add, takeBytes_append_of_le h, bytes_append,
    Bool.eq_iff_iff]
  simp

/-- The scan for an offset passes the lines that end before it, each with its line feed. -/
theorem positionFrom_append (line : Nat) (lines : List Text) (raw : Text) (rest : List Text)
    (h : offset ≤ raw.bytes) :
    positionFrom line (lines ++ raw :: rest) (bytes (terminated lines) + offset) =
      ⟨line + lines.length, if isBoundary raw offset then units (takeBytes offset raw) else 0⟩ := by
  induction lines generalizing line with
  | nil =>
    have hmin : min offset raw.bytes = offset := Nat.min_eq_left h
    simp [positionFrom, terminated, Nat.not_lt.mpr h, hmin]
  | cons l ls ih =>
    have hfeed : bytes (terminated (l :: ls)) = l.bytes + 1 + bytes (terminated ls) := by
      rw [bytes_terminated, bytes_terminated, List.foldr_cons]
    have hpast : l.bytes < bytes (terminated (l :: ls)) + offset := by omega
    have hmore : (ls ++ raw :: rest).isEmpty = false := by simp
    have hleft : bytes (terminated (l :: ls)) + offset - (l.bytes + 1) =
        bytes (terminated ls) + offset := by omega
    rw [List.cons_append, positionFrom, hmore, hleft, ih, List.length_cons]
    simp only [hpast, decide_true, Bool.not_false, Bool.and_true, if_true]
    rw [Nat.add_assoc, Nat.add_comm 1]

theorem Divided.positionAt (h : Divided s line above (before ++ after) below) :
    s.positionAt (above ++ before).bytes = ⟨line, before.units⟩ := by
  obtain ⟨lines, raw, rest, hlines, rfl, htext⟩ := exists_rawLine h.lineText
  have habove : above.bytes = bytes (terminated lines) := by
    have hstart := lineStart?_of_rawLines hlines (List.cons_ne_nil raw rest)
    exact Option.some.inj (h.start.symm.trans hstart)
  obtain ⟨final, hraw⟩ : ∃ final, raw = before ++ (after ++ final) := by
    rcases exists_eq_dropReturn_append raw with ⟨hr, -⟩ | hr
    · exact ⟨[], by rw [hr, htext, List.append_nil]⟩
    · exact ⟨['\r'], by rw [hr, htext, List.append_assoc]⟩
  have hle : before.bytes ≤ raw.bytes := by
    rw [hraw, bytes_append]
    omega
  rw [Text.positionAt, hlines, bytes_append, habove, positionFrom_append 0 lines raw rest hle, hraw,
    isBoundary_bytes, if_pos rfl, takeBytes_bytes_append, Nat.zero_add]

theorem takeUnits_of_le {text : Text} (h : text.units ≤ column) : takeUnits column text = text := by
  induction text generalizing column with
  | nil => cases column <;> rfl
  | cons c text ih =>
    have hpos := unitsOf_pos c
    rw [units_cons] at h
    obtain ⟨n, rfl⟩ := Nat.exists_eq_succ_of_ne_zero (show column ≠ 0 by omega)
    rw [takeUnits, ih (by omega)]

theorem takeUnits_inside {c : Char} (hlow : before.units < column)
    (hhigh : column ≤ before.units + unitsOf c) (after : Text) :
    takeUnits column (before ++ c :: after) = before ++ [c] := by
  induction before generalizing column with
  | nil =>
    obtain ⟨n, rfl⟩ := Nat.exists_eq_succ_of_ne_zero (Nat.ne_of_gt hlow)
    have hrest : n + 1 - unitsOf c = 0 := by
      rw [units_nil] at hhigh
      omega
    rw [List.nil_append, takeUnits, hrest, takeUnits, List.nil_append]
  | cons d before ih =>
    have hpos := unitsOf_pos d
    rw [units_cons] at hlow hhigh
    obtain ⟨n, rfl⟩ := Nat.exists_eq_succ_of_ne_zero (show column ≠ 0 by omega)
    rw [List.cons_append, takeUnits, ih (by omega) (by omega), List.cons_append]

/-- A line of the text with the text `text`, which starts at the offset `start`: its offsets at
character boundaries lead to their positions and back, and so do its columns that are not inside a
character. A column inside a character leads to the offset after it, a column past the end of the
line's text to that end. -/
structure Inverts (s : Text) (line start : Nat) (text : Text) : Prop where
  offset : ∀ offset, s.isBoundary offset = true → start ≤ offset → offset ≤ start + text.bytes →
    (s.positionAt offset).line = line ∧ s.offsetAt (s.positionAt offset) = offset
  position : ∀ before after : Text, text = before ++ after →
    s.offsetAt ⟨line, before.units⟩ = start + before.bytes ∧
      s.positionAt (s.offsetAt ⟨line, before.units⟩) = ⟨line, before.units⟩
  inside : ∀ (before : Text) (c : Char) (after : Text) (column : Nat), text = before ++ c :: after →
    before.units < column → column < before.units + unitsOf c →
      s.offsetAt ⟨line, column⟩ = start + bytes (before ++ [c])
  beyond : ∀ column, text.units ≤ column → s.offsetAt ⟨line, column⟩ = start + text.bytes

theorem Divided.inverts (h : Divided s line above text below) :
    Inverts s line above.bytes text where
  offset := by
    intro offset hboundary hstart hstop
    obtain ⟨k, rfl⟩ := Nat.exists_eq_add_of_le hstart
    rw [h.parts, isBoundary_append (Nat.le_of_add_le_add_left hstop)] at hboundary
    obtain ⟨before, after, rfl, rfl⟩ := exists_parts_of_isBoundary hboundary
    rw [← bytes_append, h.positionAt, h.offset_units]
    exact ⟨rfl, rfl⟩
  position := by
    rintro before after rfl
    rw [h.offset_units, h.positionAt]
    exact ⟨bytes_append above before, rfl⟩
  inside := by
    rintro before c after column rfl hlow hhigh
    rw [h.offset, takeUnits_inside hlow (Nat.le_of_lt hhigh)]
  beyond := by
    intro column hle
    rw [h.offset, takeUnits_of_le hle]

theorem offsetFrom_of_length_le {lines : List Text} (h : lines.length ≤ line) (column : Nat) :
    offsetFrom lines line column = bytes (join ['\n'] lines) := by
  induction lines generalizing line with
  | nil => rfl
  | cons l ls ih =>
    cases line with
    | zero => simp at h
    | succ line =>
      have hrest := ih (Nat.le_of_succ_le_succ h)
      cases ls with
      | nil => simp [offsetFrom, join]
      | cons m ms =>
        have hjoin : join ['\n'] (l :: m :: ms) = l ++ ['\n'] ++ join ['\n'] (m :: ms) := rfl
        have hfeed : bytes ['\n'] = 1 := rfl
        rw [offsetFrom, hrest, hjoin, bytes_append, bytes_append, hfeed]
        rfl

/-- On every line of a text positions and offsets are inverse; below its last line there is only its
end. -/
theorem inverts_every_line (s : Text) :
    (∀ line text, s.lineText? line = some text →
      ∃ start, s.lineStart? line = some start ∧ Inverts s line start text) ∧
    ∀ line column, s.lineText? line = none → s.offsetAt ⟨line, column⟩ = s.bytes := by
  constructor
  · intro line text h
    obtain ⟨above, below, hdiv⟩ := exists_divided h
    exact ⟨above.bytes, hdiv.start, hdiv.inverts⟩
  · intro line column h
    rw [offsetAt, offsetFrom_of_length_le (lineText?_eq_none_iff.mp h), join_rawLines]

theorem inverts_beside_pair :
    let s : Text := "é\r\na𝒳\r".toList
    s.lineText? 1 = some "a𝒳".toList ∧ s.lineText? 2 = none ∧
      s.isBoundary 5 = true ∧ s.offsetAt (s.positionAt 5) = 5 ∧
      s.positionAt (s.offsetAt ⟨1, 3⟩) = ⟨1, 3⟩ ∧
      s.offsetAt ⟨1, 2⟩ = 9 ∧ s.offsetAt ⟨1, 8⟩ = 9 ∧ s.offsetAt ⟨2, 0⟩ = 10 := by
  intro s
  have hline : s.lineText? 1 = some "a𝒳".toList := by decide
  have hnone : s.lineText? 2 = none := by decide
  have hboundary : s.isBoundary 5 = true := by decide
  obtain ⟨hlines, hend⟩ := inverts_every_line s
  obtain ⟨start, hstart, hinverts⟩ := hlines 1 _ hline
  have hfour : s.lineStart? 1 = some 4 := by decide
  obtain rfl := Option.some.inj (hfour.symm.trans hstart)
  exact ⟨hline, hnone, hboundary, (hinverts.offset 5 hboundary (by decide) (by decide)).2,
    (hinverts.position ['a', '𝒳'] [] rfl).2,
    hinverts.inside ['a'] '𝒳' [] 2 rfl (by decide) (by decide),
    hinverts.beyond 8 (by decide), hend 2 0 hnone⟩

section Size

theorem unitsOf_le_utf8Size (c : Char) : unitsOf c ≤ c.utf8Size := by
  unfold unitsOf
  split
  next => exact c.utf8Size_pos
  next h =>
    have hsize : ¬c.val ≤ 0x7f ∧ ¬c.val ≤ 0x7ff := by
      simp only [UInt32.le_iff_toNat_le]
      change ¬c.toNat ≤ 127 ∧ ¬c.toNat ≤ 2047
      omega
    have htwo : 2 ≤ c.utf8Size := by
      simp only [Char.utf8Size]
      split
      next hle => exact absurd hle hsize.1
      next =>
        split
        next hle => exact absurd hle hsize.2
        next => split <;> omega
    exact htwo

theorem units_le_bytes (s : Text) : s.units ≤ s.bytes := by
  induction s with
  | nil => exact Nat.le_refl 0
  | cons c s ih =>
    rw [units_cons, bytes_cons]
    exact Nat.add_le_add (unitsOf_le_utf8Size c) ih

theorem length_le_bytes (s : Text) : s.length ≤ s.bytes := by
  induction s with
  | nil => exact Nat.le_refl 0
  | cons c s ih =>
    rw [List.length_cons, bytes_cons, Nat.add_comm]
    exact Nat.add_le_add c.utf8Size_pos ih

theorem lineCount_le_bytes (s : Text) : s.lineCount ≤ s.bytes + 1 := by
  rw [lineCount_eq]
  exact Nat.succ_le_succ (Nat.le_trans List.count_le_length (length_le_bytes s))

theorem bytes_le_of_mem_rawLines {raw : Text} (h : raw ∈ rawLines s) : raw.bytes ≤ s.bytes := by
  obtain ⟨lines, rest, hlines⟩ := List.append_of_mem h
  obtain ⟨t, hs, ht⟩ := exists_rest_of_rawLines hlines (List.cons_ne_nil raw rest)
  have hjoin : t = join ['\n'] (raw :: rest) := by rw [← ht, join_rawLines]
  rw [hs, bytes_append, hjoin]
  cases rest with
  | nil => exact Nat.le_add_left _ _
  | cons next rest =>
    rw [join, bytes_append, bytes_append]
    · omega
    · exact List.cons_ne_nil next rest

theorem bytes_le_of_lineText? {text : Text} (h : s.lineText? line = some text) :
    text.bytes ≤ s.bytes := by
  obtain ⟨lines, raw, rest, hlines, -, rfl⟩ := exists_rawLine h
  have hraw : raw.bytes ≤ s.bytes := bytes_le_of_mem_rawLines (by simp [hlines])
  rcases exists_eq_dropReturn_append raw with ⟨hsame, -⟩ | hreturn
  · rwa [← hsame]
  · rw [hreturn, bytes_append] at hraw
    omega

/-- The scan ends on one of the lines, and no further along it than it has bytes. -/
theorem positionFrom_le {bound : Nat} {lines : List Text}
    (hlines : ∀ raw ∈ lines, raw.bytes ≤ bound) (line offset : Nat) :
    (positionFrom line lines offset).line ≤ line + lines.length ∧
      (positionFrom line lines offset).character ≤ bound := by
  induction lines generalizing line offset with
  | nil => exact ⟨Nat.le_refl line, Nat.zero_le bound⟩
  | cons raw rest ih =>
    obtain ⟨hraw, hrest⟩ := List.forall_mem_cons.mp hlines
    rw [positionFrom]
    split
    next =>
      obtain ⟨hline, hcharacter⟩ := ih hrest (line + 1) (offset - (raw.bytes + 1))
      rw [List.length_cons]
      exact ⟨by omega, hcharacter⟩
    next =>
      refine ⟨Nat.le_add_right line _, ?_⟩
      dsimp only
      split
      next =>
        have hunits := units_le_bytes (takeBytes (min offset raw.bytes) raw)
        have htaken := bytes_takeBytes_le (min offset raw.bytes) raw
        omega
      next => exact Nat.zero_le bound

/-- The lines and columns of a text of less than four gigabytes are numbers of 32 bits. -/
theorem counts_lt_of_bytes_lt (h : s.bytes + 1 < 4294967296) :
    s.lineCount < 4294967296 ∧
      (∀ line text, s.lineText? line = some text → text.units < 4294967296) ∧
      ∀ offset, (s.positionAt offset).line < 4294967296 ∧
        (s.positionAt offset).character < 4294967296 := by
  have hcount := lineCount_le_bytes s
  refine ⟨by omega, fun line text hline => ?_, fun offset => ?_⟩
  · have hunits := units_le_bytes text
    have htext := bytes_le_of_lineText? hline
    omega
  · obtain ⟨hline, hcharacter⟩ := positionFrom_le (fun raw => bytes_le_of_mem_rawLines) 0 offset
    rw [Nat.zero_add, ← lineCount] at hline
    exact ⟨Nat.lt_of_le_of_lt hline (by omega), Nat.lt_of_le_of_lt hcharacter (by omega)⟩

end Size

end ProofDesk.Text
