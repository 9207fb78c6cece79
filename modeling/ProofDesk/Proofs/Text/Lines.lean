import Mathlib.Data.List.Basic
import ProofDesk.Text.Lines

namespace ProofDesk.Text

def terminated (lines : List Text) : Text :=
  lines.flatMap fun l => l ++ ['\n']

def lineTexts (s : Text) : List Text :=
  (rawLines s).map dropReturn

variable {s text above below : Text} {line : Nat}

theorem rawLines_ne_nil (s : Text) : rawLines s ≠ [] :=
  split_ne_nil '\n' s

theorem dropReturn_append_return (s : Text) : dropReturn (s ++ ['\r']) = s := by
  simp [dropReturn, dropLast?]

theorem dropReturn_of_getLast? (h : s.getLast? ≠ some '\r') : dropReturn s = s := by
  simp [dropReturn, dropLast?, h]

theorem exists_eq_dropReturn_append (s : Text) :
    s = dropReturn s ∧ s.getLast? ≠ some '\r' ∨ s = dropReturn s ++ ['\r'] := by
  by_cases h : s.getLast? = some '\r'
  · obtain ⟨init, hs⟩ := List.getLast?_eq_some_iff.mp h
    rw [hs, dropReturn_append_return]
    exact Or.inr rfl
  · exact Or.inl ⟨(dropReturn_of_getLast? h).symm, h⟩

theorem dropReturn_eq_self_iff : dropReturn s = s ↔ s.getLast? ≠ some '\r' := by
  constructor
  · intro h hr
    obtain ⟨init, rfl⟩ := List.getLast?_eq_some_iff.mp hr
    rw [dropReturn_append_return] at h
    simp at h
  · exact dropReturn_of_getLast?

theorem exists_rawLine (h : s.lineText? line = some text) :
    ∃ above raw below, rawLines s = above ++ raw :: below ∧ above.length = line ∧
      dropReturn raw = text := by
  obtain ⟨raw, hraw, htext⟩ := Option.map_eq_some_iff.mp h
  obtain ⟨hlt, hget⟩ := List.getElem?_eq_some_iff.mp hraw
  refine ⟨(rawLines s).take line, raw, (rawLines s).drop (line + 1), ?_, ?_, htext⟩
  · rw [← hget, List.getElem_cons_drop, List.take_append_drop]
  · exact List.length_take_of_le (Nat.le_of_lt hlt)

theorem noFeed_of_rawLines {lines rest : List Text} (h : rawLines s = lines ++ rest) :
    ∀ l ∈ lines, '\n' ∉ l := by
  intro l hl
  have hmem : l ∈ rawLines s := by
    rw [h]
    exact List.mem_append_left rest hl
  exact not_mem_of_mem_split hmem

theorem rawLines_terminated_append {lines : List Text} (h : ∀ l ∈ lines, '\n' ∉ l) (rest : Text) :
    rawLines (terminated lines ++ rest) = lines ++ rawLines rest := by
  induction lines with
  | nil => rfl
  | cons l ls ih =>
    obtain ⟨hl, hls⟩ := List.forall_mem_cons.mp h
    have hcons : terminated (l :: ls) ++ rest = l ++ '\n' :: (terminated ls ++ rest) := by
      simp [terminated]
    rw [hcons, rawLines, split_append, split_of_not_mem hl, ← rawLines, ih hls]
    rfl

theorem rawLines_terminated {lines : List Text} (h : ∀ l ∈ lines, '\n' ∉ l) :
    rawLines (terminated lines) = lines ++ [[]] := by
  have happend := rawLines_terminated_append h []
  rwa [List.append_nil] at happend

theorem join_append {lines rest : List Text} (h : rest ≠ []) :
    join ['\n'] (lines ++ rest) = terminated lines ++ join ['\n'] rest := by
  induction lines with
  | nil => rfl
  | cons l ls ih =>
    obtain ⟨m, ms, hm⟩ := List.exists_cons_of_ne_nil (List.append_ne_nil_of_right_ne_nil ls h)
    have hcons : join ['\n'] (l :: (ls ++ rest)) = l ++ ['\n'] ++ join ['\n'] (ls ++ rest) := by
      rw [hm, join]
      simp
    rw [List.cons_append, hcons, ih]
    simp [terminated]

/-- A text whose lines are known from some line on begins with the lines above that one. -/
theorem exists_rest_of_rawLines {lines rest : List Text} (h : rawLines s = lines ++ rest)
    (hrest : rest ≠ []) : ∃ t, s = terminated lines ++ t ∧ rawLines t = rest := by
  have hs : s = terminated lines ++ join ['\n'] rest := by
    rw [← join_append hrest, ← h, join_rawLines]
  refine ⟨join ['\n'] rest, hs, ?_⟩
  rw [hs, rawLines_terminated_append (noFeed_of_rawLines h)] at h
  exact List.append_cancel_left h

theorem eq_of_rawLines {lines : List Text} {last : Text} (h : rawLines s = lines ++ [last]) :
    s = terminated lines ++ last := by
  rw [← join_rawLines s, h, join_append (List.cons_ne_nil last [])]
  rfl

/-- The last line stands after the others, each of which has its line feed. -/
theorem exists_rawLines_eq (s : Text) :
    ∃ lines last, rawLines s = lines ++ [last] ∧ s = terminated lines ++ last ∧
      (∀ l ∈ lines, '\n' ∉ l) ∧ '\n' ∉ last := by
  obtain ⟨lines, last, h⟩ := (List.eq_nil_or_concat (rawLines s)).resolve_left (rawLines_ne_nil s)
  rw [List.concat_eq_append] at h
  have hlast : last ∈ rawLines s := by simp [h]
  exact ⟨lines, last, h, eq_of_rawLines h, noFeed_of_rawLines h, not_mem_of_mem_split hlast⟩

theorem exists_eq_terminated_append (s : Text) :
    ∃ lines last, s = terminated lines ++ last ∧ (∀ l ∈ lines, '\n' ∉ l) ∧ '\n' ∉ last := by
  obtain ⟨lines, last, -, h⟩ := exists_rawLines_eq s
  exact ⟨lines, last, h⟩

theorem lineTexts_of_not_mem (h : '\n' ∉ s) : lineTexts s = [dropReturn s] := by
  rw [lineTexts, rawLines, split_of_not_mem h]
  rfl

theorem lineTexts_append_feed (a b : Text) :
    lineTexts (a ++ '\n' :: b) = lineTexts a ++ lineTexts b := by
  rw [lineTexts, rawLines, split_append, List.map_append]
  rfl

theorem lineTexts_terminated_append {lines : List Text} (h : ∀ l ∈ lines, '\n' ∉ l)
    (rest : Text) :
    lineTexts (terminated lines ++ rest) = lines.map dropReturn ++ lineTexts rest := by
  rw [lineTexts, rawLines_terminated_append h, List.map_append]
  rfl

theorem listing_append_feed (s : Text) : listing (s ++ ['\n']) = lineTexts s := by
  have hpieces : split '\n' (s ++ ['\n']) = split '\n' s ++ [[]] := split_append '\n' s []
  simp [listing, hpieces, lineTexts, rawLines]

/-- A carriage return that ends a text belongs to no line. -/
theorem lineTexts_append_return (h : s.getLast? ≠ some '\r') :
    lineTexts (s ++ ['\r']) = lineTexts s := by
  obtain ⟨lines, last, rfl, hlines, hlast⟩ := exists_eq_terminated_append s
  have hend : last.getLast? ≠ some '\r' := by
    intro hr
    exact h (by rw [List.getLast?_append, hr]; rfl)
  have hreturn : '\n' ∉ last ++ ['\r'] := by simp [hlast]
  rw [List.append_assoc, lineTexts_terminated_append hlines, lineTexts_terminated_append hlines,
    lineTexts_of_not_mem hreturn, lineTexts_of_not_mem hlast, dropReturn_append_return,
    dropReturn_of_getLast? hend]

theorem terminated_append (lines more : List Text) :
    terminated (lines ++ more) = terminated lines ++ terminated more :=
  List.flatMap_append

theorem terminated_concat (lines : List Text) (raw : Text) :
    terminated (lines ++ [raw]) = terminated lines ++ raw ++ ['\n'] := by
  rw [terminated_append, List.append_assoc]
  simp [terminated]

theorem not_mem_terminated {c : Char} {lines : List Text} (hc : c ≠ '\n') (h : ∀ l ∈ lines, c ∉ l) :
    c ∉ terminated lines := by
  intro hmem
  obtain ⟨l, hl, hcl⟩ := List.mem_flatMap.mp hmem
  rcases List.mem_append.mp hcl with hcl | hcl
  · exact h l hl hcl
  · exact hc (List.mem_singleton.mp hcl)

theorem bytes_terminated (lines : List Text) :
    bytes (terminated lines) = lines.foldr (fun l n => bytes l + 1 + n) 0 := by
  induction lines with
  | nil => rfl
  | cons l ls ih =>
    have hcons : terminated (l :: ls) = l ++ '\n' :: terminated ls := by simp [terminated]
    have hfeed : Char.utf8Size '\n' = 1 := rfl
    rw [hcons, bytes_append, bytes_cons, ih, hfeed, List.foldr_cons]
    omega

theorem offsetFrom_append (lines : List Text) (raw : Text) (rest : List Text) (column : Nat) :
    offsetFrom (lines ++ raw :: rest) lines.length column =
      bytes (terminated lines) + bytes (takeUnits column (dropReturn raw)) := by
  induction lines with
  | nil => simp [offsetFrom, terminated]
  | cons l ls ih =>
    have hne : (ls ++ raw :: rest).isEmpty = false := by simp
    rw [bytes_terminated] at ih
    rw [List.cons_append, List.length_cons, offsetFrom, hne, ih, bytes_terminated, List.foldr_cons]
    simp only [Bool.false_eq_true, if_false]
    omega

theorem lineStart?_of_rawLines {lines rest : List Text} (h : rawLines s = lines ++ rest)
    (hrest : rest ≠ []) : s.lineStart? lines.length = some (terminated lines).bytes := by
  have hlt : lines.length < s.lineCount := by
    have := List.length_pos_iff.mpr hrest
    rw [lineCount, h, List.length_append]
    omega
  rw [lineStart?, if_pos hlt, h, List.take_left, bytes_terminated]

theorem offsetAt_of_rawLines {lines rest : List Text} (h : rawLines s = lines ++ rest)
    (hrest : rest ≠ []) : s.offsetAt ⟨lines.length, 0⟩ = (terminated lines).bytes := by
  obtain ⟨raw, further, rfl⟩ := List.exists_cons_of_ne_nil hrest
  have hfrom := offsetFrom_append lines raw further 0
  rw [← h] at hfrom
  simpa [offsetAt, takeUnits] using hfrom

theorem noFeed_of_lineText? (h : s.lineText? line = some text) : '\n' ∉ text := by
  obtain ⟨lines, raw, rest, hlines, -, rfl⟩ := exists_rawLine h
  have hraw : '\n' ∉ raw := by
    rw [List.append_cons] at hlines
    exact noFeed_of_rawLines hlines raw (by simp)
  intro hmem
  rcases exists_eq_dropReturn_append raw with ⟨hr, -⟩ | hr
  · exact hraw (hr ▸ hmem)
  · exact hraw (hr ▸ List.mem_append_left _ hmem)

theorem exists_eq_at_next (h : s.lineText? line = some text) (hnext : s.isLastLine line = false) :
    ∃ lines rest, s = terminated lines ++ rest ∧ lines.length = line + 1 ∧
      (∀ l ∈ lines, '\n' ∉ l) ∧ s.offsetAt ⟨line + 1, 0⟩ = (terminated lines).bytes := by
  obtain ⟨lines, raw, rest, hlines, hlength, -⟩ := exists_rawLine h
  rw [List.append_cons] at hlines
  have hrest : rest ≠ [] := by
    rintro rfl
    simp [isLastLine, lineCount, hlines, hlength] at hnext
  obtain ⟨t, hs, -⟩ := exists_rest_of_rawLines hlines hrest
  have hline : (lines ++ [raw]).length = line + 1 := by simp [hlength]
  refine ⟨lines ++ [raw], t, hs, hline, noFeed_of_rawLines hlines, ?_⟩
  rw [← hline, offsetAt_of_rawLines hlines hrest]

/-- The place after the text of the last line; a carriage return at most comes after it. -/
theorem exists_eq_at_last (h : s.lineText? line = some text) (hlast : s.isLastLine line = true) :
    ∃ lines final, s = (terminated lines ++ text) ++ final ∧ lines.length = line ∧
      (∀ l ∈ lines, '\n' ∉ l) ∧
      (final = [] ∧ text.getLast? ≠ some '\r' ∨ final = ['\r']) ∧
      s.offsetAt ⟨line, text.units⟩ = (terminated lines ++ text).bytes := by
  obtain ⟨lines, raw, rest, hlines, hlength, htext⟩ := exists_rawLine h
  have hrest : rest = [] := by
    have hle : s.lineCount ≤ line + 1 := by simpa [isLastLine] using hlast
    have hcount : s.lineCount = lines.length + (rest.length + 1) := by simp [lineCount, hlines]
    exact List.length_eq_zero_iff.mp (by omega)
  subst hrest
  have hs := eq_of_rawLines hlines
  have hoffset : s.offsetAt ⟨line, text.units⟩ = (terminated lines ++ text).bytes := by
    have htake := takeUnits_units_append text []
    rw [List.append_nil] at htake
    rw [offsetAt, hlines, ← hlength, offsetFrom_append, htext, htake, bytes_append]
  rcases exists_eq_dropReturn_append raw with ⟨hr, hend⟩ | hr
  · rw [htext] at hr
    refine ⟨lines, [], ?_, hlength, noFeed_of_rawLines hlines, Or.inl ⟨rfl, hr ▸ hend⟩, hoffset⟩
    rw [hs, hr, List.append_nil]
  · rw [htext] at hr
    refine ⟨lines, ['\r'], ?_, hlength, noFeed_of_rawLines hlines, Or.inr rfl, hoffset⟩
    rw [hs, hr, List.append_assoc]

/-- `text` is the text of the line; `above` stands before it and `below` after it. -/
structure Divided (s : Text) (line : Nat) (above text below : Text) : Prop where
  parts : s = above ++ text ++ below
  lineText : s.lineText? line = some text
  start : s.lineStart? line = some above.bytes
  offset : ∀ column, s.offsetAt ⟨line, column⟩ = above.bytes + (takeUnits column text).bytes

theorem exists_parts_of_rawLines {lines rest : List Text} {raw : Text}
    (h : rawLines s = lines ++ raw :: rest) : ∃ after, s = terminated lines ++ raw ++ after := by
  cases rest with
  | nil => exact ⟨[], by rw [List.append_nil, ← eq_of_rawLines h]⟩
  | cons l ls =>
    rw [List.append_cons] at h
    obtain ⟨t, hs, -⟩ := exists_rest_of_rawLines h (List.cons_ne_nil l ls)
    exact ⟨['\n'] ++ t, by rw [hs, terminated_concat, List.append_assoc]⟩

/-- A line with the lines above it, each of which ends with its line feed. -/
theorem exists_divided_lines (h : s.lineText? line = some text) :
    ∃ lines rest below, rawLines s = lines ++ rest ∧ rest ≠ [] ∧ lines.length = line ∧
      Divided s line (terminated lines) text below := by
  obtain ⟨lines, raw, rest, hlines, rfl, htext⟩ := exists_rawLine h
  obtain ⟨after, hs⟩ := exists_parts_of_rawLines hlines
  obtain ⟨below, hparts⟩ : ∃ below, s = terminated lines ++ text ++ below := by
    rcases exists_eq_dropReturn_append raw with ⟨hr, -⟩ | hr
    · exact ⟨after, by rw [← htext, ← hr, hs]⟩
    · exact ⟨['\r'] ++ after, by rw [hs, hr, htext, ← List.append_assoc, ← List.append_assoc]⟩
  have hne := List.cons_ne_nil raw rest
  refine ⟨lines, raw :: rest, below, hlines, hne, rfl, hparts, h,
    lineStart?_of_rawLines hlines hne, ?_⟩
  intro column
  rw [offsetAt, hlines, offsetFrom_append, htext]

theorem exists_divided (h : s.lineText? line = some text) :
    ∃ above below, Divided s line above text below := by
  obtain ⟨lines, -, below, -, -, -, hdiv⟩ := exists_divided_lines h
  exact ⟨terminated lines, below, hdiv⟩

/-- A line of the text, with the start of a line at or above it. -/
theorem exists_divided_below {target : Nat} (h : s.lineText? line = some text)
    (hle : target ≤ line) :
    ∃ front between below, s.lineStart? target = some front.bytes ∧
      s.offsetAt ⟨target, 0⟩ = front.bytes ∧ Divided s line (front ++ between) text below := by
  obtain ⟨lines, rest, below, hlines, hrest, rfl, hdiv⟩ := exists_divided_lines h
  have hcut : rawLines s = lines.take target ++ (lines.drop target ++ rest) := by
    rw [hlines, ← List.append_assoc, List.take_append_drop]
  have hmore : lines.drop target ++ rest ≠ [] := List.append_ne_nil_of_right_ne_nil _ hrest
  have hlength : (lines.take target).length = target := List.length_take_of_le hle
  refine ⟨terminated (lines.take target), terminated (lines.drop target), below, ?_, ?_, ?_⟩
  · rw [← lineStart?_of_rawLines hcut hmore, hlength]
  · rw [← offsetAt_of_rawLines hcut hmore, hlength]
  · rwa [← terminated_append, List.take_append_drop]

theorem Divided.offset_units {before after : Text}
    (h : Divided s line above (before ++ after) below) :
    s.offsetAt ⟨line, before.units⟩ = (above ++ before).bytes := by
  rw [h.offset, takeUnits_units_append, bytes_append]

end ProofDesk.Text
