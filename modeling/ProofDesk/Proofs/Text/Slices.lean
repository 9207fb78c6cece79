import ProofDesk.Proofs.Text.Positions

namespace ProofDesk.Text

/-- The part between two byte offsets; nothing if they are the wrong way round, behind the end or
inside a character. -/
def slice? (s : Text) (start stop : Nat) : Option Text :=
  if start ≤ stop ∧ s.isBoundary start ∧ s.isBoundary stop then some (s.slice start stop) else none

/-- Where a line ends, its carriage return included: at the line feed before the next line, the last
line at the end of the text. -/
def lineStop (s : Text) (line : Nat) : Nat :=
  match s.lineStart? (line + 1) with
  | some next => next - 1
  | none => s.bytes

variable {s text part : Text} {line column start stop : Nat} {p q : Position}

theorem slice?_eq_some_iff : s.slice? start stop = some part ↔
    ∃ before after, s = before ++ part ++ after ∧ before.bytes = start ∧
      (before ++ part).bytes = stop := by
  constructor
  · intro h
    obtain ⟨⟨hle, hstart, hstop⟩, hpart⟩ := Option.ite_none_right_eq_some.mp h
    obtain ⟨before, rest, rfl, rfl⟩ := exists_parts_of_isBoundary hstart
    obtain ⟨k, rfl⟩ := Nat.exists_eq_add_of_le hle
    have hinner : takeBytes k rest = part := by
      have hcut := Option.some.inj hpart
      rwa [slice, Nat.add_sub_cancel_left, dropBytes_bytes_append] at hcut
    have hstop' : bytes (before ++ part) = before.bytes + k := by
      rw [isBoundary, takeBytes_add, hinner] at hstop
      exact beq_iff_eq.mp hstop
    refine ⟨before, dropBytes k rest, ?_, rfl, hstop'⟩
    rw [List.append_assoc, ← hinner, takeBytes_append_dropBytes]
  · rintro ⟨before, after, rfl, rfl, rfl⟩
    have hle : before.bytes ≤ (before ++ part).bytes := by
      rw [bytes_append]
      omega
    have hstart := isBoundary_bytes before (part ++ after)
    rw [← List.append_assoc] at hstart
    rw [slice?, if_pos ⟨hle, hstart, isBoundary_bytes (before ++ part) after⟩, slice_bytes_append]

theorem slice?_of_isBoundary (hle : start ≤ stop) (hstart : s.isBoundary start = true)
    (hstop : s.isBoundary stop = true) : s.slice? start stop = some (s.slice start stop) :=
  if_pos ⟨hle, hstart, hstop⟩

theorem slice?_append {middle : Nat} {first second : Text}
    (hfirst : s.slice? start middle = some first) (hsecond : s.slice? middle stop = some second) :
    s.slice? start stop = some (first ++ second) := by
  obtain ⟨before, rest, rfl, rfl, hmiddle⟩ := slice?_eq_some_iff.mp hfirst
  obtain ⟨front, after, hparts, hfront, rfl⟩ := slice?_eq_some_iff.mp hsecond
  -- what stands before the place where they meet is told by its number of bytes
  have hmeet : before ++ first = front := by
    have hbefore := takeBytes_bytes_append (before ++ first) rest
    rwa [hparts, hmiddle, ← hfront, List.append_assoc, takeBytes_bytes_append, eq_comm] at hbefore
  refine slice?_eq_some_iff.mpr ⟨before, after, ?_, rfl, ?_⟩
  · rw [hparts, ← hmeet]
    simp
  · rw [← hmeet]
    simp

theorem takeUnits_prefix_of_le {column' : Nat} (h : column ≤ column') (text : Text) :
    takeUnits column text <+: takeUnits column' text := by
  induction text generalizing column column' with
  | nil => cases column <;> cases column' <;> exact List.prefix_rfl
  | cons c text ih =>
    cases column with
    | zero => exact List.nil_prefix
    | succ n =>
      obtain ⟨m, rfl⟩ := Nat.exists_eq_succ_of_ne_zero (show column' ≠ 0 by omega)
      have htail := ih (show n + 1 - unitsOf c ≤ m + 1 - unitsOf c by omega)
      exact (List.prefix_cons_inj c).mpr htail

theorem bytes_le_of_isPrefix {a b : Text} (h : a <+: b) : a.bytes ≤ b.bytes := by
  obtain ⟨rest, rfl⟩ := h
  rw [bytes_append]
  omega

theorem dropReturn_isPrefix (text : Text) : dropReturn text <+: text := by
  rcases exists_eq_dropReturn_append text with ⟨h, -⟩ | h
  · exact h ▸ List.prefix_rfl
  · exact ⟨['\r'], h.symm⟩

theorem offsetFrom_le_of_le (lines : List Text) (h : p ≤ q) :
    offsetFrom lines p.line p.character ≤ offsetFrom lines q.line q.character := by
  obtain ⟨line, column⟩ := p
  obtain ⟨line', column'⟩ := q
  change line < line' ∨ line = line' ∧ column ≤ column' at h
  change offsetFrom lines line column ≤ offsetFrom lines line' column'
  -- both scans pass the same lines until the first position is on the line at hand
  induction lines generalizing line line' with
  | nil => exact Nat.le_refl 0
  | cons l lines ih =>
    cases line with
    | zero =>
      cases line' with
      | zero =>
        have hcolumn : column ≤ column' := by omega
        exact bytes_le_of_isPrefix (takeUnits_prefix_of_le hcolumn (dropReturn l))
      | succ line' =>
        have hbegin := takeUnits_prefix column (dropReturn l)
        have hcolumn := bytes_le_of_isPrefix (hbegin.trans (dropReturn_isPrefix l))
        rw [offsetFrom, offsetFrom]
        omega
    | succ line =>
      obtain ⟨n, rfl⟩ := Nat.exists_eq_succ_of_ne_zero (show line' ≠ 0 by omega)
      have hbelow := ih line n (by omega)
      rw [offsetFrom, offsetFrom]
      omega

theorem offsetAt_le_offsetAt (s : Text) (h : p ≤ q) : s.offsetAt p ≤ s.offsetAt q :=
  offsetFrom_le_of_le (rawLines s) h

theorem exists_parts_of_offsetAt (s : Text) (p : Position) :
    ∃ before after, s = before ++ after ∧ before.bytes = s.offsetAt p := by
  cases hline : s.lineText? p.line with
  | none =>
    have hend : s.offsetAt p = s.bytes := by
      rw [offsetAt, offsetFrom_of_length_le (lineText?_eq_none_iff.mp hline), join_rawLines]
    exact ⟨s, [], (List.append_nil s).symm, hend.symm⟩
  | some text =>
    obtain ⟨above, below, hdiv⟩ := exists_divided hline
    obtain ⟨rest, htext⟩ := takeUnits_prefix p.character text
    refine ⟨above ++ takeUnits p.character text, rest ++ below, ?_, ?_⟩
    · rw [List.append_assoc, ← List.append_assoc _ rest, htext, ← List.append_assoc]
      exact hdiv.parts
    · rw [bytes_append]
      exact (hdiv.offset p.character).symm

theorem isBoundary_offsetAt (s : Text) (p : Position) : s.isBoundary (s.offsetAt p) = true := by
  obtain ⟨before, after, rfl, hbytes⟩ := exists_parts_of_offsetAt s p
  rw [← hbytes]
  exact isBoundary_bytes before after

theorem offsetAt_le_bytes (s : Text) (p : Position) : s.offsetAt p ≤ s.bytes := by
  obtain ⟨before, after, hs, hbytes⟩ := exists_parts_of_offsetAt s p
  rw [← hbytes]
  exact bytes_le_of_isPrefix ⟨after, hs.symm⟩

theorem slice?_textIn (s : Text) (r : Range) :
    s.slice? (s.offsetAt r.start) (max (s.offsetAt r.stop) (s.offsetAt r.start)) =
      some (s.textIn r) := by
  have hstop : s.isBoundary (max (s.offsetAt r.stop) (s.offsetAt r.start)) = true := by
    rcases Nat.le_total (s.offsetAt r.stop) (s.offsetAt r.start) with hle | hle
    · rw [Nat.max_eq_right hle]
      exact isBoundary_offsetAt s r.start
    · rw [Nat.max_eq_left hle]
      exact isBoundary_offsetAt s r.stop
  exact slice?_of_isBoundary (Nat.le_max_right _ _) (isBoundary_offsetAt s r.start) hstop

theorem slice?_textIn_of_le (s : Text) (h : p ≤ q) :
    s.slice? (s.offsetAt p) (s.offsetAt q) = some (s.textIn ⟨p, q⟩) := by
  have hslice := slice?_textIn s ⟨p, q⟩
  rwa [Nat.max_eq_left (offsetAt_le_offsetAt s h)] at hslice

theorem lineStop_of_rawLines {lines rest : List Text} {raw : Text}
    (h : rawLines s = lines ++ raw :: rest) :
    s.lineStop lines.length = (terminated lines ++ raw).bytes := by
  cases rest with
  | nil =>
    have hlast : s.lineStart? (lines.length + 1) = none := by
      rw [lineStart?_eq_none_iff, lineCount, h]
      simp
    rw [lineStop, hlast, ← eq_of_rawLines h]
  | cons l ls =>
    rw [List.append_cons] at h
    have hnext := lineStart?_of_rawLines h (List.cons_ne_nil l ls)
    have hfeed : bytes ['\n'] = 1 := rfl
    rw [List.length_append, List.length_singleton, terminated_concat, bytes_append, hfeed] at hnext
    rw [lineStop, hnext]
    exact Nat.add_sub_cancel _ 1

/-- The text of a line is the slice from its start to its end, without the carriage return that may
end it. -/
theorem exists_slice?_line (h : s.lineStart? line = some start) :
    ∃ raw, s.slice? start (s.lineStop line) = some raw ∧
      s.lineText? line = some (dropReturn raw) := by
  obtain ⟨text, htext⟩ : ∃ text, s.lineText? line = some text := by
    rw [← Option.ne_none_iff_exists', Ne, lineText?_eq_none_iff, ← lineStart?_eq_none_iff, h]
    exact Option.some_ne_none start
  obtain ⟨lines, raw, rest, hlines, rfl, hraw⟩ := exists_rawLine htext
  obtain rfl : (terminated lines).bytes = start := by
    have hstart := lineStart?_of_rawLines hlines (List.cons_ne_nil raw rest)
    exact Option.some.inj (hstart.symm.trans h)
  obtain ⟨after, hs⟩ := exists_parts_of_rawLines hlines
  have hstop := lineStop_of_rawLines hlines
  refine ⟨raw, slice?_eq_some_iff.mpr ⟨terminated lines, after, hs, rfl, hstop.symm⟩, ?_⟩
  rw [htext, hraw]

/-- Positions have their offsets in their order, in the text and between characters. So lines and
ranges, reversed ones too, are read as slices, and the texts of two ranges that meet make up the text
of the range over both. -/
theorem slices_at_positions (s : Text) :
    (∀ p q : Position, p ≤ q → s.offsetAt p ≤ s.offsetAt q) ∧
    (∀ p, s.offsetAt p ≤ s.bytes ∧ s.isBoundary (s.offsetAt p) = true) ∧
    (∀ line start, s.lineStart? line = some start →
      ∃ raw, s.slice? start (s.lineStop line) = some raw ∧
        s.lineText? line = some (dropReturn raw)) ∧
    (∀ r : Range, s.slice? (s.offsetAt r.start) (max (s.offsetAt r.stop) (s.offsetAt r.start)) =
      some (s.textIn r)) ∧
    ∀ p q r : Position, p ≤ q → q ≤ r → s.textIn ⟨p, q⟩ ++ s.textIn ⟨q, r⟩ = s.textIn ⟨p, r⟩ := by
  refine ⟨fun p q h => offsetAt_le_offsetAt s h,
    fun p => ⟨offsetAt_le_bytes s p, isBoundary_offsetAt s p⟩,
    fun line start h => exists_slice?_line h, slice?_textIn s, ?_⟩
  intro p q r hpq hqr
  have hfirst := slice?_textIn_of_le s hpq
  have hsecond := slice?_textIn_of_le s hqr
  have hle : s.offsetAt p ≤ s.offsetAt r :=
    Nat.le_trans (offsetAt_le_offsetAt s hpq) (offsetAt_le_offsetAt s hqr)
  have hboth := slice?_textIn s ⟨p, r⟩
  rw [Nat.max_eq_left hle, slice?_append hfirst hsecond] at hboth
  exact Option.some.inj hboth

/-- Past the end of a line, inside a pair of UTF-16 units and below the last line. -/
theorem slices_around_pair :
    let s : Text := "é\r\na𝒳\r".toList
    let p : Position := ⟨0, 9⟩
    let q : Position := ⟨1, 2⟩
    let r : Position := ⟨7, 0⟩
    p ≤ q ∧ q ≤ r ∧ s.offsetAt p ≤ s.offsetAt q ∧ s.offsetAt q ≤ s.offsetAt r ∧
      (∃ raw, s.slice? 4 (s.lineStop 1) = some raw ∧ s.lineText? 1 = some (dropReturn raw)) ∧
      s.slice? (s.offsetAt r) (max (s.offsetAt q) (s.offsetAt r)) = some (s.textIn ⟨r, q⟩) ∧
      s.textIn ⟨p, q⟩ ++ s.textIn ⟨q, r⟩ = "\r\na𝒳\r".toList := by
  intro s p q r
  have hpq : p ≤ q := by decide
  have hqr : q ≤ r := by decide
  obtain ⟨hle, -, hlines, hslice, hmeet⟩ := slices_at_positions s
  have hstart : s.lineStart? 1 = some 4 := by decide
  refine ⟨hpq, hqr, hle p q hpq, hle q r hqr, hlines 1 4 hstart, hslice ⟨r, q⟩, ?_⟩
  rw [hmeet p q r hpq hqr]
  decide

end ProofDesk.Text
