import ProofDesk.Proofs.Text.Lines

namespace ProofDesk.Text

/-- The text of a line and the terminator behind it. -/
structure Line where
  text : Text
  terminator : Text

namespace Line

def whole (l : Line) : Text :=
  l.text ++ l.terminator

/-- The terminator is `feed`, or a carriage return and `feed`; it takes the return where there is
one. -/
def EndsIn (l : Line) (feed : Text) : Prop :=
  l.terminator = feed ∧ l.text.getLast? ≠ some '\r' ∨ l.terminator = '\r' :: feed

def ofRaw (feed raw : Text) : Line :=
  ⟨dropReturn raw, if raw.getLast? = some '\r' then '\r' :: feed else feed⟩

theorem whole_ofRaw (feed raw : Text) : (ofRaw feed raw).whole = raw ++ feed := by
  by_cases h : raw.getLast? = some '\r'
  · obtain ⟨init, rfl⟩ := List.getLast?_eq_some_iff.mp h
    rw [whole, ofRaw, if_pos h, dropReturn_append_return, List.append_assoc]
    rfl
  · rw [whole, ofRaw, if_neg h, dropReturn_of_getLast? h]

theorem endsIn_ofRaw (feed raw : Text) : (ofRaw feed raw).EndsIn feed := by
  by_cases h : raw.getLast? = some '\r'
  · exact Or.inr (if_pos h)
  · refine Or.inl ⟨if_neg h, ?_⟩
    rw [ofRaw, dropReturn_of_getLast? h]
    exact h

end Line

/-- The lines that stand in a text as `raws`, each with a line feed behind it, and `last`. -/
def linesOf (raws : List Text) (last : Text) : List Line :=
  raws.map (Line.ofRaw ['\n']) ++ [Line.ofRaw [] last]

/-- The offsets behind the line feeds of a text that starts at the given offset. -/
def startsBehind (offset : Nat) : Text → List Nat
  | [] => []
  | c :: s =>
    if c = '\n' then (offset + 1) :: startsBehind (offset + 1) s
    else startsBehind (offset + c.utf8Size) s

def lineStarts (s : Text) : List Nat :=
  0 :: startsBehind 0 s

variable {s text last : Text} {raws : List Text} {line offset : Nat}

theorem length_linesOf (raws : List Text) (last : Text) :
    (linesOf raws last).length = raws.length + 1 := by
  simp [linesOf]

theorem map_text_linesOf (raws : List Text) (last : Text) :
    (linesOf raws last).map Line.text = (raws ++ [last]).map dropReturn := by
  rw [linesOf, List.map_append, List.map_append, List.map_map]
  rfl

theorem endsIn_of_mem_dropLast {l : Line} (h : l ∈ (linesOf raws last).dropLast) :
    l.EndsIn ['\n'] := by
  rw [linesOf, List.dropLast_concat] at h
  obtain ⟨raw, -, rfl⟩ := List.mem_map.mp h
  exact Line.endsIn_ofRaw ['\n'] raw

theorem endsIn_of_getLast? {l : Line} (h : (linesOf raws last).getLast? = some l) :
    l.EndsIn [] := by
  rw [linesOf, List.getLast?_concat] at h
  obtain rfl := Option.some.inj h
  exact Line.endsIn_ofRaw [] last

theorem flatMap_whole_ofRaw (raws : List Text) :
    (raws.map (Line.ofRaw ['\n'])).flatMap Line.whole = terminated raws := by
  rw [List.flatMap_map, terminated]
  exact List.flatMap_congr fun raw _ => Line.whole_ofRaw ['\n'] raw

theorem flatMap_whole_linesOf (raws : List Text) (last : Text) :
    (linesOf raws last).flatMap Line.whole = terminated raws ++ last := by
  rw [linesOf, List.flatMap_append, flatMap_whole_ofRaw, List.flatMap_singleton, Line.whole_ofRaw,
    List.append_nil]

theorem flatMap_whole_take_linesOf (h : line ≤ raws.length) (last : Text) :
    ((linesOf raws last).take line).flatMap Line.whole = terminated (raws.take line) := by
  have hle : line ≤ (raws.map (Line.ofRaw ['\n'])).length := by
    rw [List.length_map]
    exact h
  rw [linesOf, List.take_append_of_le_length hle, ← List.map_take, flatMap_whole_ofRaw]

theorem startsBehind_of_not_mem (h : '\n' ∉ s) : startsBehind offset s = [] := by
  induction s generalizing offset with
  | nil => rfl
  | cons c s ih =>
    rw [List.mem_cons, not_or] at h
    rw [startsBehind, if_neg (Ne.symm h.1), ih h.2]

theorem startsBehind_append_feed (h : '\n' ∉ text) (rest : Text) :
    startsBehind offset (text ++ '\n' :: rest) =
      (offset + text.bytes + 1) :: startsBehind (offset + text.bytes + 1) rest := by
  induction text generalizing offset with
  | nil => rfl
  | cons c text ih =>
    rw [List.mem_cons, not_or] at h
    rw [List.cons_append, startsBehind, if_neg (Ne.symm h.1), ih h.2, bytes_cons, Nat.add_assoc offset]

theorem getElem?_startsBehind (h : ∀ raw ∈ raws, '\n' ∉ raw) (hlast : '\n' ∉ last)
    (offset line : Nat) :
    (offset :: startsBehind offset (terminated raws ++ last))[line]? =
      if line ≤ raws.length then some (offset + (terminated (raws.take line)).bytes) else none := by
  induction raws generalizing offset line with
  | nil =>
    have hnone : startsBehind offset (terminated [] ++ last) = [] := startsBehind_of_not_mem hlast
    rw [hnone]
    cases line with
    | zero => rfl
    | succ line => rfl
  | cons raw raws ih =>
    obtain ⟨hraw, hraws⟩ := List.forall_mem_cons.mp h
    have hcons : terminated (raw :: raws) ++ last = raw ++ '\n' :: (terminated raws ++ last) := by
      simp [terminated]
    cases line with
    | zero => rfl
    | succ line =>
      have hbytes : (terminated (raw :: raws.take line)).bytes =
          raw.bytes + 1 + (terminated (raws.take line)).bytes := by
        rw [bytes_terminated, bytes_terminated, List.foldr_cons]
      rw [hcons, startsBehind_append_feed hraw, List.getElem?_cons_succ, ih hraws,
        List.take_succ_cons, hbytes, List.length_cons]
      simp only [Nat.add_le_add_iff_right, Nat.add_assoc]

theorem lineStart?_eq_ite (h : rawLines s = raws ++ [last]) :
    s.lineStart? line =
      if line ≤ raws.length then some (terminated (raws.take line)).bytes else none := by
  have hcount : line < s.lineCount ↔ line ≤ raws.length := by
    rw [lineCount, h, List.length_append, List.length_singleton]
    omega
  rw [lineStart?, ← bytes_terminated, h]
  by_cases hle : line ≤ raws.length
  · rw [if_pos (hcount.mpr hle), if_pos hle, List.take_append_of_le_length hle]
  · rw [if_neg (mt hcount.mp hle), if_neg hle]

theorem lineStart?_eq_getElem? (s : Text) (line : Nat) :
    s.lineStart? line = s.lineStarts[line]? := by
  obtain ⟨raws, last, hlines, hs, hraws, hlast⟩ := exists_rawLines_eq s
  have hpass := getElem?_startsBehind hraws hlast 0 line
  rw [← hs] at hpass
  rw [lineStart?_eq_ite hlines, lineStarts, hpass]
  simp only [Nat.zero_add]

theorem lineText?_eq_map (h : rawLines s = raws ++ [last]) :
    s.lineText? line = (linesOf raws last)[line]?.map Line.text := by
  rw [lineText?, h, ← List.getElem?_map, ← List.getElem?_map, map_text_linesOf]

theorem lineStart?_eq_map (h : rawLines s = raws ++ [last]) :
    s.lineStart? line = (linesOf raws last)[line]?.map fun _ =>
      bytes (((linesOf raws last).take line).flatMap Line.whole) := by
  have hlength := length_linesOf raws last
  rw [lineStart?_eq_ite h]
  by_cases hle : line ≤ raws.length
  · have hlt : line < (linesOf raws last).length := by omega
    rw [if_pos hle, List.getElem?_eq_getElem hlt, Option.map_some, flatMap_whole_take_linesOf hle]
  · have hge : (linesOf raws last).length ≤ line := by omega
    rw [if_neg hle, List.getElem?_eq_none hge, Option.map_none]

/-- Nothing is lost between the lines of a text: each is its text and its terminator, and together
they are the text. Their starts are where one pass over the text finds them, behind all that stands
above. -/
theorem lines_lossless (s : Text) :
    s.lineCount = s.count '\n' + 1 ∧
    (∀ line text, s.lineText? line = some text → '\n' ∉ text) ∧
    (∀ line, s.lineText? line = none ↔ s.lineCount ≤ line) ∧
    (∀ line, s.lineStart? line = s.lineStarts[line]?) ∧
    ∃ lines : List Line, lines.length = s.lineCount ∧ s = lines.flatMap Line.whole ∧
      (∀ l ∈ lines.dropLast, l.EndsIn ['\n']) ∧
      (∀ l, lines.getLast? = some l → l.EndsIn []) ∧
      (∀ line, s.lineText? line = lines[line]?.map Line.text) ∧
      ∀ line, s.lineStart? line =
        lines[line]?.map fun _ => bytes ((lines.take line).flatMap Line.whole) := by
  refine ⟨lineCount_eq s, fun line text => noFeed_of_lineText?, fun line => lineText?_eq_none_iff,
    lineStart?_eq_getElem? s, ?_⟩
  obtain ⟨raws, last, hlines, hs, -, -⟩ := exists_rawLines_eq s
  refine ⟨linesOf raws last, ?_, ?_, fun l => endsIn_of_mem_dropLast, fun l => endsIn_of_getLast?,
    fun line => lineText?_eq_map hlines, fun line => lineStart?_eq_map hlines⟩
  · rw [length_linesOf, lineCount, hlines, List.length_append, List.length_singleton]
  · rw [flatMap_whole_linesOf, ← hs]

theorem lines_around_returns :
    let s : Text := "a\r\r\nb\n\r".toList
    s.lineText? 0 = some "a\r".toList ∧ '\n' ∉ "a\r".toList ∧
      ∃ first second last : Line, s = first.whole ++ second.whole ++ last.whole ∧
        first.text = "a\r".toList ∧ first.terminator = "\r\n".toList ∧
        second.EndsIn ['\n'] ∧ last.EndsIn [] ∧ s.lineStart? 1 = some first.whole.bytes := by
  intro s
  have hline : s.lineText? 0 = some "a\r".toList := by decide
  obtain ⟨-, hfeed, -, -, lines, hlength, hs, hinner, hlast, htext, hstart⟩ := lines_lossless s
  have hcount : s.lineCount = 3 := by decide
  obtain ⟨first, second, last, rfl⟩ := List.length_eq_three.mp (hlength.trans hcount)
  have hfirst : first.text = "a\r".toList := Option.some.inj ((htext 0).symm.trans hline)
  have hfirstEnds : first.EndsIn ['\n'] := hinner first List.mem_cons_self
  refine ⟨hline, hfeed 0 _ hline, first, second, last, by simpa using hs, hfirst, ?_,
    hinner second (by simp), hlast last rfl, by simpa using hstart 1⟩
  rcases hfirstEnds with ⟨-, hno⟩ | hreturn
  · exact absurd (by rw [hfirst]; decide) hno
  · exact hreturn

end ProofDesk.Text
