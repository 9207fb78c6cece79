import ProofDesk.Proofs.Fix.Replacement

namespace ProofDesk

namespace Text

/-- The position is on a line of the text, and between two characters of that line or at one of its
ends. -/
def HasPosition (s : Text) (p : Position) : Prop :=
  ∃ before after, s.lineText? p.line = some (before ++ after) ∧ p.character = before.units

variable {s before part after : Text} {line : Nat}

theorem hasPosition_start (h : line < s.lineCount) : s.HasPosition ⟨line, 0⟩ := by
  cases hline : s.lineText? line with
  | none =>
    have hle := lineText?_eq_none_iff.mp hline
    omega
  | some text => exact ⟨[], text, hline, rfl⟩

theorem lt_lineCount {text : Text} (h : s.lineText? line = some text) : line < s.lineCount := by
  by_contra hle
  rw [lineText?_eq_none_iff.mpr (Nat.le_of_not_lt hle)] at h
  cases h

end Text

/-- The edit's range is one of the text: on the line, or empty and at the start of the next line. To
declare a derivation it may also be empty and at the start of that line or of one above. -/
structure Edit.Confined (e : Edit) (s : Text) (line : Nat) (tag : Tag) : Prop where
  ordered : e.range.start ≤ e.range.stop
  start : s.HasPosition e.range.start
  stop : s.HasPosition e.range.stop
  place : e.range.start.line = line ∧ e.range.stop.line = line ∨
    e.range = .point ⟨line + 1, 0⟩ ∨
    tag = .derivationNotFound ∧ ∃ l ≤ line, e.range = .point ⟨l, 0⟩

namespace Edit

variable {s new : Text} {line : Nat} {tag : Tag}

theorem confined_of_columns (before part after : Text)
    (h : s.lineText? line = some (before ++ part ++ after)) {r : Range}
    (hstart : r.start = ⟨line, before.units⟩) (hstop : r.stop = ⟨line, (before ++ part).units⟩) :
    Confined ⟨r, new⟩ s line tag where
  ordered := by
    refine Or.inr ?_
    simp [hstart, hstop]
  start := by
    refine ⟨before, part ++ after, ?_, ?_⟩ <;> simp [hstart, h]
  stop := by
    refine ⟨before ++ part, after, ?_, ?_⟩ <;> simp [hstop, h]
  place := by simp [hstart, hstop]

theorem confined_spanAfter (before part after : Text)
    (h : s.lineText? line = some (before ++ part ++ after)) :
    Confined ⟨Text.spanAfter line before part, new⟩ s line tag :=
  confined_of_columns before part after h rfl (by simp [Text.spanAfter])

theorem confined_point {l : Nat} (h : l < s.lineCount)
    (hplace : l = line ∨ l = line + 1 ∨ tag = .derivationNotFound ∧ l ≤ line) :
    Confined ⟨.point ⟨l, 0⟩, new⟩ s line tag where
  ordered := Or.inr ⟨rfl, Nat.le_refl 0⟩
  start := Text.hasPosition_start h
  stop := Text.hasPosition_start h
  place := by
    rcases hplace with rfl | rfl | ⟨htag, hle⟩
    · exact Or.inl ⟨rfl, rfl⟩
    · exact Or.inr (Or.inl rfl)
    · exact Or.inr (Or.inr ⟨htag, l, hle, rfl⟩)

end Edit

namespace Site

variable {p : Site} {tag : Tag}

theorem margin_prefix (p : Site) : p.margin <+: p.lineText :=
  List.takeWhile_prefix _

theorem confined_locate? {needle new : Text} {old : Range}
    (hline : p.document.lineText? p.line = some p.lineText) (h : p.locate? needle = some old) :
    Edit.Confined ⟨old, new⟩ p.document p.line tag := by
  unfold locate? at h
  by_cases hne : needle = []
  · simp [hne] at h
  rw [if_neg hne] at h
  split at h
  next before after hfind =>
    cases h
    rw [Text.eq_append_of_find? hfind] at hline
    exact Edit.confined_spanAfter before needle after hline
  next =>
    split_ifs at h
    cases h
    refine Edit.confined_spanAfter [] p.lineText [] ?_
    simpa using hline

theorem confined_insertAfter (hline : p.document.lineText? p.line = some p.lineText)
    (body : Text) : (p.insertAfter body).Confined p.document p.line tag := by
  unfold insertAfter
  split_ifs with hlast
  · refine Edit.confined_of_columns p.lineText [] [] ?_ rfl ?_
    · simpa using hline
    · simp [Range.point]
  · have hnext : p.line + 1 < p.document.lineCount := by
      simpa [Text.isLastLine] using hlast
    exact Edit.confined_point hnext (Or.inr (Or.inl rfl))

theorem confined_fillEllipsis? {fix : Fix}
    (hline : p.document.lineText? p.line = some p.lineText) (h : p.fillEllipsis? = some fix) :
    ∃ title e, fix = ⟨title, [e]⟩ ∧ e.Confined p.document p.line tag := by
  obtain ⟨new, -, h⟩ := Option.bind_eq_some_iff.mp h
  obtain ⟨⟨head, tail⟩, -, h⟩ := Option.bind_eq_some_iff.mp h
  obtain ⟨⟨before, rest⟩, hhead, h⟩ := Option.bind_eq_some_iff.mp h
  obtain ⟨⟨old, after⟩, htail, h⟩ := Option.bind_eq_some_iff.mp h
  cases h
  refine ⟨_, _, rfl, Edit.confined_spanAfter (before ++ head) old (tail ++ after) ?_⟩
  rw [Text.eq_append_of_find? hhead, Text.eq_append_of_find? htail] at hline
  simpa using hline

theorem confined_concludeContradiction? {fix : Fix}
    (hline : p.document.lineText? p.line = some p.lineText)
    (h : p.concludeContradiction? = some fix) :
    ∃ title e, fix = ⟨title, [e]⟩ ∧ e.Confined p.document p.line tag := by
  obtain ⟨⟨before, after⟩, hfind, h⟩ := Option.bind_eq_some_iff.mp h
  dsimp only at h
  split_ifs at h with hshort
  cases h
  have hparts := Text.eq_append_of_find? hfind
  -- The margin and `before` both begin the line, and the margin is not the longer one.
  have hmargin : p.margin <+: before := by
    refine List.prefix_of_prefix_length_le p.margin_prefix ?_ (Nat.le_of_not_lt hshort)
    rw [hparts, List.append_assoc]
    exact List.prefix_append before _
  obtain ⟨old, rfl⟩ := hmargin
  refine ⟨_, _, rfl, Edit.confined_spanAfter p.margin _ (" by ".toList ++ after) ?_⟩
  rw [hparts] at hline
  simpa using hline

theorem confined_contradictionToCases? {fix : Fix} {cases : Text}
    (hline : p.document.lineText? p.line = some p.lineText)
    (h : p.contradictionToCases? cases = some fix) :
    ∃ title e, fix = ⟨title, [e]⟩ ∧ e.Confined p.document p.line tag := by
  unfold contradictionToCases? at h
  split at h
  next =>
    split_ifs at h
    obtain ⟨⟨before, after⟩, hfind, hfix⟩ := Option.map_eq_some_iff.mp h
    cases hfix
    have hparts : p.lineText =
        before ++ "by ".toList ++ ("contradiction on".toList ++ after) := by
      rw [Text.eq_append_of_find? hfind]
      simp
    refine ⟨_, _, rfl, Edit.confined_of_columns (before ++ "by ".toList)
      ("contradiction on".toList ++ after) [] ?_ rfl ?_⟩
    · rw [List.append_nil, ← hparts]
      exact hline
    · rw [← hparts]
  next => cases h

theorem confined_addCases? {unit : Option CompilationUnit} {fix : Fix}
    (hline : p.document.lineText? p.line = some p.lineText) (h : p.addCases? unit = some fix) :
    ∃ title e, fix = ⟨title, [e]⟩ ∧ e.Confined p.document p.line tag := by
  simp only [addCases?] at h
  split_ifs at h
  · exact confined_contradictionToCases? hline h
  · cases h
    exact ⟨_, _, rfl, confined_insertAfter hline _⟩

/-- Only the second edit, which names the derivation, is where the problem says. -/
theorem confined_declareDerivation (hline : p.document.lineText? p.line = some p.lineText)
    (use : Range) :
    ∃ title e rest, p.declareDerivation use = ⟨title, e :: rest⟩ ∧
      e.Confined p.document p.line .derivationNotFound ∧
      (rest = [] ∨ p.document.textIn use = ['_'] ∧ ∃ name, rest = [⟨use, name⟩]) := by
  unfold declareDerivation
  split
  next =>
    refine ⟨_, _, [], rfl, ?_, Or.inl rfl⟩
    refine Edit.confined_of_columns [] p.lineText [] ?_ rfl rfl
    simpa using hline
  next name _ _ =>
    have hcount := Text.lt_lineCount hline
    have hconfined : ∀ {distance new},
        Edit.Confined ⟨.point ⟨p.line - distance, 0⟩, new⟩ p.document p.line
          .derivationNotFound :=
      Edit.confined_point (by omega) (Or.inr (Or.inr ⟨rfl, by omega⟩))
    dsimp only
    split_ifs with hname
    · exact ⟨_, _, _, rfl, hconfined, Or.inr ⟨hname.1, name, rfl⟩⟩
    · exact ⟨_, _, [], rfl, hconfined, Or.inl rfl⟩

end Site

namespace Problem

theorem confined_fixesAt {q : Problem} {unit : Option CompilationUnit} {p : Site} {fix : Fix}
    (hline : p.document.lineText? p.line = some p.lineText) (h : q.fixesAt unit p = [fix]) :
    ∃ title e rest, fix = ⟨title, e :: rest⟩ ∧ e.Confined p.document p.line q.tag ∧
      (rest = [] ∨ q.tag = .derivationNotFound ∧ p.document.textIn q.range = ['_'] ∧
        ∃ name, rest = [⟨q.range, name⟩]) := by
  have hsingle : (∃ title e, fix = ⟨title, [e]⟩ ∧ e.Confined p.document p.line q.tag) →
      ∃ title e rest, fix = ⟨title, e :: rest⟩ ∧ e.Confined p.document p.line q.tag ∧
        (rest = [] ∨ q.tag = .derivationNotFound ∧ p.document.textIn q.range = ['_'] ∧
          ∃ name, rest = [⟨q.range, name⟩]) := by
    rintro ⟨title, e, hfix, he⟩
    exact ⟨title, e, [], hfix, he, Or.inl rfl⟩
  by_cases htag : q.tag.isReplaced = true
  · by_cases hpackage : q.tag = .wrongPackage ∧ p.first = []
    · simp only [fixesAt, hpackage.1, Site.mendPackage_of_nil hpackage.2] at h
      obtain ⟨package, -, rfl⟩ := Option.map_eq_some_iff.mp (Option.toList_eq_singleton_iff.mp h)
      exact hsingle ⟨_, _, rfl, Site.confined_insertAfter hline _⟩
    · obtain ⟨title, hfix⟩ := fixesAt_of_isReplaced htag unit p fun hq hp => hpackage ⟨hq, hp⟩
      have hsome := Option.toList_eq_singleton_iff.mp (hfix.symm.trans h)
      obtain ⟨old, hold, hnew⟩ := Option.bind_eq_some_iff.mp hsome
      obtain ⟨new, -, rfl⟩ := Option.map_eq_some_iff.mp hnew
      exact hsingle ⟨_, _, rfl, Site.confined_locate? hline hold⟩
  · obtain ⟨tag, payload, range⟩ := q
    cases tag with
    | missingAssumes | assumedAssumes =>
      cases h
      exact hsingle ⟨_, _, rfl, Site.confined_insertAfter hline _⟩
    | missingCase =>
      exact hsingle (Site.confined_addCases? hline (Option.toList_eq_singleton_iff.mp h))
    | otherJustified =>
      exact hsingle (Site.confined_fillEllipsis? hline (Option.toList_eq_singleton_iff.mp h))
    | conclusionContradiction =>
      exact hsingle (Site.confined_concludeContradiction? hline (Option.toList_eq_singleton_iff.mp h))
    | derivationNotFound =>
      cases h
      obtain ⟨title, e, rest, hfix, he, hrest⟩ := Site.confined_declareDerivation hline range
      exact ⟨title, e, rest, hfix, he, hrest.imp_right fun hr => ⟨rfl, hr⟩⟩
    | caseRedundant | caseUnnecessary | unknown => cases h
    | _ => exact absurd rfl htag

/-- There is at most one fix; its edits are confined, but for the one that names a derivation where
the problem is. -/
theorem fixes_confined (q : Problem) (document : Text) (unit : Option CompilationUnit)
    (layout : Layout) :
    q.fixes document unit layout = [] ∨
      ∃ title e rest, q.fixes document unit layout = [⟨title, e :: rest⟩] ∧
        e.Confined document q.range.start.line q.tag ∧
        (rest = [] ∨ q.tag = .derivationNotFound ∧ document.textIn q.range = ['_'] ∧
          ∃ name, rest = [⟨q.range, name⟩]) := by
  rcases fixes_cases q document unit layout with h | ⟨text, fix, hline, hfix, h⟩
  · exact Or.inl h
  · obtain ⟨title, e, rest, rfl, hconfined⟩ := confined_fixesAt hline hfix
    exact Or.inr ⟨title, e, rest, h, hconfined⟩

end Problem

end ProofDesk
