import ProofDesk.Proofs.Fix.Site

namespace ProofDesk

/-- The problem is mended by lines after its own. -/
def Tag.isInserted : Tag → Bool
  | .missingAssumes | .assumedAssumes | .wrongPackage | .missingCase => true
  | _ => false

namespace Text

def IsTerminator (s : Text) : Prop :=
  s = ['\n'] ∨ s = ['\r', '\n']

/-- The text ends with the terminator, and not with a carriage return before that. -/
def Closed (terminator s : Text) : Prop :=
  ∃ init c, c ≠ '\r' ∧ s = init ++ c :: terminator

variable {terminator s : Text}

theorem Closed.append_left (h : Closed terminator s) (t : Text) : Closed terminator (t ++ s) := by
  obtain ⟨init, c, hc, rfl⟩ := h
  exact ⟨t ++ init, c, hc, (List.append_assoc t init _).symm⟩

theorem closed_append (hne : s ≠ []) (h : '\r' ∉ s) : Closed terminator (s ++ terminator) := by
  obtain ⟨init, c, rfl⟩ := (List.eq_nil_or_concat s).resolve_left hne
  rw [List.concat_eq_append] at h ⊢
  refine ⟨init, c, ?_, by simp⟩
  rintro rfl
  simp at h

theorem dropEnding_append (ending s : Text) : dropEnding ending (s ++ ending) = s := by
  have hafter : after? ending.reverse (s ++ ending).reverse = some s.reverse :=
    after?_eq_some_iff.mpr List.reverse_append
  rw [dropEnding, hafter]
  exact List.reverse_reverse s

theorem mem_of_mem_split {c x : Char} {piece : Text} (h : piece ∈ split c s) (hx : x ∈ piece) :
    x ∈ s := by
  induction s generalizing piece with
  | nil => simp_all [split]
  | cons y ys ih =>
    obtain ⟨p, ps, hp⟩ := List.exists_cons_of_ne_nil (split_ne_nil c ys)
    rw [split] at h
    split_ifs at h with hy
    · rcases List.mem_cons.mp h with rfl | h
      · cases hx
      · exact List.mem_cons_of_mem y (ih h hx)
    · rw [hp] at h ih
      rcases List.mem_cons.mp h with rfl | h
      · rcases List.mem_cons.mp hx with rfl | hx
        · exact List.mem_cons_self
        · exact List.mem_cons_of_mem y (ih List.mem_cons_self hx)
      · exact List.mem_cons_of_mem y (ih (List.mem_cons_of_mem p h) hx)

/-- A line that is put before a terminator stays as it is, unless a line feed takes its last
carriage return. -/
theorem lineTexts_append_terminator (hterm : IsTerminator terminator) (h : '\n' ∉ s)
    (rest : Text) : lineTexts (s ++ terminator ++ rest) =
      (if terminator = ['\n'] then dropReturn s else s) :: lineTexts rest := by
  rcases hterm with rfl | rfl
  · rw [if_pos rfl, List.append_assoc, List.singleton_append, lineTexts_append_feed,
      lineTexts_of_not_mem h]
    rfl
  · have hreturn : '\n' ∉ s ++ ['\r'] := by simp [h]
    have hparts : s ++ ['\r', '\n'] ++ rest = (s ++ ['\r']) ++ '\n' :: rest := by simp
    rw [if_neg (by decide), hparts, lineTexts_append_feed, lineTexts_of_not_mem hreturn,
      dropReturn_append_return]
    rfl

/-- The lines of a closed text are those before its terminator. -/
theorem Closed.exists_lines (h : Closed terminator s) (hterm : IsTerminator terminator) :
    ∃ lines, s = lines ++ terminator ∧ lines.getLast? ≠ some '\r' ∧
      listing s = lineTexts lines ∧
      ∀ rest, lineTexts (s ++ rest) = lineTexts lines ++ lineTexts rest := by
  obtain ⟨init, c, hc, rfl⟩ := h
  have hlast : (init ++ [c]).getLast? ≠ some '\r' := by simpa using hc
  refine ⟨init ++ [c], by simp, hlast, ?_⟩
  rcases hterm with rfl | rfl
  · have hlisting := listing_append_feed (init ++ [c])
    have happend := lineTexts_append_feed (init ++ [c])
    simp only [List.append_assoc, List.singleton_append] at hlisting happend
    exact ⟨hlisting, fun rest => by simpa using happend rest⟩
  · have hlisting := listing_append_feed (init ++ [c] ++ ['\r'])
    have happend := lineTexts_append_feed (init ++ [c] ++ ['\r'])
    simp only [lineTexts_append_return hlast] at hlisting happend
    exact ⟨by simpa using hlisting, fun rest => by simpa using happend rest⟩

end Text

namespace Site

open Text (Closed)

variable {p : Site}

/-- Where a problem of the given tag has lines inserted, these lines. -/
def lacking? (p : Site) (unit : Option CompilationUnit) : Tag → Option Text
  | .missingAssumes => some (p.margin ++ p.payload ++ p.layout.terminator)
  | .assumedAssumes => some (p.margin ++ p.layout.indent ++ p.payload ++ p.layout.terminator)
  | .wrongPackage => (p.second?.filter (· ≠ [])).map (· ++ p.layout.terminator)
  | .missingCase => if p.cases unit = [] then none else some (p.cases unit)
  | _ => none

def isContradiction (p : Site) : Bool :=
  Text.contains p.lineText "by contradiction on".toList &&
    !Text.contains p.lineText "by case analysis on".toList

/-- The terminator makes one with the end of the last line. -/
def Merges (p : Site) : Prop :=
  p.document.isLastLine p.line = true ∧ p.layout.terminator = ['\n'] ∧
    p.lineText.getLast? = some '\r'

instance : Decidable p.Merges :=
  inferInstanceAs (Decidable (_ ∧ _ ∧ _))

/-- The lines of the text with those of `body` after the problem's line. -/
def withLines (p : Site) (body : Text) : List Text :=
  p.document.lineTexts.take (p.line + 1) ++ body.listing ++ p.document.lineTexts.drop (p.line + 1)

theorem return_notMem_entries (h : '\r' ∉ p.payload) : ∀ entry ∈ p.entries, '\r' ∉ entry := by
  intro entry hentry hr
  obtain ⟨piece, hpiece, rfl⟩ := List.mem_map.mp hentry
  have hmem : '\r' ∈ piece := by
    rcases Text.exists_eq_dropReturn_append piece with ⟨hp, -⟩ | hp
    · rw [hp]
      exact hr
    · rw [hp]
      exact List.mem_append_left _ hr
  exact h (Text.mem_of_mem_split hpiece hmem)

theorem closed_caseEnd (h : p.layout.terminator.IsTerminator) :
    Closed p.layout.terminator p.caseEnd := by
  have htwice : Closed p.layout.terminator (p.layout.terminator ++ p.layout.terminator) := by
    rcases h with h | h
    · rw [h]
      exact ⟨[], '\n', by decide, rfl⟩
    · rw [h]
      exact ⟨['\r'], '\n', by decide, rfl⟩
  have hend : p.caseEnd = lineOf p.layout.terminator [p.bodyMargin, "proof by unproved".toList] ++
      (p.caseMargin ++ "end case".toList) ++ (p.layout.terminator ++ p.layout.terminator) := by
    simp [caseEnd, lineOf]
  rw [hend]
  exact htwice.append_left _

theorem closed_ruleLine (unit : Option CompilationUnit) {entry : Text} (hne : entry ≠ [])
    (h : '\r' ∉ entry) : Closed p.layout.terminator (p.ruleLine unit entry) := by
  unfold ruleLine lineOf
  split_ifs
  · have hbar : ruleBar unit entry ≠ [] ∧ '\r' ∉ ruleBar unit entry := by
      unfold ruleBar
      split
      next => exact ⟨hne, h⟩
      next name hname =>
        split
        next => exact ⟨hne, h⟩
        next rule _ =>
          split_ifs
          · exact ⟨hne, h⟩
          · have hmem : name ∈ Text.split ' ' entry := List.mem_of_getElem? hname
            have hreturn : '\r' ∉ name := fun hr => h (Text.mem_of_mem_split hmem hr)
            refine ⟨by simp, ?_⟩
            simp [hreturn, List.mem_replicate]
    have hclosed : Closed p.layout.terminator (ruleBar unit entry ++ p.layout.terminator) :=
      Text.closed_append hbar.1 hbar.2
    simpa using hclosed.append_left p.bodyMargin
  · have hclosed : Closed p.layout.terminator (entry ++ p.layout.terminator) :=
      Text.closed_append hne h
    simpa using hclosed.append_left (p.bodyMargin ++ "_: ".toList)

theorem closed_ruleCasesFrom (hterm : p.layout.terminator.IsTerminator)
    (unit : Option CompilationUnit) (opening : Bool) {entries : List Text}
    (h : ∀ entry ∈ entries, '\r' ∉ entry) :
    p.ruleCasesFrom unit opening entries = [] ∨
      Closed p.layout.terminator (p.ruleCasesFrom unit opening entries) := by
  induction entries generalizing opening with
  | nil => exact Or.inl (by simp [ruleCasesFrom])
  | cons entry rest ih =>
    obtain ⟨hentry, hrest⟩ := List.forall_mem_cons.mp h
    -- A line closes the text unless more lines follow, and then those do.
    have hstep : ∀ {line following : Text}, Closed p.layout.terminator line →
        following = [] ∨ Closed p.layout.terminator following →
        Closed p.layout.terminator (line ++ following) := by
      rintro line following hline (rfl | hfollowing)
      · rwa [List.append_nil]
      · exact hfollowing.append_left line
    refine Or.inr ?_
    rw [ruleCasesFrom]
    refine Closed.append_left ?_ _
    split_ifs with hnil
    · exact hstep ((closed_caseEnd hterm).append_left _) (ih true hrest)
    · exact hstep (closed_ruleLine unit hnil hentry) (ih false hrest)

theorem closed_labelCases (hterm : p.layout.terminator.IsTerminator) :
    p.labelCases = [] ∨ Closed p.layout.terminator p.labelCases := by
  unfold labelCases
  rcases List.eq_nil_or_concat p.entries.dropLast with hnil | ⟨labels, label, hlast⟩
  · exact Or.inl (by rw [hnil]; rfl)
  · rw [hlast, List.concat_eq_append, List.flatMap_append, List.flatMap_singleton]
    exact Or.inr (((closed_caseEnd hterm).append_left _).append_left _)

theorem closed_cases (hterm : p.layout.terminator.IsTerminator) (h : '\r' ∉ p.payload)
    (unit : Option CompilationUnit) :
    p.cases unit = [] ∨ Closed p.layout.terminator (p.cases unit) := by
  unfold cases
  split_ifs
  · refine closed_ruleCasesFrom hterm unit true fun entry hentry => ?_
    exact return_notMem_entries h entry (List.dropLast_subset _ hentry)
  · exact closed_labelCases hterm

theorem closed_lacking? (hterm : p.layout.terminator.IsTerminator) (hne : p.payload ≠ [])
    (h : '\r' ∉ p.payload) {unit : Option CompilationUnit} {tag : Tag} {body : Text}
    (hbody : p.lacking? unit tag = some body) : Closed p.layout.terminator body := by
  have hpayload : Closed p.layout.terminator (p.payload ++ p.layout.terminator) :=
    Text.closed_append hne h
  cases tag with
  | missingAssumes =>
    cases hbody
    simpa using hpayload.append_left p.margin
  | assumedAssumes =>
    cases hbody
    simpa using hpayload.append_left (p.margin ++ p.layout.indent)
  | wrongPackage =>
    obtain ⟨package, hpackage, rfl⟩ := Option.map_eq_some_iff.mp hbody
    obtain ⟨hsecond, hfull⟩ := Option.filter_eq_some_iff.mp hpackage
    refine Text.closed_append (by simpa using hfull) ?_
    exact return_notMem_entries h package (List.mem_of_getElem? hsecond)
  | missingCase =>
    simp only [lacking?] at hbody
    split_ifs at hbody with hnil
    cases hbody
    exact (closed_cases hterm h unit).resolve_left hnil
  | _ => cases hbody

theorem lineTexts_insertAfter_of_next {body : Text}
    (hline : p.document.lineText? p.line = some p.lineText)
    (hterm : p.layout.terminator.IsTerminator) (hbody : Closed p.layout.terminator body)
    (hnext : p.document.isLastLine p.line = false) :
    ((p.insertAfter body).apply p.document).lineTexts = p.withLines body := by
  obtain ⟨above, below, hparts, hlength, hfeed, hoffset⟩ := Text.exists_eq_at_next hline hnext
  obtain ⟨lines, -, -, hlisting, hinsert⟩ := hbody.exists_lines hterm
  have hold : p.document.lineTexts = above.map Text.dropReturn ++ below.lineTexts := by
    rw [hparts, Text.lineTexts_terminated_append hfeed]
  have hmap : (above.map Text.dropReturn).length = p.line + 1 := by
    rw [List.length_map, hlength]
  rw [insertAfter, hnext, if_neg (by decide), Edit.apply_point hparts hoffset, List.append_assoc,
    Text.lineTexts_terminated_append hfeed, hinsert, withLines, hold, List.take_left' hmap,
    List.drop_left' hmap, hlisting, List.append_assoc]

theorem lineTexts_insertAfter_of_last {body : Text}
    (hline : p.document.lineText? p.line = some p.lineText)
    (hterm : p.layout.terminator.IsTerminator) (hbody : Closed p.layout.terminator body)
    (hlast : p.document.isLastLine p.line = true) :
    ((p.insertAfter body).apply p.document).lineTexts = p.withLines body ↔
      ¬ (p.layout.terminator = ['\n'] ∧ p.lineText.getLast? = some '\r') := by
  obtain ⟨above, final, hparts, hlength, hfeed, hfinal, hoffset⟩ :=
    Text.exists_eq_at_last hline hlast
  obtain ⟨lines, rfl, hend, hlisting, -⟩ := hbody.exists_lines hterm
  have hnoFeed : '\n' ∉ p.lineText := Text.noFeed_of_lineText? hline
  have hnew : ((p.insertAfter (lines ++ p.layout.terminator)).apply p.document).lineTexts =
      above.map Text.dropReturn ++
        (if p.layout.terminator = ['\n'] then Text.dropReturn p.lineText else p.lineText) ::
          lines.lineTexts := by
    have happly : (p.insertAfter (lines ++ p.layout.terminator)).apply p.document =
        Text.terminated above ++ (p.lineText ++ p.layout.terminator ++ (lines ++ final)) := by
      rw [insertAfter, if_pos hlast, Edit.apply_point hparts hoffset, Text.dropEnding_append]
      simp
    have hlines : (lines ++ final).lineTexts = lines.lineTexts := by
      rcases hfinal with ⟨rfl, -⟩ | rfl
      · rw [List.append_nil]
      · exact Text.lineTexts_append_return hend
    rw [happly, Text.lineTexts_terminated_append hfeed,
      Text.lineTexts_append_terminator hterm hnoFeed, hlines]
  have hold : p.document.lineTexts = above.map Text.dropReturn ++ [p.lineText] := by
    have htext : (p.lineText ++ final).lineTexts = [p.lineText] := by
      rcases hfinal with ⟨rfl, hreturn⟩ | rfl
      · rw [List.append_nil, Text.lineTexts_of_not_mem hnoFeed, Text.dropReturn_of_getLast? hreturn]
      · rw [Text.lineTexts_of_not_mem (by simp [hnoFeed]), Text.dropReturn_append_return]
    rw [hparts, List.append_assoc, Text.lineTexts_terminated_append hfeed, htext]
  have hwith : p.withLines (lines ++ p.layout.terminator) =
      above.map Text.dropReturn ++ p.lineText :: lines.lineTexts := by
    have hcount : p.document.lineTexts.length ≤ p.line + 1 := by simp [hold, hlength]
    rw [withLines, List.take_of_length_le hcount, List.drop_of_length_le hcount, hlisting, hold]
    simp
  have hsame := Text.dropReturn_eq_self_iff (s := p.lineText)
  rw [hnew, hwith, List.append_cancel_left_eq, List.cons.injEq]
  by_cases hterminator : p.layout.terminator = ['\n']
  · simp [hterminator, hsame]
  · simp [hterminator]

theorem lineTexts_insertAfter {body : Text}
    (hline : p.document.lineText? p.line = some p.lineText)
    (hterm : p.layout.terminator.IsTerminator) (hbody : Closed p.layout.terminator body) :
    ((p.insertAfter body).apply p.document).lineTexts = p.withLines body ↔ ¬ p.Merges := by
  unfold Merges
  cases hlast : p.document.isLastLine p.line with
  | false => simp [lineTexts_insertAfter_of_next hline hterm hbody hlast]
  | true => simp [lineTexts_insertAfter_of_last hline hterm hbody hlast]

theorem addCases?_eq (p : Site) (unit : Option CompilationUnit) :
    p.addCases? unit = if p.cases unit = [] then none
      else if p.isContradiction then p.contradictionToCases? (p.cases unit)
      else some ⟨"insert missing case(s)".toList, [p.insertAfter (p.cases unit)]⟩ := rfl

theorem addCases?_of_not_isContradiction (unit : Option CompilationUnit)
    (h : p.isContradiction = false) :
    p.addCases? unit = if p.cases unit = [] then none
      else some ⟨"insert missing case(s)".toList, [p.insertAfter (p.cases unit)]⟩ := by
  simp only [addCases?_eq, h, Bool.false_eq_true, if_false]

end Site

namespace Problem

theorem fixesAt_of_isInserted {q : Problem} (htag : q.tag.isInserted = true)
    (unit : Option CompilationUnit) (p : Site) (hpayload : q.payload = p.payload)
    (hpackage : q.tag = .wrongPackage → p.first = [])
    (hcase : q.tag = .missingCase → p.isContradiction = false) :
    ∃ title : Text → Text, q.fixesAt unit p =
      ((p.lacking? unit q.tag).map fun body => ⟨title body, [p.insertAfter body]⟩ :
        Option Fix).toList := by
  obtain ⟨tag, payload, range⟩ := q
  cases tag with
  | missingAssumes =>
    refine ⟨fun _ => Site.insertTitle p.payload, ?_⟩
    simp [fixesAt, Site.lacking?, Site.insertPayload]
  | assumedAssumes => exact ⟨fun _ => Site.insertTitle p.payload, rfl⟩
  | wrongPackage =>
    refine ⟨fun body => Site.insertTitle (Text.dropEnding p.layout.terminator body), ?_⟩
    simp only [fixesAt, Site.lacking?, Site.mendPackage_of_nil (hpackage rfl)]
    cases p.second?.filter (· ≠ []) with
    | none => rfl
    | some package => simp [Text.dropEnding_append]
  | missingCase =>
    refine ⟨fun _ => "insert missing case(s)".toList, ?_⟩
    simp only [fixesAt, Site.lacking?, Site.addCases?_of_not_isContradiction unit (hcase rfl)]
    split_ifs <;> rfl
  | _ => cases htag

/-- The lines that a problem lacks are inserted as lines, unless the terminator merges with the end
of the last one. -/
theorem fixes_of_isInserted {q : Problem} {document text : Text} {unit : Option CompilationUnit}
    {layout : Layout} (htag : q.tag.isInserted = true) (hsingle : q.range.isSingleLine = true)
    (hline : document.lineText? q.range.start.line = some text) (hreturn : '\r' ∉ q.payload)
    (hterm : layout.terminator.IsTerminator)
    (hpackage : q.tag = .wrongPackage → (q.siteOn document text layout).first = [])
    (hcase : q.tag = .missingCase → (q.siteOn document text layout).isContradiction = false) :
    let p := q.siteOn document text layout
    (q.payload = [] ∨ p.lacking? unit q.tag = none → q.fixes document unit layout = []) ∧
    ∀ body, q.payload ≠ [] → p.lacking? unit q.tag = some body →
      ∃ title, q.fixes document unit layout = [⟨title, [p.insertAfter body]⟩] ∧
        (((p.insertAfter body).apply document).lineTexts = p.withLines body ↔ ¬ p.Merges) := by
  intro p
  obtain ⟨title, hfix⟩ := fixesAt_of_isInserted htag unit p rfl hpackage hcase
  constructor
  · intro hnone
    rcases hnone with hnil | hnone
    · simp [fixes, site?, hnil]
    · refine fixes_eq_nil hline (hfix.trans ?_)
      rw [hnone]
      rfl
  · intro body hne hbody
    refine ⟨title body, ?_, ?_⟩
    · rw [hbody] at hfix
      rw [fixes_eq hsingle hline hne, hfix]
      rfl
    · exact Site.lineTexts_insertAfter hline hterm (Site.closed_lacking? hterm hne hreturn hbody)

theorem fixes_at_final_return :
    let q := Problem.mk .assumedAssumes "b\n\nc".toList ⟨⟨1, 0⟩, ⟨1, 1⟩⟩
    let p := q.siteOn "a\r\n x\r".toList " x".toList {}
    let e := p.insertAfter "     b\n\nc\n".toList
    ∃ title, q.fixes p.document none p.layout = [⟨title, [e]⟩] ∧
      (e.apply p.document).lineTexts = p.withLines "     b\n\nc\n".toList := by
  intro q p e
  have hline : p.document.lineText? q.range.start.line = some " x".toList := by decide
  have hpackage : q.tag = .wrongPackage → p.first = [] := by decide
  have hcase : q.tag = .missingCase → p.isContradiction = false := by decide
  have hbody : p.lacking? none q.tag = some "     b\n\nc\n".toList := by decide
  obtain ⟨title, hfixes, hlines⟩ := (fixes_of_isInserted rfl rfl hline (by decide)
    (Or.inl rfl) hpackage hcase).2 _ (by decide) hbody
  exact ⟨title, hfixes, hlines.mpr (by decide)⟩

/-- A line feed put after the first of two carriage returns at the end takes it out of the line. -/
theorem insertion_drops_return :
    let q := Problem.mk .missingAssumes ['a'] ⟨⟨0, 0⟩, ⟨0, 0⟩⟩
    let p := q.siteOn ['x', '\r', '\r'] ['x', '\r'] {}
    q.fixes p.document none {} = [⟨Site.insertTitle ['a'], [p.insertAfter ['a', '\n']]⟩] ∧
      ((p.insertAfter ['a', '\n']).apply p.document).lineTexts = [['x'], ['a']] ∧
      p.withLines ['a', '\n'] = [['x', '\r'], ['a']] := by
  decide

end Problem

end ProofDesk
