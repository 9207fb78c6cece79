import Mathlib.Data.List.Forall2
import ProofDesk.Proofs.Fix.MissingCases

namespace ProofDesk

namespace Site

variable {p : Site} {unit : Option CompilationUnit} {entry line : Text}
  {entries lines more : List Text}

def opening (p : Site) : Text :=
  p.caseMargin ++ "case rule".toList

def closing (p : Site) : List Text :=
  (p.caseMargin ++ "is".toList) :: Lack.unproved p.caseMargin p.bodyMargin

/-- The lines of the cases for rules; `opens` tells that the next line starts a case. -/
def ruleLines (p : Site) (unit : Option CompilationUnit) : (opens : Bool) → List Text → List Text
  | _, [] => []
  | opens, entry :: rest =>
    (if opens then [p.opening] else [])
    ++ if entry = [] then p.closing ++ p.ruleLines unit true rest
      else (p.bodyMargin ++ shownLine unit entry) :: p.ruleLines unit false rest

def labelLine (p : Site) (label : Text) : Text :=
  p.caseMargin ++ "case ".toList ++ label ++ " is".toList

def labelLines (p : Site) (labels : List Text) : List Text :=
  labels.flatMap fun label => p.labelLine label :: Lack.unproved p.caseMargin p.bodyMargin

def caseLines (p : Site) (unit : Option CompilationUnit) : List Text :=
  if p.hasBlocks then p.ruleLines unit true p.entries.dropLast else p.labelLines p.entries.dropLast

theorem endedBy_ruleLines (p : Site) (unit : Option CompilationUnit) (opens : Bool)
    (entries : List Text) :
    Text.endedBy p.layout.terminator (p.ruleLines unit opens entries) =
      p.ruleCasesFrom unit opens entries := by
  induction entries generalizing opens with
  | nil => simp [ruleLines, ruleCasesFrom]
  | cons entry rest ih =>
    have hopening : Text.endedBy p.layout.terminator (if opens then [p.opening] else []) =
        if opens then lineOf p.layout.terminator [p.caseMargin, "case rule".toList] else [] := by
      cases opens <;> simp [opening, lineOf]
    rw [ruleLines, ruleCasesFrom, Text.endedBy_append, hopening]
    split_ifs <;> simp [closing, ih, caseEnd_eq, ruleLine_eq, lineOf]

theorem endedBy_labelLines (p : Site) (labels : List Text) :
    Text.endedBy p.layout.terminator (p.labelLines labels) = labels.flatMap fun label =>
      lineOf p.layout.terminator [p.caseMargin, "case ".toList, label, " is".toList]
        ++ p.caseEnd := by
  simp [labelLines, labelLine, Text.endedBy_flatMap, caseEnd_eq, lineOf]

theorem cases_eq (p : Site) (unit : Option CompilationUnit) :
    p.cases unit = Text.endedBy p.layout.terminator (p.caseLines unit) := by
  unfold cases caseLines
  split_ifs
  · rw [endedBy_ruleLines, ruleCases]
  · rw [endedBy_labelLines, labelCases]

/-- The line is there for a line of the payload: it has it as a label, or shows it in the body of
the case of a rule. -/
inductive StandsFor (p : Site) (unit : Option CompilationUnit) (entry : Text) : Text → Prop
  | label : StandsFor p unit entry (p.labelLine entry)
  | body {shown : Text} (h : Shows unit entry shown) :
      StandsFor p unit entry (p.bodyMargin ++ shown)

/-- Every line of the payload that is not empty has a line of its own, in order. -/
def Represents (p : Site) (unit : Option CompilationUnit) (entries lines : List Text) : Prop :=
  List.SublistForall₂ (p.StandsFor unit) (entries.filter (· ≠ [])) lines

def ClosesNext (p : Site) (lines : List Text) : Prop :=
  ∃ body rest, lines = body ++ p.closing ++ rest ∧ p.opening ∉ body

/-- Wherever a case of a rule is opened, it is closed before the next one is opened. -/
def Closes (p : Site) (lines : List Text) : Prop :=
  ∀ before after, lines = before ++ p.opening :: after → p.ClosesNext after

def EndsEmpty (lines : List Text) : Prop :=
  ∀ line ∈ lines.getLast?, line = []

/-- The text begins with a letter or the like: not with a space, and not as what a case shows of a
line of a rule. -/
def BeginsPlain (s : Text) : Prop :=
  ∃ c ∈ s.head?, c ≠ ' ' ∧ c ≠ '_' ∧ c ≠ '-'

instance (s : Text) : Decidable (BeginsPlain s) :=
  match s with
  | [] => .isFalse (by simp [BeginsPlain])
  | c :: rest => decidable_of_iff (c ≠ ' ' ∧ c ≠ '_' ∧ c ≠ '-') (by simp [BeginsPlain])

section Shapes

variable {word shown : Text}

/-- What stands deeper is another line, as long as it does not go on in the same way. -/
theorem bodyMargin_append_ne (hword : BeginsPlain word) (h : shown.head? ≠ word.head?) :
    p.bodyMargin ++ shown ≠ p.caseMargin ++ word := by
  obtain ⟨c, hc, hspace, -⟩ := hword
  intro heq
  rw [bodyMargin, List.append_assoc, List.append_cancel_left_eq, Layout.indent] at heq
  generalize (if p.layout.indentSize ≤ 8 then p.layout.indentSize else 4) = n at heq
  cases n with
  | zero => exact h (congrArg List.head? heq)
  | succ n =>
    obtain rfl : ' ' = c := by
      rw [← heq] at hc
      simpa [List.replicate_succ] using hc
    exact hspace rfl

theorem head?_of_shows (h : Shows unit entry shown) :
    shown.head? = some '_' ∨ shown.head? = some '-' := by
  cases h with
  | statement => exact Or.inl rfl
  | redrawn => exact Or.inr (by rw [Nat.add_comm, List.replicate_succ]; rfl)
  | kept hbar =>
    obtain ⟨rest, rfl⟩ := hbar
    exact Or.inr rfl

theorem head?_ne_of_shows (h : Shows unit entry shown) (hword : BeginsPlain word) :
    shown.head? ≠ word.head? := by
  obtain ⟨c, hc, -, hunderscore, hdash⟩ := hword
  rw [hc]
  rcases head?_of_shows h with hs | hs
  · rw [hs]
    exact fun he => hunderscore (Option.some.inj he).symm
  · rw [hs]
    exact fun he => hdash (Option.some.inj he).symm

theorem bodyLine_ne (hword : BeginsPlain word) :
    p.bodyMargin ++ shownLine unit entry ≠ p.caseMargin ++ word :=
  bodyMargin_append_ne hword (head?_ne_of_shows (shows_iff.mpr rfl) hword)

theorem labelLine_eq (p : Site) (entry : Text) :
    p.labelLine entry = p.caseMargin ++ ("case ".toList ++ (entry ++ " is".toList)) := by
  simp [labelLine]

/-- A line at the margin of a case stands for the label that it has, and for nothing else. -/
theorem eq_of_standsFor (hword : BeginsPlain word)
    (h : p.StandsFor unit entry (p.caseMargin ++ word)) :
    word = "case ".toList ++ (entry ++ " is".toList) := by
  generalize hline : p.caseMargin ++ word = line at h
  cases h with
  | label => exact List.append_cancel_left (hline.trans (p.labelLine_eq entry))
  | body hshows =>
    exact absurd hline.symm (bodyMargin_append_ne hword (head?_ne_of_shows hshows hword))

end Shapes

theorem labelLine_ne_opening : p.labelLine entry ≠ p.opening := by
  intro h
  have hrule : entry ++ " is".toList = "rule".toList :=
    List.append_cancel_left (List.append_cancel_left ((p.labelLine_eq entry).symm.trans h))
  have hlast := congrArg List.getLast? hrule
  rw [List.getLast?_append] at hlast
  cases hlast

def Standing (p : Site) (unit : Option CompilationUnit) (line : Text) : Prop :=
  ∃ entry, entry ≠ [] ∧ p.StandsFor unit entry line

theorem not_standing_opening : ¬ p.Standing unit p.opening := by
  rintro ⟨entry, -, h⟩
  have heq := eq_of_standsFor (by decide) h
  exact labelLine_ne_opening ((p.labelLine_eq entry).trans (congrArg _ heq.symm))

theorem not_standing_unproved :
    ∀ line ∈ Lack.unproved p.caseMargin p.bodyMargin, ¬ p.Standing unit line := by
  rintro line hline ⟨entry, -, h⟩
  simp only [Lack.unproved, List.mem_cons, List.not_mem_nil, or_false] at hline
  rcases hline with rfl | rfl | rfl
  · generalize hproof : p.bodyMargin ++ "proof by unproved".toList = line at h
    cases h with
    | label =>
      rw [labelLine_eq] at hproof
      exact bodyMargin_append_ne ⟨'c', rfl, by decide⟩ (by simp) hproof
    | body hshows =>
      have hshown := List.append_cancel_left hproof
      have hword : BeginsPlain "proof by unproved".toList := by decide
      exact head?_ne_of_shows hshows hword (congrArg List.head? hshown.symm)
  · have heq := eq_of_standsFor (by decide) h
    cases congrArg List.head? heq
  · generalize hnil : ([] : Text) = line at h
    cases h with
    | label => simp [labelLine] at hnil
    | body hshows =>
      have hshown := (List.append_eq_nil_iff.mp hnil.symm).2
      rcases head?_of_shows hshows with hs | hs
      · simp [hshown] at hs
      · simp [hshown] at hs

theorem not_standing_closing : ∀ line ∈ p.closing, ¬ p.Standing unit line := by
  rintro line hline
  rcases List.mem_cons.mp hline with rfl | hline
  · rintro ⟨entry, -, h⟩
    have heq := eq_of_standsFor (by decide) h
    cases congrArg List.head? heq
  · exact not_standing_unproved line hline

theorem standing_labelLine_iff : p.Standing unit (p.labelLine entry) ↔ entry ≠ [] := by
  constructor
  · rintro ⟨other, hother, h⟩ rfl
    rw [labelLine_eq] at h
    have heq := eq_of_standsFor ⟨'c', rfl, by decide⟩ h
    have hlabels := List.append_cancel_left heq
    exact hother (List.append_cancel_right hlabels).symm
  · exact fun h => ⟨entry, h, .label⟩

theorem standing_bodyLine (h : entry ≠ []) :
    p.Standing unit (p.bodyMargin ++ shownLine unit entry) :=
  ⟨entry, h, .body (shows_iff.mpr rfl)⟩

section Representation

theorem represents_append_left (h : p.Represents unit entries lines) (more : List Text) :
    p.Represents unit entries (more ++ lines) := by
  induction more with
  | nil => exact h
  | cons line more ih => exact .cons_right ih

theorem represents_cons_nil_iff :
    p.Represents unit ([] :: entries) lines ↔ p.Represents unit entries lines := by
  rw [Represents, Represents, List.filter_cons_of_neg (by simp)]

theorem represents_cons_cons (hstands : p.StandsFor unit entry line)
    (h : p.Represents unit entries lines) :
    p.Represents unit (entry :: entries) (line :: lines) := by
  by_cases hnil : entry = []
  · rw [hnil, represents_cons_nil_iff]
    exact .cons_right h
  · rw [Represents, List.filter_cons_of_pos (by simpa using hnil)]
    exact .cons hstands h

theorem represents_ruleLines (p : Site) (unit : Option CompilationUnit) (opens : Bool)
    (entries : List Text) : p.Represents unit entries (p.ruleLines unit opens entries) := by
  induction entries generalizing opens with
  | nil => exact .nil
  | cons entry rest ih =>
    rw [ruleLines]
    refine represents_append_left ?_ _
    by_cases hnil : entry = []
    · rw [if_pos hnil, hnil, represents_cons_nil_iff]
      exact represents_append_left (ih true) _
    · rw [if_neg hnil]
      exact represents_cons_cons (.body (shows_iff.mpr rfl)) (ih false)

theorem represents_labelLines (p : Site) (unit : Option CompilationUnit) (labels : List Text) :
    p.Represents unit labels (p.labelLines labels) := by
  induction labels with
  | nil => exact .nil
  | cons label rest ih =>
    rw [labelLines, List.flatMap_cons, List.cons_append]
    exact represents_cons_cons .label (represents_append_left ih _)

open Classical in
theorem length_le_of_represents (h : p.Represents unit entries lines) :
    entries.countP (· ≠ []) ≤ lines.countP (p.Standing unit ·) := by
  have hnonempty : ∀ entry ∈ entries.filter (· ≠ []), entry ≠ [] := by
    intro entry hentry
    simpa using (List.mem_filter.mp hentry).2
  rw [List.countP_eq_length_filter]
  unfold Represents at h
  generalize entries.filter (· ≠ []) = kept at h hnonempty
  induction h with
  | nil => exact Nat.zero_le _
  | cons hstands _ ih =>
    obtain ⟨hentry, hkept⟩ := List.forall_mem_cons.mp hnonempty
    rw [List.countP_cons_of_pos (by simpa using ⟨_, hentry, hstands⟩)]
    exact Nat.succ_le_succ (ih hkept)
  | cons_right _ ih => exact Nat.le_trans (ih hnonempty) (List.Sublist.countP_le (by simp))

open Classical in
theorem countP_ruleLines (p : Site) (unit : Option CompilationUnit) (opens : Bool)
    (entries : List Text) :
    (p.ruleLines unit opens entries).countP (p.Standing unit ·) = entries.countP (· ≠ []) := by
  induction entries generalizing opens with
  | nil => rfl
  | cons entry rest ih =>
    have hopening : (if opens then [p.opening] else []).countP (p.Standing unit ·) = 0 := by
      cases opens
      · rfl
      · simp [not_standing_opening]
    have hclosing : p.closing.countP (p.Standing unit ·) = 0 := by
      simpa using not_standing_closing
    rw [ruleLines, List.countP_append, hopening, Nat.zero_add]
    by_cases hnil : entry = []
    · rw [if_pos hnil, List.countP_append, hclosing, Nat.zero_add, ih true]
      simp [hnil]
    · rw [if_neg hnil, List.countP_cons_of_pos (by simpa using standing_bodyLine hnil), ih false]
      simp [hnil]

open Classical in
theorem countP_labelLines (p : Site) (unit : Option CompilationUnit) (labels : List Text) :
    (p.labelLines labels).countP (p.Standing unit ·) = labels.countP (· ≠ []) := by
  have hunproved : (Lack.unproved p.caseMargin p.bodyMargin).countP (p.Standing unit ·) = 0 := by
    simpa using not_standing_unproved
  induction labels with
  | nil => rfl
  | cons label rest ih =>
    rw [labelLines] at ih ⊢
    rw [List.flatMap_cons, List.countP_append, ih, List.countP_cons, hunproved]
    by_cases hnil : label = []
    · simp [standing_labelLine_iff, hnil]
    · simp [standing_labelLine_iff, hnil, Nat.add_comm]

theorem entries_ne_nil (p : Site) : p.entries ≠ [] := by
  simpa [entries] using Text.split_ne_nil '\n' p.payload

open Classical in
theorem countP_caseLines (p : Site) (unit : Option CompilationUnit) :
    (p.caseLines unit).countP (p.Standing unit ·) = p.entries.dropLast.countP (· ≠ []) := by
  unfold caseLines
  split_ifs
  · exact countP_ruleLines p unit true _
  · exact countP_labelLines p unit _

theorem represents_caseLines (p : Site) (unit : Option CompilationUnit) :
    p.Represents unit p.entries.dropLast (p.caseLines unit) := by
  unfold caseLines
  split_ifs
  · exact represents_ruleLines p unit true _
  · exact represents_labelLines p unit _

/-- No line of the payload is lost just when there is nothing behind its last line feed. -/
theorem represents_entries_iff (p : Site) (unit : Option CompilationUnit) :
    p.Represents unit p.entries (p.caseLines unit) ↔ EndsEmpty p.entries := by
  obtain ⟨init, last, hentries⟩ := (List.eq_nil_or_concat p.entries).resolve_left p.entries_ne_nil
  rw [List.concat_eq_append] at hentries
  have hinit : p.entries.dropLast = init := by rw [hentries, List.dropLast_concat]
  have hends : EndsEmpty p.entries ↔ last = [] := by simp [hentries, EndsEmpty]
  rw [hends]
  constructor
  · intro h
    have hle := length_le_of_represents h
    rw [countP_caseLines, hinit, hentries, List.countP_append] at hle
    by_contra hlast
    rw [List.countP_cons_of_pos (by simpa using hlast)] at hle
    omega
  · rintro rfl
    have hkept := p.represents_caseLines unit
    rw [hinit] at hkept
    rw [hentries, Represents, List.filter_append, List.filter_cons_of_neg (by simp),
      List.filter_nil, List.append_nil]
    exact hkept

end Representation

section Closing

@[simp] theorem endsEmpty_nil : EndsEmpty [] := by
  simp [EndsEmpty]

theorem endsEmpty_cons : EndsEmpty (entry :: entries) ↔
    (entries = [] → entry = []) ∧ EndsEmpty entries := by
  cases entries <;> simp [EndsEmpty]

theorem closes_nil : p.Closes [] := by
  intro before after h
  simp at h

theorem closes_cons_opening :
    p.Closes (p.opening :: lines) ↔ p.ClosesNext lines ∧ p.Closes lines := by
  constructor
  · exact fun h => ⟨h [] lines rfl,
      fun before after heq => h (p.opening :: before) after (by simp [heq])⟩
  · rintro ⟨hnext, hrest⟩ before after heq
    cases before with
    | nil =>
      cases heq
      exact hnext
    | cons _ before =>
      cases heq
      exact hrest before after rfl

theorem closes_cons_of_ne (h : line ≠ p.opening) : p.Closes (line :: lines) ↔ p.Closes lines := by
  constructor
  · exact fun hcloses before after heq => hcloses (line :: before) after (by simp [heq])
  · intro hrest before after heq
    cases before with
    | nil =>
      cases heq
      exact absurd rfl h
    | cons _ before =>
      cases heq
      exact hrest before after rfl

theorem closes_append_of_notMem (h : p.opening ∉ more) :
    p.Closes (more ++ lines) ↔ p.Closes lines := by
  induction more with
  | nil => rfl
  | cons line more ih =>
    obtain ⟨hline, hmore⟩ := not_or.mp (mt List.mem_cons.mpr h)
    rw [List.cons_append, closes_cons_of_ne (Ne.symm hline), ih hmore]

theorem not_closesNext_nil : ¬ p.ClosesNext [] := by
  rintro ⟨body, rest, heq, -⟩
  simp [closing] at heq

theorem closesNext_closing_append : p.ClosesNext (p.closing ++ lines) :=
  ⟨[], lines, rfl, List.not_mem_nil⟩

theorem closesNext_cons_of_ne (hopening : line ≠ p.opening)
    (hclosing : line ≠ p.caseMargin ++ "is".toList) :
    p.ClosesNext (line :: lines) ↔ p.ClosesNext lines := by
  constructor
  · rintro ⟨body, rest, heq, hbody⟩
    cases body with
    | nil => exact absurd (List.cons.inj heq).1 hclosing
    | cons _ body =>
      cases heq
      exact ⟨body, rest, rfl, fun h => hbody (List.mem_cons_of_mem _ h)⟩
  · rintro ⟨body, rest, rfl, hbody⟩
    exact ⟨line :: body, rest, rfl, mt List.mem_cons.mp (not_or.mpr ⟨Ne.symm hopening, hbody⟩)⟩

theorem opening_notMem_unproved : p.opening ∉ Lack.unproved p.caseMargin p.bodyMargin := by
  simp only [Lack.unproved, List.mem_cons, List.not_mem_nil, or_false, not_or]
  refine ⟨?_, ?_, ?_⟩
  · exact (bodyMargin_append_ne ⟨'c', rfl, by decide⟩ (by decide)).symm
  · exact fun h => absurd (List.append_cancel_left h) (by decide)
  · simp [opening]

theorem opening_notMem_closing : p.opening ∉ p.closing := by
  refine mt List.mem_cons.mp (not_or.mpr ⟨?_, opening_notMem_unproved⟩)
  exact fun h => absurd (List.append_cancel_left h) (by decide)

theorem opening_notMem_labelLines (p : Site) (labels : List Text) :
    p.opening ∉ p.labelLines labels := by
  simp only [labelLines, List.mem_flatMap, List.mem_cons, not_exists, not_and, not_or]
  exact fun label _ => ⟨labelLine_ne_opening.symm, opening_notMem_unproved⟩

/-- The case that is open is closed by what comes for the lines, and so is every case after it. -/
def OpenCloses (p : Site) (unit : Option CompilationUnit) (entries : List Text) : Prop :=
  p.ClosesNext (p.ruleLines unit false entries) ∧ p.Closes (p.ruleLines unit false entries)

theorem closes_ruleLines_of_open
    (h : p.OpenCloses unit entries ↔ entries ≠ [] ∧ EndsEmpty entries) :
    p.Closes (p.ruleLines unit true entries) ↔ EndsEmpty entries := by
  cases entries with
  | nil => simp [ruleLines, closes_nil]
  | cons entry rest =>
    have hopens : p.ruleLines unit true (entry :: rest) =
        p.opening :: p.ruleLines unit false (entry :: rest) := by simp [ruleLines]
    rw [hopens, closes_cons_opening]
    exact h.trans (and_iff_right (List.cons_ne_nil _ _))

/-- An open case, and every later one, is closed just when there is a line and the last one is
empty. -/
theorem openCloses_iff (p : Site) (unit : Option CompilationUnit) (entries : List Text) :
    p.OpenCloses unit entries ↔ entries ≠ [] ∧ EndsEmpty entries := by
  induction entries with
  | nil => simp [OpenCloses, ruleLines, not_closesNext_nil]
  | cons entry rest ih =>
    rw [OpenCloses, ruleLines, endsEmpty_cons]
    by_cases hnil : entry = []
    · -- the case ends here, and the lines behind it start with a case
      have hclosed : p.ClosesNext (p.closing ++ p.ruleLines unit true rest) :=
        closesNext_closing_append
      simp [hnil, hclosed, closes_append_of_notMem opening_notMem_closing,
        closes_ruleLines_of_open ih]
    · -- the case goes on
      have hopening : p.bodyMargin ++ shownLine unit entry ≠ p.opening :=
        bodyLine_ne ⟨'c', rfl, by decide⟩
      have hclosing : p.bodyMargin ++ shownLine unit entry ≠ p.caseMargin ++ "is".toList :=
        bodyLine_ne ⟨'i', rfl, by decide⟩
      simp [hnil, closesNext_cons_of_ne hopening hclosing, closes_cons_of_ne hopening]
      exact ih

theorem closes_ruleLines_iff (p : Site) (unit : Option CompilationUnit) (entries : List Text) :
    p.Closes (p.ruleLines unit true entries) ↔ EndsEmpty entries :=
  closes_ruleLines_of_open (p.openCloses_iff unit entries)

theorem closes_caseLines_iff (p : Site) (unit : Option CompilationUnit) :
    p.Closes (p.caseLines unit) ↔ (p.hasBlocks = true → EndsEmpty p.entries.dropLast) := by
  unfold caseLines
  split_ifs with hblocks
  · simp [hblocks, closes_ruleLines_iff]
  · have hlabels : p.Closes (p.labelLines p.entries.dropLast) := by
      rw [← List.append_nil (p.labelLines _),
        closes_append_of_notMem (p.opening_notMem_labelLines _)]
      exact closes_nil
    simp [hblocks, hlabels]

end Closing

end Site

namespace Problem

open Site

variable {q : Problem} {document text : Text} {unit : Option CompilationUnit} {layout : Layout}

theorem fixes_eq_of_missingCase (htag : q.tag = .missingCase)
    (hsingle : q.range.isSingleLine = true)
    (hline : document.lineText? q.range.start.line = some text) :
    let p := q.siteOn document text layout
    q.fixes document unit layout = (p.addCases? unit).toList := by
  intro p
  have hfix : q.fixesAt unit p = (p.addCases? unit).toList := by rw [fixesAt, htag]
  by_cases hpayload : q.payload = []
  · have hentries : p.entries = [[]] := by
      simp [p, siteOn, entries, hpayload, Text.split, Text.dropReturn, Text.dropLast?]
    have hcases : p.cases unit = [] := by
      rw [cases_eq, caseLines, hentries]
      simp [ruleLines, labelLines]
    have hadd : p.addCases? unit = none := by rw [addCases?_eq, if_pos hcases]
    rw [hadd, fixes_eq_nil hline (hfix.trans (congrArg Option.toList hadd))]
    rfl
  · rw [fixes_eq hsingle hline hpayload, hfix]

/-- The cases that a fix inserts, line by line. They have every line of the payload just when its
last line is empty, and leave no case of a rule open just when the line before it is empty too. -/
theorem fixes_of_missingCase (htag : q.tag = .missingCase)
    (hsingle : q.range.isSingleLine = true)
    (hline : document.lineText? q.range.start.line = some text) :
    let p := q.siteOn document text layout
    let lines := p.caseLines unit
    let cases := Text.endedBy layout.terminator lines
    q.fixes document unit layout =
        (if cases = [] then none
        else if p.isContradiction then p.contradictionToCases? cases
        else some ⟨"insert missing case(s)".toList, [p.insertAfter cases]⟩).toList ∧
      (p.Represents unit p.entries lines ↔ EndsEmpty p.entries) ∧
      (p.Closes lines ↔ (p.hasBlocks = true → EndsEmpty p.entries.dropLast)) := by
  intro p lines cases
  have hcases : p.cases unit = cases := p.cases_eq unit
  refine ⟨?_, p.represents_entries_iff unit, p.closes_caseLines_iff unit⟩
  rw [fixes_eq_of_missingCase htag hsingle hline, addCases?_eq, hcases]

theorem fixes_of_returned_lines :
    let q := Problem.mk .missingCase "x\r\n\r\n".toList ⟨⟨0, 0⟩, ⟨0, 1⟩⟩
    let p := q.siteOn ['d'] ['d'] {}
    let lines := ["    case rule".toList, "        _: x".toList, "    is".toList,
      "        proof by unproved".toList, "    end case".toList, []]
    q.fixes ['d'] none {} =
        [⟨"insert missing case(s)".toList, [p.insertAfter (Text.terminated lines)]⟩] ∧
      p.Represents none ["x".toList, [], []] lines ∧ p.Closes lines := by
  intro q p lines
  obtain ⟨hfixes, hkept, hclosed⟩ := @fixes_of_missingCase q ['d'] ['d'] none {} rfl rfl (by decide)
  have hlines : p.caseLines none = lines := by decide
  have hentries : p.entries = ["x".toList, [], []] := by decide
  rw [hlines] at hfixes hkept hclosed
  rw [hentries] at hkept hclosed
  refine ⟨?_, hkept.mpr (by simp [EndsEmpty]), hclosed.mpr fun _ => by simp [EndsEmpty]⟩
  rw [hfixes]
  decide

/-- Without a line feed at the end of the payload its last line is lost, and without an empty line
before it the case stays open. -/
theorem unfinished_case :
    let q := Problem.mk .missingCase "x\n\ny\nz".toList ⟨⟨0, 0⟩, ⟨0, 1⟩⟩
    let p := q.siteOn ['d'] ['d'] {}
    let lines := ["    case rule".toList, "        _: x".toList, "    is".toList,
      "        proof by unproved".toList, "    end case".toList, [],
      "    case rule".toList, "        _: y".toList]
    q.fixes ['d'] none {} =
        [⟨"insert missing case(s)".toList, [p.insertAfter (Text.terminated lines)]⟩] ∧
      p.entries = ["x".toList, [], "y".toList, "z".toList] ∧
      ¬ p.Represents none p.entries lines ∧ ¬ p.Closes lines := by
  intro q p lines
  have hlines : p.caseLines none = lines := by decide
  have hentries : p.entries = ["x".toList, [], "y".toList, "z".toList] := by decide
  have hblocks : p.hasBlocks = true := by decide
  rw [← hlines]
  refine ⟨by decide, hentries, ?_, ?_⟩
  · rw [represents_entries_iff, hentries]
    simp [EndsEmpty]
  · rw [closes_caseLines_iff, hentries]
    simp [EndsEmpty, hblocks]

end Problem

end ProofDesk
