import ProofDesk.Proofs.Fix.Insertion
import ProofDesk.Proofs.Text.Occurrence

namespace ProofDesk

namespace Text

variable {s terminator : Text}

/-- The word between the first and the second space of a text, or after its only one. -/
def SecondWord (s word : Text) : Prop :=
  ∃ head rest, s = head ++ ' ' :: (word ++ rest) ∧ ' ' ∉ head ∧ ' ' ∉ word ∧
    (rest = [] ∨ ∃ more, rest = ' ' :: more)

theorem split_cases (c : Char) (s : Text) :
    c ∉ s ∧ split c s = [s] ∨
      ∃ head rest, s = head ++ c :: rest ∧ c ∉ head ∧ split c s = head :: split c rest := by
  cases hcut : cut? c s with
  | none =>
    have hmem := cut?_eq_none_iff.mp hcut
    exact Or.inl ⟨hmem, split_of_not_mem hmem⟩
  | some parts =>
    obtain ⟨rfl, hhead⟩ := eq_append_of_cut? hcut
    refine Or.inr ⟨parts.1, parts.2, rfl, hhead, ?_⟩
    rw [split_append, split_of_not_mem hhead]
    rfl

theorem split_second_iff {word : Text} : (split ' ' s)[1]? = some word ↔ SecondWord s word := by
  constructor
  · intro h
    rcases split_cases ' ' s with ⟨-, hs⟩ | ⟨head, rest, rfl, hhead, hs⟩
    · simp [hs] at h
    · rcases split_cases ' ' rest with ⟨hrest, hr⟩ | ⟨second, more, rfl, hsecond, hr⟩
      · obtain rfl : rest = word := by simpa [hs, hr] using h
        exact ⟨head, [], by simp, hhead, hrest, Or.inl rfl⟩
      · obtain rfl : second = word := by simpa [hs, hr] using h
        exact ⟨head, ' ' :: more, rfl, hhead, hsecond, Or.inr ⟨more, rfl⟩⟩
  · rintro ⟨head, rest, rfl, hhead, hword, rfl | ⟨more, rfl⟩⟩
    · rw [List.append_nil, split_append, split_of_not_mem hhead, split_of_not_mem hword]
      rfl
    · rw [split_append, split_of_not_mem hhead, split_append, split_of_not_mem hword]
      rfl

theorem nil_mem_of_feeds {lines : List Text} (h : ∀ l ∈ lines, '\n' ∉ l)
    (hfeeds : ['\n', '\n'] <:+: terminated lines) : [] ∈ lines := by
  obtain ⟨before, after, hparts⟩ := hfeeds
  have hshape : terminated lines = before ++ '\n' :: ('\n' :: after) := by
    rw [← hparts]
    simp
  have hraw := rawLines_terminated h
  rw [hshape, rawLines, split_append] at hraw
  have hempty : split '\n' ('\n' :: after) = [] :: split '\n' after := by simp [split]
  have hdrop : lines = split '\n' before ++ [] :: (split '\n' after).dropLast := by
    have hlast := congrArg List.dropLast hraw
    rw [List.dropLast_concat, hempty, List.dropLast_append_of_ne_nil (List.cons_ne_nil _ _),
      List.dropLast_cons_of_ne_nil (split_ne_nil '\n' after)] at hlast
    exact hlast.symm
  rw [hdrop]
  simp

def endedBy (terminator : Text) (lines : List Text) : Text :=
  lines.flatMap fun l => l ++ terminator

@[simp] theorem endedBy_nil : endedBy terminator [] = [] := rfl

@[simp] theorem endedBy_cons (l : Text) (lines : List Text) :
    endedBy terminator (l :: lines) = l ++ terminator ++ endedBy terminator lines := rfl

@[simp] theorem endedBy_append (lines more : List Text) :
    endedBy terminator (lines ++ more) = endedBy terminator lines ++ endedBy terminator more :=
  List.flatMap_append

theorem endedBy_flatMap {α : Type} (f : α → List Text) (xs : List α) :
    endedBy terminator (xs.flatMap f) = xs.flatMap fun x => endedBy terminator (f x) :=
  List.flatMap_assoc

end Text

/-- A line of a payload. -/
structure Entry where
  text : Text
  nonempty : text ≠ []
  noReturn : '\r' ∉ text
  noFeed : '\n' ∉ text

/-- The lines of a rule. -/
structure Block where
  entries : List Entry
  nonempty : entries ≠ []

/-- What a case analysis lacks: cases for rules or for labels, at least one. -/
inductive Lack
  | rules (blocks : List Block) (nonempty : blocks ≠ [])
  | labels (entries : List Entry) (nonempty : entries ≠ [])

namespace Block

def lines (b : Block) : List Text :=
  b.entries.map Entry.text ++ [[]]

theorem feeds_infix_terminated (b : Block) : ['\n', '\n'] <:+: Text.terminated b.lines := by
  obtain ⟨init, e, hentries⟩ := (List.eq_nil_or_concat b.entries).resolve_left b.nonempty
  refine ⟨Text.terminated (init.map Entry.text) ++ e.text, [], ?_⟩
  rw [lines, hentries, List.concat_eq_append, List.map_append, Text.terminated_append,
    Text.terminated_append]
  simp [Text.terminated]

end Block

namespace Lack

def lines : Lack → List Text
  | rules blocks _ => blocks.flatMap Block.lines
  | labels entries _ => entries.map Entry.text

def encode (lack : Lack) : Text :=
  Text.terminated lack.lines

/-- The body of a case that is not proved yet, its end, and an empty line. -/
def unproved (outer inner : Text) : List Text :=
  [inner ++ "proof by unproved".toList, outer ++ "end case".toList, []]

/-- The lines of a case for a rule, at the indentation `outer` and inside at `inner`; `shown` tells
what becomes of a line of the rule. -/
def ruleCase (outer inner : Text) (shown : Text → Text) (b : Block) : List Text :=
  (outer ++ "case rule".toList) :: b.entries.map (fun e => inner ++ shown e.text)
    ++ (outer ++ "is".toList) :: unproved outer inner

def labelCase (outer inner : Text) (label : Entry) : List Text :=
  (outer ++ "case ".toList ++ label.text ++ " is".toList) :: unproved outer inner

def caseLines (outer inner : Text) (shown : Text → Text) : Lack → List Text
  | rules blocks _ => blocks.flatMap (ruleCase outer inner shown)
  | labels entries _ => entries.flatMap (labelCase outer inner)

theorem clean_lines (lack : Lack) : ∀ l ∈ lack.lines, '\r' ∉ l ∧ '\n' ∉ l := by
  intro l hl
  cases lack with
  | rules blocks _ =>
    obtain ⟨b, -, hb⟩ := List.mem_flatMap.mp hl
    rcases List.mem_append.mp hb with hentry | hnil
    · obtain ⟨e, -, rfl⟩ := List.mem_map.mp hentry
      exact ⟨e.noReturn, e.noFeed⟩
    · rw [List.mem_singleton.mp hnil]
      simp
  | labels entries _ =>
    obtain ⟨e, -, rfl⟩ := List.mem_map.mp hl
    exact ⟨e.noReturn, e.noFeed⟩

theorem feeds_infix_encode {blocks : List Block} (h : blocks ≠ []) :
    ['\n', '\n'] <:+: (rules blocks h).encode := by
  obtain ⟨b, rest, rfl⟩ := List.exists_cons_of_ne_nil h
  rw [encode, lines, List.flatMap_cons, Text.terminated_append]
  exact b.feeds_infix_terminated.trans (List.prefix_append _ _).isInfix

theorem encode_ne_nil (lack : Lack) : lack.encode ≠ [] := by
  cases lack with
  | rules blocks h =>
    intro hnil
    have hfeeds := feeds_infix_encode h
    rw [hnil] at hfeeds
    simp at hfeeds
  | labels entries h =>
    obtain ⟨e, rest, rfl⟩ := List.exists_cons_of_ne_nil h
    simp [encode, lines, Text.terminated]

theorem endedBy_caseLines_ne_nil (lack : Lack) (terminator outer inner : Text)
    (shown : Text → Text) : Text.endedBy terminator (lack.caseLines outer inner shown) ≠ [] := by
  cases lack with
  | rules blocks h =>
    obtain ⟨b, rest, rfl⟩ := List.exists_cons_of_ne_nil h
    simp [caseLines, ruleCase]
  | labels entries h =>
    obtain ⟨e, rest, rfl⟩ := List.exists_cons_of_ne_nil h
    simp [caseLines, labelCase]

end Lack

/-- The line names a rule of the unit whose bar can be drawn: its second word is the name, and the
rule is at least as wide as the shortest bar. -/
structure Redrawn (unit : Option CompilationUnit) (entry name : Text) (rule : Rule) : Prop where
  word : entry.SecondWord name
  found : ∃ u, unit = some u ∧ u.findRule? name = some rule
  wide : 3 ≤ rule.barWidth

/-- What a case has for a line of a rule: a premise or the conclusion without a name, or the bar,
six dashes wider than the rule. -/
inductive Shows (unit : Option CompilationUnit) (entry : Text) : Text → Prop
  | statement (h : ¬ "---".toList <+: entry) : Shows unit entry ("_: ".toList ++ entry)
  | redrawn {name : Text} {rule : Rule} (h : "---".toList <+: entry)
      (hrule : Redrawn unit entry name rule) :
      Shows unit entry (List.replicate (6 + rule.barWidth) '-' ++ ' ' :: name)
  | kept (h : "---".toList <+: entry) (hnone : ∀ name rule, ¬ Redrawn unit entry name rule) :
      Shows unit entry entry

namespace Site

variable {p : Site} {unit : Option CompilationUnit} {entry name : Text} {rule : Rule}

theorem ruleBar_of_redrawn (h : Redrawn unit entry name rule) :
    ruleBar unit entry = List.replicate (6 + rule.barWidth) '-' ++ ' ' :: name := by
  obtain ⟨u, rfl, hfound⟩ := h.found
  have hwide : ¬ rule.barWidth < 3 := Nat.not_lt.mpr h.wide
  have hdashes : "------".toList = List.replicate 6 '-' := by decide
  simp only [ruleBar, Text.split_second_iff.mpr h.word, Option.bind_some, hfound, if_neg hwide]
  rw [hdashes, List.replicate_append_replicate]

theorem ruleBar_of_not_redrawn (h : ∀ name rule, ¬ Redrawn unit entry name rule) :
    ruleBar unit entry = entry := by
  unfold ruleBar
  split
  next => rfl
  next name hword =>
    split
    next => rfl
    next rule hrule =>
      split_ifs with hwide
      · rfl
      · have hredrawn : Redrawn unit entry name rule := {
          word := Text.split_second_iff.mp hword
          found := Option.bind_eq_some_iff.mp hrule
          wide := Nat.not_lt.mp hwide }
        exact absurd hredrawn (h name rule)

def shownLine (unit : Option CompilationUnit) (entry : Text) : Text :=
  if Text.startsWith entry "---".toList then ruleBar unit entry else "_: ".toList ++ entry

theorem shows_iff {line : Text} : Shows unit entry line ↔ line = shownLine unit entry := by
  unfold shownLine
  split_ifs with hbar
  · have hprefix := Text.startsWith_iff.mp hbar
    constructor
    · rintro (h | ⟨-, hrule⟩ | ⟨-, hnone⟩)
      · exact absurd hprefix h
      · exact (ruleBar_of_redrawn hrule).symm
      · exact (ruleBar_of_not_redrawn hnone).symm
    · rintro rfl
      by_cases hrule : ∃ name rule, Redrawn unit entry name rule
      · obtain ⟨name, rule, hrule⟩ := hrule
        rw [ruleBar_of_redrawn hrule]
        exact .redrawn hprefix hrule
      · push Not at hrule
        rw [ruleBar_of_not_redrawn hrule]
        exact .kept hprefix hrule
  · have hprefix : ¬ "---".toList <+: entry := fun h => hbar (Text.startsWith_iff.mpr h)
    constructor
    · rintro (- | ⟨h, -⟩ | ⟨h, -⟩)
      · rfl
      · exact absurd h hprefix
      · exact absurd h hprefix
    · rintro rfl
      exact .statement hprefix

theorem ruleLine_eq (p : Site) (unit : Option CompilationUnit) (entry : Text) :
    p.ruleLine unit entry = p.bodyMargin ++ shownLine unit entry ++ p.layout.terminator := by
  unfold ruleLine lineOf shownLine
  split_ifs <;> simp

theorem caseEnd_eq (p : Site) :
    p.caseEnd = Text.endedBy p.layout.terminator (Lack.unproved p.caseMargin p.bodyMargin) := by
  simp [caseEnd, lineOf, Lack.unproved]

/-- The scan runs through the lines of a rule and starts the next case after the empty line. -/
theorem ruleCasesFrom_block (opening : Bool) {entries : List Text} (h : [] ∉ entries)
    (rest : List Text) :
    p.ruleCasesFrom unit opening (entries ++ [] :: rest) =
      (if opening then lineOf p.layout.terminator [p.caseMargin, "case rule".toList] else [])
        ++ entries.flatMap (p.ruleLine unit)
        ++ (lineOf p.layout.terminator [p.caseMargin, "is".toList] ++ p.caseEnd)
        ++ p.ruleCasesFrom unit true rest := by
  induction entries generalizing opening with
  | nil =>
    rw [List.nil_append, ruleCasesFrom, if_pos rfl]
    simp only [List.flatMap_nil, List.append_nil, List.append_assoc]
  | cons entry entries ih =>
    rw [List.mem_cons, not_or] at h
    obtain ⟨hentry, hentries⟩ := h
    rw [List.cons_append, ruleCasesFrom, if_neg (Ne.symm hentry), ih false hentries,
      List.flatMap_cons]
    simp only [Bool.false_eq_true, if_false, List.nil_append, List.append_assoc]

theorem endedBy_ruleCase (p : Site) (unit : Option CompilationUnit) (b : Block) :
    Text.endedBy p.layout.terminator
        (Lack.ruleCase p.caseMargin p.bodyMargin (shownLine unit) b) =
      lineOf p.layout.terminator [p.caseMargin, "case rule".toList]
        ++ (b.entries.map Entry.text).flatMap (p.ruleLine unit)
        ++ (lineOf p.layout.terminator [p.caseMargin, "is".toList] ++ p.caseEnd) := by
  have hlines : Text.endedBy p.layout.terminator
      (b.entries.map fun e => p.bodyMargin ++ shownLine unit e.text) =
        (b.entries.map Entry.text).flatMap (p.ruleLine unit) := by
    rw [Text.endedBy, List.flatMap_map, List.flatMap_map]
    simp only [ruleLine_eq]
  simp only [Lack.ruleCase, List.cons_append, Text.endedBy_cons, Text.endedBy_append, hlines,
    caseEnd_eq, lineOf]
  simp

theorem ruleCasesFrom_blocks (p : Site) (unit : Option CompilationUnit) (blocks : List Block) :
    p.ruleCasesFrom unit true (blocks.flatMap Block.lines) =
      Text.endedBy p.layout.terminator
        (blocks.flatMap (Lack.ruleCase p.caseMargin p.bodyMargin (shownLine unit))) := by
  induction blocks with
  | nil => simp [ruleCasesFrom]
  | cons b blocks ih =>
    have hentries : [] ∉ b.entries.map Entry.text := by
      intro hmem
      obtain ⟨e, -, he⟩ := List.mem_map.mp hmem
      exact e.nonempty he
    have hlines : (b :: blocks).flatMap Block.lines =
        b.entries.map Entry.text ++ [] :: blocks.flatMap Block.lines := by
      simp [Block.lines]
    rw [hlines, ruleCasesFrom_block true hentries, ih, List.flatMap_cons, Text.endedBy_append,
      endedBy_ruleCase, if_pos rfl]

theorem entries_of_encode {lack : Lack} (h : p.payload = lack.encode) :
    p.entries.dropLast = lack.lines := by
  have hraw : Text.split '\n' p.payload = lack.lines ++ [[]] := by
    rw [h]
    exact Text.rawLines_terminated fun l hl => (lack.clean_lines l hl).2
  have hsame : ∀ l ∈ lack.lines, Text.dropReturn l = l := by
    intro l hl
    refine Text.dropReturn_of_getLast? fun hlast => ?_
    exact (lack.clean_lines l hl).1 (List.mem_of_getLast? hlast)
  have hmap : (lack.lines ++ [[]]).map Text.dropReturn = lack.lines ++ [[]] := by
    rw [List.map_append, List.map_congr_left hsame, List.map_id']
    rfl
  rw [entries, hraw, hmap, List.dropLast_concat]

theorem hasBlocks_of_rules {blocks : List Block} {hne : blocks ≠ []}
    (h : p.payload = (Lack.rules blocks hne).encode) : p.hasBlocks = true := by
  have hfeeds : Text.contains p.payload "\n\n".toList = true := by
    rw [h, Text.contains_iff]
    exact Lack.feeds_infix_encode hne
  rw [hasBlocks, hfeeds, Bool.true_or]

theorem hasBlocks_of_labels {entries : List Entry} {hne : entries ≠ []}
    (h : p.payload = (Lack.labels entries hne).encode) : p.hasBlocks = false := by
  have hclean := (Lack.labels entries hne).clean_lines
  have hfeeds : ¬ "\n\n".toList <:+: p.payload := by
    rw [h]
    intro hfeeds
    have hnil := Text.nil_mem_of_feeds (fun l hl => (hclean l hl).2) hfeeds
    obtain ⟨e, -, he⟩ := List.mem_map.mp hnil
    exact e.nonempty he
  have hreturns : ¬ "\r\n\r\n".toList <:+: p.payload := by
    rw [h]
    intro hreturns
    have hmem : '\r' ∈ (Lack.labels entries hne).encode := hreturns.subset (by decide)
    exact Text.not_mem_terminated (by decide) (fun l hl => (hclean l hl).1) hmem
  rw [← Text.contains_iff, Bool.not_eq_true] at hfeeds hreturns
  rw [hasBlocks, hfeeds, hreturns, Bool.false_or]

theorem cases_of_encode {lack : Lack} (h : p.payload = lack.encode)
    (unit : Option CompilationUnit) :
    p.cases unit = Text.endedBy p.layout.terminator
      (lack.caseLines p.caseMargin p.bodyMargin (shownLine unit)) := by
  have hentries := entries_of_encode h
  cases lack with
  | rules blocks hne =>
    rw [cases, if_pos (hasBlocks_of_rules h), ruleCases, hentries]
    exact ruleCasesFrom_blocks p unit blocks
  | labels entries hne =>
    rw [cases, hasBlocks_of_labels h, if_neg (by decide), labelCases, hentries, Lack.lines,
      Lack.caseLines, Text.endedBy_flatMap, List.flatMap_map]
    simp [Lack.labelCase, lineOf, caseEnd_eq]

end Site

namespace Problem

/-- What a case analysis lacks is read back from the payload and is written as one case for every
rule or label. -/
theorem fixes_of_lack {q : Problem} {document text : Text} {unit : Option CompilationUnit}
    {layout : Layout} (lack : Lack) (htag : q.tag = .missingCase)
    (hsingle : q.range.isSingleLine = true)
    (hline : document.lineText? q.range.start.line = some text)
    (hpayload : q.payload = lack.encode) :
    let p := q.siteOn document text layout
    let outer := Text.indentation text ++ layout.indent
    ∃ shown : Text → Text, (∀ entry line, Shows unit entry line ↔ line = shown entry) ∧
      let cases := Text.endedBy layout.terminator
        (lack.caseLines outer (outer ++ layout.indent) shown)
      p.cases unit = cases ∧
      q.fixes document unit layout =
        (if p.isContradiction then p.contradictionToCases? cases
        else some ⟨"insert missing case(s)".toList, [p.insertAfter cases]⟩).toList := by
  intro p outer
  have hcases := Site.cases_of_encode (p := p) hpayload unit
  refine ⟨Site.shownLine unit, fun entry line => Site.shows_iff, hcases, ?_⟩
  have hfull : q.payload ≠ [] := by
    rw [hpayload]
    exact lack.encode_ne_nil
  have hne : p.cases unit ≠ [] := by
    rw [hcases]
    exact lack.endedBy_caseLines_ne_nil _ _ _ _
  have hfix : q.fixesAt unit p = (p.addCases? unit).toList := by rw [fixesAt, htag]
  rw [fixes_eq hsingle hline hfull, hfix, Site.addCases?_eq, if_neg hne, hcases]
  rfl

theorem fixes_of_one_rule :
    let unit : CompilationUnit := {
      judgments := [{ rules := [{
        premises := ["t1 == t2".toList]
        name := "eq-refl".toList
        conclusion := "t == t".toList }] }] }
    let premise : Entry := ⟨"t1 == t2".toList, by decide, by decide, by decide⟩
    let bar : Entry := ⟨"--- eq-refl".toList, by decide, by decide, by decide⟩
    let lack := Lack.rules [⟨[premise, bar], by decide⟩] (by decide)
    let q := Problem.mk .missingCase lack.encode ⟨⟨0, 2⟩, ⟨0, 3⟩⟩
    q.payload = "t1 == t2\n--- eq-refl\n\n".toList ∧
      q.fixes "  d: t by case analysis on d1:\n".toList (some unit) {} =
        [⟨"insert missing case(s)".toList, [⟨.point ⟨1, 0⟩, Text.terminated [
          "      case rule".toList,
          "          _: t1 == t2".toList,
          "          -------------- eq-refl".toList,
          "      is".toList,
          "          proof by unproved".toList,
          "      end case".toList,
          []]⟩]⟩] := by
  intro unit premise bar lack q
  have hline : Text.lineText? "  d: t by case analysis on d1:\n".toList 0 =
      some "  d: t by case analysis on d1:".toList := by decide
  obtain ⟨shown, hshown, -, hfixes⟩ :=
    @fixes_of_lack q _ _ (some unit) {} lack rfl rfl hline rfl
  have hpremise : shown premise.text = "_: t1 == t2".toList :=
    ((hshown _ _).mp (.statement (by decide))).symm
  have hbar : shown bar.text = "-------------- eq-refl".toList := by
    have hword : bar.text.SecondWord "eq-refl".toList := Text.split_second_iff.mp (by decide)
    have hrule : Redrawn (some unit) bar.text "eq-refl".toList unit.rules[0] :=
      ⟨hword, ⟨unit, rfl, rfl⟩, by decide⟩
    exact ((hshown _ _).mp (.redrawn (by decide) hrule)).symm
  refine ⟨by decide, hfixes.trans ?_⟩
  simp only [lack, Lack.caseLines, Lack.ruleCase, List.flatMap_cons, List.flatMap_nil,
    List.map_cons, List.map_nil, hpremise, hbar]
  decide

end Problem

end ProofDesk
