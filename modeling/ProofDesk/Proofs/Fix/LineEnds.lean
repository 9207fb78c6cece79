import Mathlib.Data.List.Basic
import ProofDesk.Proofs.Fix.Site
import ProofDesk.Proofs.Text.Occurrence

namespace ProofDesk

namespace Text

/-- The text with CRLF in the place of every LF. -/
def withReturns (s : Text) : Text :=
  s.flatMap fun c => if c = '\n' then ['\r', '\n'] else [c]

variable {s : Text}

theorem withReturns_append (a b : Text) :
    withReturns (a ++ b) = withReturns a ++ withReturns b :=
  List.flatMap_append

theorem withReturns_of_not_mem (h : '\n' ∉ s) : withReturns s = s := by
  induction s with
  | nil => rfl
  | cons c s ih =>
    rw [List.mem_cons, not_or] at h
    rw [withReturns, List.flatMap_cons, if_neg (Ne.symm h.1), ← withReturns, ih h.2]
    rfl

theorem length_withReturns (s : Text) : (withReturns s).length = s.length + s.count '\n' := by
  induction s with
  | nil => rfl
  | cons c s ih =>
    rw [withReturns, List.flatMap_cons, List.length_append, ← withReturns, ih]
    by_cases hc : c = '\n'
    · simp [hc]
      omega
    · simp [hc]
      omega

theorem withReturns_eq_self_iff : withReturns s = s ↔ '\n' ∉ s := by
  refine ⟨fun h => ?_, withReturns_of_not_mem⟩
  have hlength := congrArg List.length h
  rw [length_withReturns] at hlength
  exact List.count_eq_zero.mp (by omega)

theorem withReturns_terminated {lines : List Text} (h : ∀ l ∈ lines, '\n' ∉ l) :
    withReturns (terminated lines) = terminated (lines.map fun l => l ++ ['\r']) := by
  induction lines with
  | nil => rfl
  | cons l lines ih =>
    obtain ⟨hl, hlines⟩ := List.forall_mem_cons.mp h
    have hcons : ∀ (l : Text) (ls : List Text),
        terminated (l :: ls) = l ++ ['\n'] ++ terminated ls := fun _ _ => rfl
    have hfeed : withReturns ['\n'] = ['\r'] ++ ['\n'] := rfl
    rw [hcons, withReturns_append, withReturns_append, withReturns_of_not_mem hl, ih hlines, hfeed,
      List.map_cons, hcons, ← List.append_assoc l]

theorem lineTexts_withReturns (h : '\r' ∉ s) : lineTexts (withReturns s) = lineTexts s := by
  obtain ⟨lines, last, rfl, hlines, hlast⟩ := exists_eq_terminated_append s
  have hfeed : ∀ l ∈ lines.map fun l => l ++ ['\r'], '\n' ∉ l := by
    intro l hl
    obtain ⟨raw, hraw, rfl⟩ := List.mem_map.mp hl
    simp [hlines raw hraw]
  have hsame : ∀ l ∈ lines, dropReturn (l ++ ['\r']) = dropReturn l := by
    intro l hl
    have hreturn : l.getLast? ≠ some '\r' := fun he => h (List.mem_append_left last
      (List.mem_flatMap.mpr ⟨l, hl, List.mem_append_left _ (List.mem_of_getLast? he)⟩))
    rw [dropReturn_append_return, dropReturn_of_getLast? hreturn]
  rw [withReturns_append, withReturns_terminated hlines, withReturns_of_not_mem hlast,
    lineTexts_terminated_append hfeed, lineTexts_terminated_append hlines, List.map_map]
  exact congrArg (· ++ lineTexts last) (List.map_congr_left hsame)

theorem filter_withReturns (h : '\r' ∉ s) : (withReturns s).filter (· ≠ '\r') = s := by
  induction s with
  | nil => rfl
  | cons c s ih =>
    rw [List.mem_cons, not_or] at h
    rw [withReturns, List.flatMap_cons, List.filter_append, ← withReturns, ih h.2]
    by_cases hc : c = '\n'
    · simp [hc]
    · simp [hc, Ne.symm h.1]

/-- Two line feeds in a row become two CRLF in a row, and come from nothing else. -/
theorem feeds_withReturns_iff (h : '\r' ∉ s) :
    ['\n', '\n'] <:+: withReturns s ∨ ['\r', '\n', '\r', '\n'] <:+: withReturns s ↔
      ['\n', '\n'] <:+: s := by
  constructor
  · -- without its carriage returns the text is what it was
    have hback : ∀ t : Text, t <:+: withReturns s → t.filter (· ≠ '\r') <:+: s := fun t ht => by
      have hfilter := ht.filter (· ≠ '\r')
      rwa [filter_withReturns h] at hfilter
    rintro (hfeeds | hreturns)
    · exact hback _ hfeeds
    · exact hback _ hreturns
  · rintro ⟨a, b, rfl⟩
    refine Or.inr ⟨withReturns a, withReturns b, ?_⟩
    rw [withReturns_append, withReturns_append]
    rfl

end Text

namespace Site

/-- The sites differ at most in how the lines of their payloads end. -/
structure Alike (p p' : Site) : Prop where
  document : p'.document = p.document
  line : p'.line = p.line
  lineText : p'.lineText = p.lineText
  layout : p'.layout = p.layout
  entries : p'.entries = p.entries
  hasBlocks : p'.hasBlocks = p.hasBlocks

namespace Alike

variable {p p' : Site} (h : p.Alike p') (unit : Option CompilationUnit)

include h

theorem first : p'.first = p.first := by
  rw [Site.first, h.entries, Site.first]

theorem second? : p'.second? = p.second? := by
  rw [Site.second?, h.entries, Site.second?]

theorem margin : p'.margin = p.margin := by
  rw [Site.margin, h.lineText, Site.margin]

theorem locate? (needle : Text) : p'.locate? needle = p.locate? needle := by
  rw [Site.locate?, h.line, h.lineText, Site.locate?]

theorem insertAfter (body : Text) : p'.insertAfter body = p.insertAfter body := by
  rw [Site.insertAfter, h.document, h.line, h.lineText, h.layout, Site.insertAfter]

theorem replaceFirst? : p'.replaceFirst? = p.replaceFirst? := by
  rw [Site.replaceFirst?, h.first, h.second?, h.locate?, Site.replaceFirst?]

theorem replaceOrRemove? : p'.replaceOrRemove? = p.replaceOrRemove? := by
  rw [Site.replaceOrRemove?, h.first, h.locate?, h.replaceFirst?, Site.replaceOrRemove?]

theorem mendPackage : p'.mendPackage = p.mendPackage := by
  simp only [Site.mendPackage, h.first, h.second?, h.locate?, h.insertAfter, h.layout]

theorem caseEnd : p'.caseEnd = p.caseEnd := by
  simp only [Site.caseEnd, Site.bodyMargin, Site.caseMargin, h.margin, h.layout]

theorem labelCases : p'.labelCases = p.labelCases := by
  simp only [Site.labelCases, Site.caseMargin, h.caseEnd, h.margin, h.layout, h.entries]

theorem ruleLine (entry : Text) : p'.ruleLine unit entry = p.ruleLine unit entry := by
  simp only [Site.ruleLine, Site.bodyMargin, Site.caseMargin, h.margin, h.layout]

theorem ruleCasesFrom (opening : Bool) (lines : List Text) :
    p'.ruleCasesFrom unit opening lines = p.ruleCasesFrom unit opening lines := by
  induction lines generalizing opening with
  | nil => rfl
  | cons entry lines ih =>
    simp only [Site.ruleCasesFrom, Site.caseMargin, h.caseEnd, h.ruleLine, h.margin, h.layout, ih]

theorem cases : p'.cases unit = p.cases unit := by
  simp only [Site.cases, Site.ruleCases, h.hasBlocks, h.entries, h.ruleCasesFrom, h.labelCases]

theorem contradictionToCases? (cases : Text) :
    p'.contradictionToCases? cases = p.contradictionToCases? cases := by
  simp only [Site.contradictionToCases?, h.lineText, h.line, h.layout, h.margin]

theorem addCases? : p'.addCases? unit = p.addCases? unit := by
  simp only [Site.addCases?, h.cases, h.lineText, h.contradictionToCases?, h.insertAfter]

theorem fillEllipsis? : p'.fillEllipsis? = p.fillEllipsis? := by
  simp only [Site.fillEllipsis?, h.first, h.second?, h.lineText, h.line]

theorem concludeContradiction? : p'.concludeContradiction? = p.concludeContradiction? := by
  simp only [Site.concludeContradiction?, h.margin, h.lineText, h.line]

theorem declareDerivation (use : Range) : p'.declareDerivation use = p.declareDerivation use := by
  simp only [Site.declareDerivation, Site.wholeLine, h.first, h.second?, h.margin, h.document,
    h.lineText, h.line, h.layout]

end Alike

theorem alike_withReturns {p : Site} (h : '\r' ∉ p.payload) :
    p.Alike { p with payload := p.payload.withReturns } where
  document := rfl
  line := rfl
  lineText := rfl
  layout := rfl
  entries := Text.lineTexts_withReturns h
  hasBlocks := by
    have hnone : ¬ ['\r', '\n', '\r', '\n'] <:+: p.payload :=
      fun hfound => h (hfound.subset List.mem_cons_self)
    have hfeeds : "\n\n".toList = ['\n', '\n'] := rfl
    have hreturns : "\r\n\r\n".toList = ['\r', '\n', '\r', '\n'] := rfl
    rw [Bool.eq_iff_iff, hasBlocks, hasBlocks, Bool.or_eq_true, Bool.or_eq_true, Text.contains_iff,
      Text.contains_iff, Text.contains_iff, Text.contains_iff, hfeeds, hreturns,
      Text.feeds_withReturns_iff h, or_iff_left hnone]

end Site

def Tag.isVerbatim : Tag → Bool
  | .missingAssumes | .assumedAssumes => true
  | _ => false

namespace Problem

variable {q q' : Problem} {document : Text} {unit : Option CompilationUnit} {layout : Layout}

theorem fixesAt_congr {p p' : Site} (h : p.Alike p') (htag : q'.tag = q.tag)
    (hrange : q'.range = q.range) (hverbatim : q.tag.isVerbatim = false) :
    q'.fixesAt unit p' = q.fixesAt unit p := by
  rw [fixesAt, fixesAt, htag, hrange]
  generalize q.tag = tag at hverbatim
  cases tag with
  | abstractNotPermitted | illegalAssumes | extraneousAssumes =>
    exact congrArg Option.toList h.replaceOrRemove?
  | ruleNotTheorem | theoremNotRule | theoremKindWrong | theoremKindMissing | inductionRepeat
  | wrongEnd | wrongModuleName | partialCaseAnalysis => exact congrArg Option.toList h.replaceFirst?
  | wrongPackage => exact h.mendPackage
  | missingCase => exact congrArg Option.toList (h.addCases? unit)
  | otherJustified => exact congrArg Option.toList h.fillEllipsis?
  | conclusionContradiction => exact congrArg Option.toList h.concludeContradiction?
  | derivationNotFound => exact congrArg (fun fix => [fix]) (h.declareDerivation q.range)
  | missingAssumes | assumedAssumes => cases hverbatim
  | caseRedundant | caseUnnecessary | unknown => rfl

/-- The problem with CRLF at the ends of its payload's lines. -/
def withReturns (q : Problem) : Problem :=
  { q with payload := q.payload.withReturns }

theorem site?_withReturns (q : Problem) (document : Text) (layout : Layout) :
    q.withReturns.site? document layout = (q.site? document layout).map fun p =>
      { p with payload := p.payload.withReturns } := by
  have hempty : q.payload.withReturns.isEmpty = q.payload.isEmpty := by
    have hlength := Text.length_withReturns q.payload
    rw [Bool.eq_iff_iff, List.isEmpty_iff_length_eq_zero, List.isEmpty_iff_length_eq_zero, hlength]
    have hcount : q.payload.count '\n' ≤ q.payload.length := List.count_le_length
    omega
  simp only [site?, withReturns, hempty]
  split
  · rfl
  · rw [Option.map_map]
    rfl

theorem payload_of_site? {p : Site} (h : q.site? document layout = some p) :
    p.payload = q.payload := by
  rw [site?] at h
  split at h
  · cases h
  · obtain ⟨text, -, rfl⟩ := Option.map_eq_some_iff.mp h
    rfl

theorem insertTitle_injective : Function.Injective Site.insertTitle :=
  fun _ _ h => List.append_cancel_left (List.append_cancel_right h)

/-- The title of a fix that inserts the payload shows the payload. -/
theorem exists_title_of_isVerbatim (h : q.tag.isVerbatim = true) (unit : Option CompilationUnit)
    (p : Site) : ∃ edits, q.fixesAt unit p = [⟨Site.insertTitle p.payload, edits⟩] := by
  rw [fixesAt]
  generalize q.tag = tag at h
  cases tag with
  | missingAssumes | assumedAssumes => exact ⟨_, rfl⟩
  | _ => cases h

theorem fixesAt_withReturns_iff (h : q.tag.isVerbatim = true) (unit : Option CompilationUnit)
    {p : Site} (hpayload : p.payload = q.payload) :
    q.withReturns.fixesAt unit { p with payload := p.payload.withReturns } = q.fixesAt unit p ↔
      '\n' ∉ q.payload := by
  have hverbatim : q.withReturns.tag.isVerbatim = true := h
  obtain ⟨edits, hfix⟩ := exists_title_of_isVerbatim h unit p
  obtain ⟨edits', hfix'⟩ := exists_title_of_isVerbatim hverbatim unit
    { p with payload := p.payload.withReturns }
  rw [← Text.withReturns_eq_self_iff, ← hpayload]
  constructor
  · intro hsame
    rw [hfix, hfix'] at hsame
    exact insertTitle_injective (Fix.mk.inj (List.cons.inj hsame).1).1
  · intro hsame
    have hq : q.withReturns = q := by rw [withReturns, ← hpayload, hsame, hpayload]
    rw [hq, hsame]

/-- LF and CRLF at the ends of a payload's lines give the same fixes, except where the payload is
inserted as it stands. There they give the same only if there is nothing to tell apart. -/
theorem fixes_withReturns (q : Problem) (hreturn : '\r' ∉ q.payload) (document : Text)
    (unit : Option CompilationUnit) (layout : Layout) :
    (q.tag.isVerbatim = false →
      q.withReturns.fixes document unit layout = q.fixes document unit layout) ∧
    (q.tag.isVerbatim = true →
      (q.withReturns.fixes document unit layout = q.fixes document unit layout ↔
        q.fixes document unit layout = [] ∨ '\n' ∉ q.payload)) := by
  rw [fixes, fixes, site?_withReturns]
  cases hsite : q.site? document layout with
  | none => simp
  | some p =>
    have hpayload := payload_of_site? hsite
    simp only [Option.map_some]
    refine ⟨fun hverbatim => ?_, fun hverbatim => ?_⟩
    · exact fixesAt_congr (Site.alike_withReturns (hpayload ▸ hreturn)) rfl rfl hverbatim
    · obtain ⟨edits, hfix⟩ := exists_title_of_isVerbatim hverbatim unit p
      have hne : q.fixesAt unit p ≠ [] := by simp [hfix]
      rw [or_iff_right hne, fixesAt_withReturns_iff hverbatim unit hpayload]

/-- The payload of two rules is read with either line end. The one that names what to assume goes
into the text as it is, with its carriage returns. -/
theorem fixes_of_returned_blocks :
    let blocks := Problem.mk .missingCase "p\n--- r\n\nc\n\n".toList ⟨⟨0, 0⟩, ⟨0, 1⟩⟩
    let assumed := Problem.mk .assumedAssumes "g\nh".toList ⟨⟨0, 0⟩, ⟨0, 1⟩⟩
    let s : Text := "d: t by case analysis on x:".toList
    blocks.withReturns.payload = "p\r\n--- r\r\n\r\nc\r\n\r\n".toList ∧
      blocks.withReturns.fixes s none {} = blocks.fixes s none {} ∧
      blocks.fixes s none {} ≠ [] ∧
      assumed.withReturns.fixes s none {} ≠ assumed.fixes s none {} := by
  intro blocks assumed s
  have hreturn : '\r' ∉ blocks.payload := by decide
  have hsame := (fixes_withReturns blocks hreturn s none {}).1 rfl
  have hiff := (fixes_withReturns assumed (by decide) s none {}).2 rfl
  refine ⟨rfl, hsame, by decide, fun h => ?_⟩
  rcases hiff.mp h with hnone | hfeed
  · exact absurd hnone (by decide)
  · exact hfeed (by decide)

end Problem

end ProofDesk
