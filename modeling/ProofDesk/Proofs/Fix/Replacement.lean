import ProofDesk.Proofs.Fix.Site
import ProofDesk.Proofs.Text.Occurrence

namespace ProofDesk

/-- The problem is mended by one text in the place of another, which may be empty. -/
def Tag.isReplaced : Tag → Bool
  | .abstractNotPermitted | .illegalAssumes | .extraneousAssumes | .ruleNotTheorem
  | .theoremNotRule | .theoremKindWrong | .theoremKindMissing | .inductionRepeat | .wrongEnd
  | .wrongModuleName | .partialCaseAnalysis | .wrongPackage => true
  | _ => false

namespace Site

open Text (FirstAt spanAfter)

/-- What takes the place of the first payload line: the second one. Where a text is removed an
absent second line counts as an empty one. A package may be removed too, but only by an empty line
that is there. -/
def replacement? (p : Site) : Tag → Option Text
  | .abstractNotPermitted | .illegalAssumes | .extraneousAssumes => some (p.second?.getD [])
  | .wrongPackage => p.second?
  | _ => p.second?.filter (· ≠ [])

variable (p : Site) {needle before after : Text}

theorem locate?_of_firstAt (hne : needle ≠ []) (h : FirstAt needle p.lineText before after) :
    p.locate? needle = some (spanAfter p.line before needle) := by
  rw [locate?, if_neg hne, Text.find?_eq_some_iff.mpr h]

theorem locate?_of_trim (hnot : ¬ needle <:+: p.lineText)
    (htrim : needle.trim = Text.trim p.lineText) :
    p.locate? needle = some (spanAfter p.line [] p.lineText) := by
  have hne : needle ≠ [] := by
    rintro rfl
    exact hnot (List.nil_infix)
  rw [locate?, if_neg hne, Text.find?_eq_none_iff.mpr hnot]
  exact if_pos htrim

theorem locate?_eq_none
    (h : needle = [] ∨ ¬ needle <:+: p.lineText ∧ needle.trim ≠ Text.trim p.lineText) :
    p.locate? needle = none := by
  rcases h with rfl | ⟨hnot, htrim⟩
  · rfl
  · have hfind := Text.find?_eq_none_iff.mpr hnot
    simp [locate?, hfind, htrim]

theorem replaceFirst?_eq :
    p.replaceFirst? = (p.locate? p.first).bind fun old =>
      (p.second?.filter (· ≠ [])).map fun new => .single (replaceTitle p.first new) old new := by
  unfold replaceFirst?
  cases p.locate? p.first with
  | none => rfl
  | some old =>
    cases p.second? with
    | none => rfl
    | some new => by_cases h : new = [] <;> simp [h, Option.filter]

theorem replaceOrRemove?_eq :
    p.replaceOrRemove? = (p.locate? p.first).map fun old =>
      let new := p.second?.getD []
      .single (if new = [] then removeTitle p.first else replaceTitle p.first new) old new := by
  unfold replaceOrRemove?
  rw [replaceFirst?_eq]
  cases p.locate? p.first with
  | none => rfl
  | some old =>
    cases p.second? with
    | none => rfl
    | some new => by_cases h : new = [] <;> simp [h, Option.filter]

end Site

namespace Problem

open Text (FirstAt)

/-- One fix with one edit, which puts the replacement in the place of what was found. -/
theorem fixesAt_of_isReplaced {q : Problem} (htag : q.tag.isReplaced = true)
    (unit : Option CompilationUnit) (p : Site) (hfirst : q.tag = .wrongPackage → p.first ≠ []) :
    ∃ title : Text → Text, q.fixesAt unit p = ((p.locate? p.first).bind fun old =>
      (p.replacement? q.tag).map fun new => .single (title new) old new).toList := by
  obtain ⟨tag, payload, range⟩ := q
  cases tag with
  | abstractNotPermitted | illegalAssumes | extraneousAssumes =>
    refine ⟨fun new => if new = [] then Site.removeTitle p.first
      else Site.replaceTitle p.first new, ?_⟩
    simp only [fixesAt, Site.replaceOrRemove?_eq]
    cases p.locate? p.first <;> rfl
  | ruleNotTheorem | theoremNotRule | theoremKindWrong | theoremKindMissing | inductionRepeat
  | wrongEnd | wrongModuleName | partialCaseAnalysis =>
    exact ⟨_, congrArg Option.toList p.replaceFirst?_eq⟩
  | wrongPackage => exact ⟨_, Site.mendPackage_of_ne_nil (hfirst rfl)⟩
  | _ => cases htag

section

variable {q : Problem} {document text : Text} {unit : Option CompilationUnit} {layout : Layout}

theorem fixes_of_locate? {old : Range} {new : Text} (htag : q.tag.isReplaced = true)
    (hsingle : q.range.isSingleLine = true)
    (hline : document.lineText? q.range.start.line = some text)
    (hold : (q.siteOn document text layout).locate? (q.siteOn document text layout).first =
      some old)
    (hnew : (q.siteOn document text layout).replacement? q.tag = some new) :
    ∃ title, q.fixes document unit layout = [.single title old new] := by
  have hne : (q.siteOn document text layout).first ≠ [] := by
    intro hnil
    rw [Site.locate?_eq_none _ (Or.inl hnil)] at hold
    cases hold
  obtain ⟨title, hfix⟩ := fixesAt_of_isReplaced htag unit _ fun _ => hne
  refine ⟨title new, ?_⟩
  rw [fixes_eq hsingle hline (payload_ne_nil hne), hfix, hold, hnew]
  rfl

theorem fixes_of_isReplaced (htag : q.tag.isReplaced = true)
    (hsingle : q.range.isSingleLine = true)
    (hline : document.lineText? q.range.start.line = some text)
    (hfirst : q.tag = .wrongPackage → (q.siteOn document text layout).first ≠ []) :
    let p := q.siteOn document text layout
    (∀ before after new, p.first ≠ [] → FirstAt p.first text before after →
      p.replacement? q.tag = some new →
        ∃ title e, q.fixes document unit layout = [⟨title, [e]⟩] ∧
          e.Exchanges document p.line before p.first after new) ∧
    (∀ new, ¬ p.first <:+: text → p.first.trim = text.trim → p.replacement? q.tag = some new →
        ∃ title e, q.fixes document unit layout = [⟨title, [e]⟩] ∧
          e.Exchanges document p.line [] text [] new) ∧
    (p.first = [] ∨ ¬ p.first <:+: text ∧ p.first.trim ≠ text.trim ∨ p.replacement? q.tag = none →
      q.fixes document unit layout = []) := by
  intro p
  refine ⟨?_, ?_, ?_⟩
  · intro before after new hne hat hnew
    have hold := p.locate?_of_firstAt hne hat
    obtain ⟨title, hfixes⟩ := fixes_of_locate? htag hsingle hline hold hnew
    refine ⟨title, _, hfixes, Edit.exchanges_spanAfter ?_ new⟩
    rw [← hat.parts]
    exact hline
  · intro new hnot htrim hnew
    have hold := p.locate?_of_trim hnot htrim
    obtain ⟨title, hfixes⟩ := fixes_of_locate? htag hsingle hline hold hnew
    refine ⟨title, _, hfixes, Edit.exchanges_spanAfter ?_ new⟩
    rw [List.nil_append, List.append_nil]
    exact hline
  · intro hnone
    obtain ⟨title, hfix⟩ := fixesAt_of_isReplaced htag unit p hfirst
    refine fixes_eq_nil hline ?_
    rw [hfix]
    rcases hnone with hnil | hnot | hnew
    · rw [p.locate?_eq_none (Or.inl hnil)]
      rfl
    · rw [p.locate?_eq_none (Or.inr hnot)]
      rfl
    · rw [hnew]
      cases p.locate? p.first <;> rfl

end

theorem fixes_of_illegal_assumes :
    let q := Problem.mk .illegalAssumes "𝒳\r\ny".toList ⟨⟨1, 0⟩, ⟨1, 9⟩⟩
    let s : Text := "é𝒳\r\na∀𝒳b𝒳 c\r\nd".toList
    ∃ title e, q.fixes s none {} = [⟨title, [e]⟩] ∧
      e.Exchanges s 1 "a∀".toList ['𝒳'] "b𝒳 c".toList ['y'] := by
  intro q s
  have hline : Text.lineText? s q.range.start.line = some "a∀𝒳b𝒳 c".toList := by decide
  have hat : Text.FirstAt ['𝒳'] "a∀𝒳b𝒳 c".toList "a∀".toList "b𝒳 c".toList :=
    Text.find?_eq_some_iff.mp (by decide)
  exact (fixes_of_isReplaced rfl rfl hline (by decide)).1 _ _ _ (by decide) hat (by decide)

end Problem

end ProofDesk
