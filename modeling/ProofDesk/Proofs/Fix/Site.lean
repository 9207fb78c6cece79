import ProofDesk.Fix.Propose
import ProofDesk.Proofs.Text.Lines

namespace ProofDesk

namespace Edit

/-- The edit puts `new` in the place of `old` on a line, between `before` and `after`; the rest of
the text stays. -/
structure Exchanges (e : Edit) (s : Text) (line : Nat) (before old after new : Text) : Prop where
  reads : s.textIn e.range = old
  applied : ∃ above below, s.Divided line above (before ++ old ++ after) below ∧
    e.apply s = above ++ (before ++ new ++ after) ++ below

variable {s front old back : Text} {e : Edit}

theorem apply_of_offsets (hs : s = front ++ old ++ back)
    (hstart : s.offsetAt e.range.start = front.bytes)
    (hstop : s.offsetAt e.range.stop = (front ++ old).bytes) :
    s.textIn e.range = old ∧ e.apply s = front ++ e.newText ++ back := by
  have hmax : max (front ++ old).bytes front.bytes = (front ++ old).bytes := by
    rw [Text.bytes_append]
    omega
  constructor
  · simp only [Text.textIn, hstart, hstop, hmax]
    rw [hs, Text.slice_bytes_append]
  · simp only [apply, hstart, hstop, hmax]
    rw [hs, Text.dropBytes_bytes_append, List.append_assoc front, Text.takeBytes_bytes_append]

theorem apply_point {position : Position} (hs : s = front ++ back)
    (h : s.offsetAt position = front.bytes) (new : Text) :
    apply s ⟨.point position, new⟩ = front ++ new ++ back := by
  have hparts : s = front ++ [] ++ back := by rw [hs, List.append_nil]
  have hstop : s.offsetAt position = (front ++ []).bytes := by rw [List.append_nil, h]
  exact (apply_of_offsets (e := ⟨.point position, new⟩) hparts h hstop).2

theorem exchanges_spanAfter {line : Nat} {before after : Text}
    (h : s.lineText? line = some (before ++ old ++ after)) (new : Text) :
    Exchanges ⟨Text.spanAfter line before old, new⟩ s line before old after new := by
  obtain ⟨above, below, hdiv⟩ := Text.exists_divided h
  have hs : s = (above ++ before) ++ old ++ (after ++ below) := by
    rw [hdiv.parts]
    simp
  have hstart : s.offsetAt ⟨line, before.units⟩ = (above ++ before).bytes := by
    rw [List.append_assoc] at hdiv
    exact hdiv.offset_units
  have hstop : s.offsetAt ⟨line, before.units + old.units⟩ = (above ++ before ++ old).bytes := by
    rw [← Text.units_append, hdiv.offset_units, List.append_assoc]
  obtain ⟨hreads, happly⟩ :=
    apply_of_offsets (e := ⟨Text.spanAfter line before old, new⟩) hs hstart hstop
  refine ⟨hreads, above, below, hdiv, ?_⟩
  rw [happly]
  simp

end Edit

namespace Site

variable {p : Site}

/-- An empty first line is not found, so there is nothing to exchange. -/
theorem mendPackage_of_nil (h : p.first = []) :
    p.mendPackage = ((p.second?.filter (· ≠ [])).map fun package =>
      ⟨insertTitle package, [p.insertAfter (package ++ p.layout.terminator)]⟩ : Option Fix).toList := by
  have hlocate : p.locate? [] = none := by rw [locate?, if_pos rfl]
  simp [mendPackage, h, hlocate]

theorem mendPackage_of_ne_nil (h : p.first ≠ []) :
    p.mendPackage = ((p.locate? p.first).bind fun old => p.second?.map fun new =>
      .single (if new = [] then removeTitle p.first else replaceTitle p.first new) old new).toList := by
  simp [mendPackage, h]

end Site

namespace Problem

/-- The place of a problem in a text, given the text of its line. -/
def siteOn (q : Problem) (document lineText : Text) (layout : Layout) : Site :=
  ⟨document, q.range.start.line, lineText, q.payload, layout⟩

variable {q : Problem} {document text : Text} {unit : Option CompilationUnit} {layout : Layout}

theorem payload_ne_nil (h : (q.siteOn document text layout).first ≠ []) : q.payload ≠ [] := by
  intro hnil
  apply h
  simp [Site.first, Site.entries, siteOn, hnil, Text.split, Text.dropReturn, Text.dropLast?]

theorem fixes_eq (hsingle : q.range.isSingleLine = true)
    (hline : document.lineText? q.range.start.line = some text) (hpayload : q.payload ≠ []) :
    q.fixes document unit layout = q.fixesAt unit (q.siteOn document text layout) := by
  have hempty : q.payload.isEmpty = false := by simpa using hpayload
  simp [fixes, site?, hsingle, hempty, hline, siteOn]

theorem fixesAt_cases (q : Problem) (unit : Option CompilationUnit) (p : Site) :
    q.fixesAt unit p = [] ∨ ∃ fix, q.fixesAt unit p = [fix] := by
  have hoption : ∀ o : Option Fix, o.toList = [] ∨ ∃ fix, o.toList = [fix] := by
    intro o
    cases o with
    | none => exact Or.inl rfl
    | some fix => exact Or.inr ⟨fix, rfl⟩
  rw [fixesAt]
  cases q.tag with
  | wrongPackage =>
    by_cases hfirst : p.first = []
    · simp only [Site.mendPackage_of_nil hfirst]
      exact hoption _
    · simp only [Site.mendPackage_of_ne_nil hfirst]
      exact hoption _
  | missingAssumes | assumedAssumes | derivationNotFound => exact Or.inr ⟨_, rfl⟩
  | caseRedundant | caseUnnecessary | unknown => exact Or.inl rfl
  | _ => exact hoption _

/-- There is no fix, or there is one, for a problem of one line that the text has. -/
theorem fixes_cases (q : Problem) (document : Text) (unit : Option CompilationUnit)
    (layout : Layout) :
    q.fixes document unit layout = [] ∨
      ∃ text fix, document.lineText? q.range.start.line = some text ∧
        q.fixesAt unit (q.siteOn document text layout) = [fix] ∧
        q.fixes document unit layout = [fix] := by
  cases hsite : q.site? document layout with
  | none => exact Or.inl (by simp [fixes, hsite])
  | some p =>
    have hp : ∃ text, document.lineText? q.range.start.line = some text ∧
        q.siteOn document text layout = p := by
      unfold site? at hsite
      split at hsite
      · cases hsite
      · exact Option.map_eq_some_iff.mp hsite
    obtain ⟨text, hline, rfl⟩ := hp
    rcases fixesAt_cases q unit (q.siteOn document text layout) with hfix | ⟨fix, hfix⟩
    · exact Or.inl (by simp [fixes, hsite, hfix])
    · exact Or.inr ⟨text, fix, hline, hfix, by simp [fixes, hsite, hfix]⟩

theorem fixes_eq_nil (hline : document.lineText? q.range.start.line = some text)
    (h : q.fixesAt unit (q.siteOn document text layout) = []) :
    q.fixes document unit layout = [] := by
  rcases fixes_cases q document unit layout with hnil | ⟨text', fix, hline', hfix, -⟩
  · exact hnil
  · obtain rfl : text = text' := Option.some.inj (hline.symm.trans hline')
    rw [h] at hfix
    cases hfix

end Problem

end ProofDesk
