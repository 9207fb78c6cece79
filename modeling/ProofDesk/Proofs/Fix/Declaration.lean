import ProofDesk.Proofs.Fix.Site
import ProofDesk.Proofs.Text.Cuts

namespace ProofDesk

namespace Edit

/-- The text from an offset on with edits that were made for the whole text, in its order. -/
def applyFrom (s : Text) : Nat → List Edit → Text
  | offset, [] => Text.dropBytes offset s
  | offset, e :: rest =>
    let start := s.offsetAt e.range.start
    s.slice offset start ++ e.newText ++ applyFrom s (max (s.offsetAt e.range.stop) start) rest

def Precedes (s : Text) (e e' : Edit) : Prop :=
  e.range.stop ≤ e'.range.start ∧ s.offsetAt e.range.stop ≤ s.offsetAt e'.range.start

variable {s front gap old back : Text} {e : Edit}

theorem applyFrom_nil (hs : s = front ++ back) : applyFrom s front.bytes [] = back := by
  rw [hs, applyFrom, Text.dropBytes_bytes_append]

theorem applyFrom_cons (hs : s = front ++ gap ++ old ++ back)
    (hstart : s.offsetAt e.range.start = (front ++ gap).bytes)
    (hstop : max (s.offsetAt e.range.stop) (front ++ gap).bytes = (front ++ gap ++ old).bytes)
    (rest : List Edit) :
    applyFrom s front.bytes (e :: rest) =
      gap ++ e.newText ++ applyFrom s (front ++ gap ++ old).bytes rest := by
  have hslice : s.slice front.bytes (front ++ gap).bytes = gap := by
    rw [hs, List.append_assoc (front ++ gap), Text.slice_bytes_append]
  simp only [applyFrom, hstart, hstop, hslice]

end Edit

def Fix.apply (s : Text) (fix : Fix) : Text :=
  Edit.applyFrom s 0 fix.edits

theorem Fix.apply_single (s title : Text) (range : Range) (new : Text) :
    (Fix.single title range new).apply s = Edit.apply s ⟨range, new⟩ := by
  have hall : Text.dropBytes 0 s = s := Text.dropBytes_bytes_append [] s
  simp only [apply, single, Edit.applyFrom, Edit.apply, Text.slice, Nat.sub_zero, hall]

theorem Fix.apply_insertion_exchange {s front gap old back : Text} {position : Position}
    {range : Range} (hs : s = front ++ gap ++ old ++ back)
    (hposition : s.offsetAt position = front.bytes)
    (hstart : s.offsetAt range.start = (front ++ gap).bytes)
    (hstop : max (s.offsetAt range.stop) (front ++ gap).bytes = (front ++ gap ++ old).bytes)
    (title inserted new : Text) :
    Fix.apply s ⟨title, [⟨.point position, inserted⟩, ⟨range, new⟩]⟩ =
      front ++ inserted ++ gap ++ new ++ back := by
  have hparts : s = [] ++ front ++ [] ++ (gap ++ old ++ back) := by simp [hs]
  have hinsertion := Edit.applyFrom_cons (e := ⟨.point position, inserted⟩) hparts hposition
    (by simp [Range.point, hposition]) [⟨range, new⟩]
  have hexchange := Edit.applyFrom_cons (e := ⟨range, new⟩) hs hstart hstop []
  rw [Edit.applyFrom_nil hs] at hexchange
  simp only [List.nil_append, List.append_nil, Text.bytes_nil] at hinsertion
  rw [apply, hinsertion, hexchange]
  simp

namespace Text

variable {s above text below : Text} {line : Nat}

theorem Divided.offsetAt {p : Position} (h : Divided s line above text below)
    (hp : p.line = line) : s.offsetAt p = (above ++ takeUnits p.character text).bytes := by
  obtain ⟨l, column⟩ := p
  obtain rfl : l = line := hp
  rw [h.offset, bytes_append]

/-- Two columns of a line stand before and after the text between them, which is empty if they are
the wrong way round. -/
theorem Divided.exists_parts {r : Range} (h : Divided s line above text below)
    (hstart : r.start.line = line) (hstop : r.stop.line = line) :
    ∃ before after, text = before ++ s.textIn r ++ after ∧
      s.offsetAt r.start = (above ++ before).bytes ∧
      max (s.offsetAt r.stop) (above ++ before).bytes =
        (above ++ before ++ s.textIn r).bytes := by
  have hfirst := h.offsetAt hstart
  have hsecond := h.offsetAt hstop
  have hbefore := takeUnits_prefix r.start.character text
  have hupto := takeUnits_prefix r.stop.character text
  generalize takeUnits r.start.character text = before at hfirst hbefore
  generalize takeUnits r.stop.character text = upto at hsecond hupto
  refine ⟨before, ?_⟩
  rcases List.prefix_or_prefix_of_prefix hbefore hupto with ⟨old, rfl⟩ | ⟨gap, rfl⟩
  · obtain ⟨after, rfl⟩ := hupto
    rw [← List.append_assoc] at hsecond
    have hparts : s = (above ++ before) ++ old ++ (after ++ below) := by
      rw [h.parts]
      simp
    have hread := (Edit.apply_of_offsets (e := ⟨r, []⟩) hparts hfirst hsecond).1
    have hle : (above ++ before).bytes ≤ (above ++ before ++ old).bytes := by
      rw [bytes_append _ old]
      omega
    exact ⟨after, by rw [hread], hfirst, by rw [hread, hsecond, Nat.max_eq_left hle]⟩
  · obtain ⟨after, rfl⟩ := hbefore
    have hle : s.offsetAt r.stop ≤ s.offsetAt r.start := by
      rw [hfirst, hsecond, ← List.append_assoc, bytes_append _ gap]
      omega
    have hread : s.textIn r = [] := by
      rw [textIn, slice, Nat.max_eq_right hle, Nat.sub_self]
      exact takeBytes_bytes_append [] _
    refine ⟨after, ?_, hfirst, ?_⟩
    · rw [hread, List.append_nil]
    · rw [hread, List.append_nil, ← hfirst, Nat.max_eq_right hle]

end Text

namespace Site

/-- How many lines above its own the problem wants a declaration: as many as the second payload line
says, none if it says nothing. -/
def distance (p : Site) : Nat :=
  (p.second?.bind fun s => Text.count? (Nat.pow 2 32) s.trim).getD 0

def declaration (p : Site) : Text :=
  p.margin ++ p.first ++ " by unproved".toList ++ p.layout.terminator

/-- The edit that puts the declaration before the problem's line, or further up. -/
def declaring (p : Site) : Edit :=
  ⟨.point ⟨p.line - p.distance, 0⟩, p.declaration⟩

theorem declareDerivation_eq {p : Site} {name type : Text} (hfirst : p.first = name ++ ':' :: type)
    (hname : ':' ∉ name) (use : Range) :
    ∃ title, p.declareDerivation use =
      ⟨title, p.declaring :: if p.document.textIn use = ['_'] ∧ name ≠ ['_'] then [⟨use, name⟩]
        else []⟩ := by
  have hcut : Text.cut? ':' p.first = some (name, type) := by
    rw [hfirst, Text.cut?_append hname]
  have hdeclaration : p.margin ++ (p.first ++ " by unproved".toList) ++ p.layout.terminator =
      p.declaration := by simp [declaration]
  simp only [declareDerivation, hcut]
  split_ifs
  · exact ⟨_, by rw [hdeclaration]; rfl⟩
  · exact ⟨_, by rw [hdeclaration]; rfl⟩

end Site

namespace Problem

/-- A derivation is declared at the start of a line, and its use is named if an underscore stands
there; each edit leaves to the text what the other one is for. -/
theorem fixes_of_declaration {q : Problem} {document text name type : Text}
    {unit : Option CompilationUnit} {layout : Layout} (htag : q.tag = .derivationNotFound)
    (hsingle : q.range.isSingleLine = true)
    (hline : document.lineText? q.range.start.line = some text)
    (hfirst : (q.siteOn document text layout).first = name ++ ':' :: type) (hname : ':' ∉ name) :
    let p := q.siteOn document text layout
    let renames := document.textIn q.range = ['_'] ∧ name ≠ ['_']
    ∃ title front back, document = front ++ back ∧
      document.lineStart? (p.line - p.distance) = some front.bytes ∧
      (¬ renames →
        q.fixes document unit layout = [⟨title, [p.declaring]⟩] ∧
        Fix.apply document ⟨title, [p.declaring]⟩ = front ++ p.declaration ++ back) ∧
      (renames →
        q.fixes document unit layout = [⟨title, [p.declaring, ⟨q.range, name⟩]⟩] ∧
        p.declaring.Precedes document ⟨q.range, name⟩ ∧
        ∃ before after, back = before ++ '_' :: after ∧
          document.offsetAt q.range.start = (front ++ before).bytes ∧
          Fix.apply document ⟨title, [p.declaring, ⟨q.range, name⟩]⟩ =
            front ++ p.declaration ++ before ++ name ++ after) := by
  intro p renames
  have hfull : p.first ≠ [] := by
    rw [hfirst]
    simp
  obtain ⟨title, hfix⟩ := Site.declareDerivation_eq hfirst hname q.range
  have hfixes : q.fixes document unit layout =
      [⟨title, p.declaring :: if renames then [⟨q.range, name⟩] else []⟩] := by
    have hat : q.fixesAt unit p = [p.declareDerivation q.range] := by rw [fixesAt, htag]
    rw [fixes_eq hsingle hline (payload_ne_nil hfull), hat, hfix]
    rfl
  obtain ⟨front, between, below, hstart, hoffset, hdiv⟩ :=
    Text.exists_divided_below hline (Nat.sub_le p.line p.distance)
  have hparts : document = front ++ (between ++ text ++ below) := by
    rw [hdiv.parts]
    simp
  refine ⟨title, front, between ++ text ++ below, hparts, hstart, ?_, ?_⟩
  · intro hnot
    rw [hfixes, if_neg hnot]
    exact ⟨rfl, (Fix.apply_single document title _ _).trans (Edit.apply_point hparts hoffset _)⟩
  · intro hrenames
    rw [hfixes, if_pos hrenames]
    have hstop : q.range.stop.line = q.range.start.line := (beq_iff_eq.mp hsingle).symm
    obtain ⟨before, after, htext, hbefore, hafter⟩ := hdiv.exists_parts rfl hstop
    rw [hrenames.1] at htext hafter
    rw [List.append_assoc front between] at hbefore hafter
    have hback : between ++ text ++ below = (between ++ before) ++ '_' :: (after ++ below) := by
      rw [htext]
      simp
    have hs : document = front ++ (between ++ before) ++ ['_'] ++ (after ++ below) := by
      rw [hparts, hback]
      simp
    refine ⟨rfl, ⟨?_, ?_⟩, between ++ before, after ++ below, hback, hbefore, ?_⟩
    · rcases Nat.eq_or_lt_of_le (Nat.sub_le p.line p.distance) with hsame | habove
      · exact Or.inr ⟨hsame, Nat.zero_le _⟩
      · exact Or.inl habove
    · calc document.offsetAt p.declaring.range.stop
        _ = front.bytes := hoffset
        _ ≤ (front ++ (between ++ before)).bytes := by
          rw [Text.bytes_append front]
          omega
        _ = document.offsetAt q.range.start := hbefore.symm
    · rw [Site.declaring, Fix.apply_insertion_exchange hs hoffset hbefore hafter]

theorem fixes_of_use_at_line_end :
    let q := Problem.mk .derivationNotFound "d: 𝒳\r\n +7 ".toList ⟨⟨1, 4⟩, ⟨1, 9⟩⟩
    let s : Text := "é\r\n  c _\r\nb".toList
    let declaring : Edit := ⟨.point ⟨0, 0⟩, "  d: 𝒳 by unproved\n".toList⟩
    let naming : Edit := ⟨⟨⟨1, 4⟩, ⟨1, 9⟩⟩, ['d']⟩
    ∃ title, q.fixes s none {} = [⟨title, [declaring, naming]⟩] ∧
      declaring.Precedes s naming ∧
      Fix.apply s ⟨title, [declaring, naming]⟩ =
        "  d: 𝒳 by unproved\né\r\n  c d\r\nb".toList := by
  intro q s declaring naming
  have hline : s.lineText? q.range.start.line = some "  c _".toList := by decide
  have hfirst : (q.siteOn s "  c _".toList {}).first = ['d'] ++ ':' :: " 𝒳".toList := by decide
  obtain ⟨title, front, back, -, -, -, hrenames⟩ :=
    @fixes_of_declaration q s _ _ _ none {} rfl rfl hline hfirst (by decide)
  obtain ⟨hfixes, hprecedes, -⟩ := hrenames (by decide)
  refine ⟨title, hfixes, hprecedes, ?_⟩
  change Edit.applyFrom s 0 [declaring, naming] = _
  decide

end Problem

end ProofDesk
