import ProofDesk.Fix.Case

namespace ProofDesk

namespace Site

def replaceTitle (old new : Text) : Text :=
  "replace '".toList ++ old ++ "' with '".toList ++ new ++ ['\'']

def removeTitle (old : Text) : Text :=
  "remove '".toList ++ old ++ ['\'']

def insertTitle (new : Text) : Text :=
  "insert '".toList ++ new ++ ['\'']

def replaceFirst? (p : Site) : Option Fix := do
  let old ← p.locate? p.first
  let new ← p.second?
  if new = [] then none else some (.single (replaceTitle p.first new) old new)

/-- Replaces the first payload line by the second one, or removes it if there is nothing to put in
its place. -/
def replaceOrRemove? (p : Site) : Option Fix := do
  let old ← p.locate? p.first
  return p.replaceFirst?.getD (.single (removeTitle p.first) old [])

/-- Mends a package declaration: inserts the second payload line if the first one is empty, and
replaces the first by the second, or removes it if the second is empty. -/
def mendPackage (p : Site) : List Fix :=
  let inserted := (if p.first = [] then p.second?.filter (· ≠ []) else none).map fun package =>
    ⟨insertTitle package, [p.insertAfter (package ++ p.layout.terminator)]⟩
  let exchanged := (p.locate? p.first).bind fun old => p.second?.map fun package =>
    .single (if package = [] then removeTitle p.first else replaceTitle p.first package) old package
  inserted.toList ++ exchanged.toList

def insertPayload (p : Site) (extra : Text) : Fix :=
  ⟨insertTitle p.payload,
    [p.insertAfter (p.margin ++ extra ++ p.payload ++ p.layout.terminator)]⟩

/-- Replaces what stands in the place of `...`: the first payload line is a pattern, in which three
dots stand between a head and a tail that are on the problem's line. -/
def fillEllipsis? (p : Site) : Option Fix := do
  let new ← p.second?
  let (head, tail) ← Text.find? "...".toList p.first
  let (before, rest) ← Text.find? head p.lineText
  let (old, _) ← Text.find? tail rest
  return .single (replaceTitle old (' ' :: new)) (Text.spanAfter p.line (before ++ head) old)
    (' ' :: new)

/-- Makes what is proved a contradiction: replaces the text between the margin and the first
` by `. -/
def concludeContradiction? (p : Site) : Option Fix := do
  let (before, _) ← Text.find? " by ".toList p.lineText
  if before.length < p.margin.length then none
  else
    let old := before.drop p.margin.length
    let new := "_: contradiction".toList
    some (.single (replaceTitle old new) (Text.spanAfter p.line p.margin old) new)

/-- Declares a derivation that is used before it is declared: inserts the declaration as many lines
above as the second payload line says, and names it in the place of an underscore at `use`. A first
payload line that declares nothing replaces the whole line. -/
def declareDerivation (p : Site) (use : Range) : Fix :=
  match Text.cut? ':' p.first with
  | none => .single (replaceTitle p.lineText p.first) p.wholeLine p.first
  | some (name, _) =>
    let distance := (p.second?.bind fun s => Text.count? (Nat.pow 2 32) s.trim).getD 0
    let unproved := p.first ++ " by unproved".toList
    let insertion : Edit :=
      ⟨.point ⟨p.line - distance, 0⟩, p.margin ++ unproved ++ p.layout.terminator⟩
    let title := insertTitle unproved ++ " before this line".toList
    if p.document.textIn use = ['_'] ∧ name ≠ ['_'] then
      ⟨title ++ ", and ".toList ++ replaceTitle ['_'] name, [insertion, ⟨use, name⟩]⟩
    else ⟨title, [insertion]⟩

end Site

namespace Problem

def site? (q : Problem) (document : Text) (layout : Layout) : Option Site :=
  if !q.range.isSingleLine || q.payload.isEmpty then none
  else (document.lineText? q.range.start.line).map fun lineText =>
    ⟨document, q.range.start.line, lineText, q.payload, layout⟩

def fixesAt (q : Problem) (unit : Option CompilationUnit) (p : Site) : List Fix :=
  match q.tag with
  | .abstractNotPermitted | .illegalAssumes | .extraneousAssumes => p.replaceOrRemove?.toList
  | .ruleNotTheorem | .theoremNotRule | .theoremKindWrong | .theoremKindMissing | .inductionRepeat
  | .wrongEnd | .wrongModuleName | .partialCaseAnalysis => p.replaceFirst?.toList
  | .wrongPackage => p.mendPackage
  | .missingAssumes => [p.insertPayload []]
  | .assumedAssumes => [p.insertPayload p.layout.indent]
  | .missingCase => (p.addCases? unit).toList
  | .otherJustified => p.fillEllipsis?.toList
  | .conclusionContradiction => p.concludeContradiction?.toList
  | .derivationNotFound => [p.declareDerivation q.range]
  | .caseRedundant | .caseUnnecessary | .unknown _ => []

def fixes (q : Problem) (document : Text) (unit : Option CompilationUnit) (layout : Layout) :
    List Fix :=
  match q.site? document layout with
  | some p => q.fixesAt unit p
  | none => []

end Problem

end ProofDesk
