import ProofDesk.Fix.Basic
import ProofDesk.Report.Lookup

namespace ProofDesk.Site

def lineOf (terminator : Text) (parts : List Text) : Text :=
  parts.flatten ++ terminator

def caseMargin (p : Site) : Text :=
  p.margin ++ p.layout.indent

def bodyMargin (p : Site) : Text :=
  p.caseMargin ++ p.layout.indent

/-- The line that leaves a case unproved, the line that closes it, and an empty line. -/
def caseEnd (p : Site) : Text :=
  lineOf p.layout.terminator [p.bodyMargin, "proof by unproved".toList]
    ++ lineOf p.layout.terminator [p.caseMargin, "end case".toList]
    ++ p.layout.terminator

def labelCases (p : Site) : Text :=
  p.entries.dropLast.flatMap fun label =>
    lineOf p.layout.terminator [p.caseMargin, "case ".toList, label, " is".toList] ++ p.caseEnd

/-- The bar of a rule, drawn as wide as the rule's own and six dashes wider for the names before the
premises. A bar stays as it is when its rule is not known or its own bar is shorter than three. -/
def ruleBar (unit : Option CompilationUnit) (entry : Text) : Text :=
  match (Text.split ' ' entry)[1]? with
  | none => entry
  | some name =>
    match unit.bind fun u => u.findRule? name with
    | none => entry
    | some rule =>
      if rule.barWidth < 3 then entry
      else "------".toList ++ List.replicate rule.barWidth '-' ++ ' ' :: name

def ruleLine (p : Site) (unit : Option CompilationUnit) (entry : Text) : Text :=
  lineOf p.layout.terminator
    (if Text.startsWith entry "---".toList then [p.bodyMargin, ruleBar unit entry]
    else [p.bodyMargin, "_: ".toList, entry])

def ruleCasesFrom (p : Site) (unit : Option CompilationUnit) : (opening : Bool) → List Text → Text
  | _, [] => []
  | opening, entry :: rest =>
    (if opening then lineOf p.layout.terminator [p.caseMargin, "case rule".toList] else [])
    ++ if entry = [] then
        lineOf p.layout.terminator [p.caseMargin, "is".toList] ++ p.caseEnd
          ++ ruleCasesFrom p unit true rest
      else p.ruleLine unit entry ++ ruleCasesFrom p unit false rest

def ruleCases (p : Site) (unit : Option CompilationUnit) : Text :=
  ruleCasesFrom p unit true p.entries.dropLast

def hasBlocks (p : Site) : Bool :=
  Text.contains p.payload "\n\n".toList || Text.contains p.payload "\r\n\r\n".toList

def cases (p : Site) (unit : Option CompilationUnit) : Text :=
  if p.hasBlocks then p.ruleCases unit else p.labelCases

/-- The edit that turns `by contradiction on x` into a case analysis on `x` with the given cases;
`x` has to be the last word of the line, after the word `on`. -/
def contradictionToCases? (p : Site) (cases : Text) : Option Fix :=
  match (Text.words p.lineText).reverse with
  | target :: on :: _ :: _ :: _ =>
    if on ≠ "on".toList then none
    else
      (Text.find? "by contradiction on".toList p.lineText).map fun (before, _) =>
        .single "convert to case analysis with missing case(s)".toList
          ⟨⟨p.line, (before ++ "by ".toList).units⟩, ⟨p.line, Text.units p.lineText⟩⟩
          (lineOf p.layout.terminator ["case analysis on ".toList, target, [':']]
            ++ cases ++ p.margin ++ "end case analysis".toList)
  | _ => none

/-- Inserts the missing cases after the problem's line, or makes a proof by contradiction a case
analysis with them. -/
def addCases? (p : Site) (unit : Option CompilationUnit) : Option Fix :=
  let cases := p.cases unit
  if cases = [] then none
  else if Text.contains p.lineText "by contradiction on".toList
      && !Text.contains p.lineText "by case analysis on".toList then
    p.contradictionToCases? cases
  else some ⟨"insert missing case(s)".toList, [p.insertAfter cases]⟩

end ProofDesk.Site
