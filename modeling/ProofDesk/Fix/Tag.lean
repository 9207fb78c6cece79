import ProofDesk.Text.Basic

namespace ProofDesk

/-- What kind of problem a finding is. -/
inductive Tag where
  | abstractNotPermitted
  | illegalAssumes
  | extraneousAssumes
  | ruleNotTheorem
  | theoremNotRule
  | theoremKindWrong
  | theoremKindMissing
  | inductionRepeat
  | wrongEnd
  | wrongModuleName
  | partialCaseAnalysis
  | wrongPackage
  | missingAssumes
  | assumedAssumes
  | missingCase
  | otherJustified
  | conclusionContradiction
  | derivationNotFound
  | caseRedundant
  | caseUnnecessary
  | unknown (word : Text)
deriving DecidableEq, Repr

namespace Tag

/-- The known tags with the words that the checker writes for them. -/
def table : List (Text × Tag) := [
  ("ABSTRACT_NOT_PERMITTED_HERE".toList, abstractNotPermitted),
  ("ILLEGAL_ASSUMES".toList, illegalAssumes),
  ("EXTRANEOUS_ASSUMES".toList, extraneousAssumes),
  ("RULE_NOT_THEOREM".toList, ruleNotTheorem),
  ("THEOREM_NOT_RULE".toList, theoremNotRule),
  ("THEOREM_KIND_WRONG".toList, theoremKindWrong),
  ("THEOREM_KIND_MISSING".toList, theoremKindMissing),
  ("INDUCTION_REPEAT".toList, inductionRepeat),
  ("WRONG_END".toList, wrongEnd),
  ("WRONG_MODULE_NAME".toList, wrongModuleName),
  ("PARTIAL_CASE_ANALYSIS".toList, partialCaseAnalysis),
  ("WRONG_PACKAGE".toList, wrongPackage),
  ("MISSING_ASSUMES".toList, missingAssumes),
  ("ASSUMED_ASSUMES".toList, assumedAssumes),
  ("MISSING_CASE".toList, missingCase),
  ("OTHER_JUSTIFIED".toList, otherJustified),
  ("RULE_CONCLUSION_CONTRADICTION".toList, conclusionContradiction),
  ("DERIVATION_NOT_FOUND".toList, derivationNotFound),
  ("CASE_REDUNDANT".toList, caseRedundant),
  ("CASE_UNNECESSARY".toList, caseUnnecessary)]

def ofWord (word : Text) : Tag :=
  match table.find? fun e => e.1 == word with
  | some e => e.2
  | none => unknown word

def word : Tag → Text
  | unknown word => word
  | tag => ((table.find? fun e => e.2 == tag).map Prod.fst).getD []

/-- The word stands for no known tag. -/
def isUnknown : Tag → Bool
  | unknown _ => true
  | _ => false

end Tag

end ProofDesk
