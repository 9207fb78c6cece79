import ProofDesk.Text.Basic
import ProofDesk.Text.Capital

namespace ProofDesk

namespace Text

def capitalize : Text → Text
  | [] => []
  | c :: rest => upperCase c ++ rest

end Text

/-- A drop, or another operation, that does not fit its target. -/
inductive Misfit where
  | notWholeProof
  | notRuleTarget
  | builtTopDown
  | hasConclusion
  | notCopyTarget
  | ontoItself
  | sourceWithoutConclusion
  | hasRule
  | notTopDown
  | blankPremise
  | notRoot (id : Nat)
  | other (reason : Text)
deriving DecidableEq, Repr

namespace Misfit

def message : Misfit → Text
  | notWholeProof => "only whole proofs can be removed".toList
  | notRuleTarget => "rules go on the rule target".toList
  | builtTopDown => "this proof is built top-down; its rule needs the premises' arity".toList
  | hasConclusion => "this proof already has a conclusion".toList
  | notCopyTarget => "nodes go on the copy target".toList
  | ontoItself => "a node cannot be copied onto itself".toList
  | sourceWithoutConclusion => "the dragged proof has no conclusion yet".toList
  | hasRule => "delete this node's rule before copying onto it".toList
  | notTopDown => "premises can only be added to a top-down proof".toList
  | blankPremise => "a premise cannot be empty".toList
  | notRoot id => Text.ofNat id ++ " is not the root of a proof".toList
  | other reason => reason

end Misfit

/-- Why an operation is refused. -/
inductive Refusal where
  /-- The checker answered with these errors. -/
  | rejected (lines : List Text)
  | arityMismatch (rule : Text) (expected actual : Nat)
  | unknownRule (name : Text)
  | unknownTarget (id : Nat)
  | misfit (cause : Misfit)
  | conclusionMismatch (expected delivered : Text)
  | incomplete (conclusion : Text)
  | notFree (conclusion : Text)
  /-- The proof is not what it was when the checker was asked. -/
  | stale
  | notStarted (command cause : Text)
  | notWritten (cause : Text)
deriving DecidableEq, Repr

namespace Refusal

def capitalized (lines : List Text) : Text :=
  Text.join ['\n'] (lines.map Text.capitalize)

def message : Refusal → Text
  | rejected lines => capitalized lines
  | arityMismatch rule expected actual =>
    "rule ".toList ++ rule ++ " takes ".toList ++ Text.ofNat expected
      ++ " premise(s) but ".toList ++ Text.ofNat actual ++ " were supplied".toList
  | unknownRule name => "unknown rule ".toList ++ name
  | unknownTarget id => "no proof node is mounted at ".toList ++ Text.ofNat id
  | misfit cause => cause.message
  | conclusionMismatch expected delivered =>
    "derivation of ".toList ++ delivered ++ " cannot replace ".toList ++ expected
  | incomplete conclusion => conclusion ++ " is not a finished derivation".toList
  | notFree conclusion => "free variables are not allowed in ".toList ++ conclusion
  | stale => "the proof changed before the checker answered".toList
  | notStarted command cause =>
    "failed to run checker `".toList ++ command ++ "`: ".toList ++ cause
  | notWritten cause => cause

def modalText : Refusal → Text
  | rejected lines => capitalized lines
  | other => other.message.capitalize

end Refusal

end ProofDesk
