import ProofDesk.Forest
import ProofDesk.Json.Decoder
import ProofDesk.Text.Basic

namespace ProofDesk

/-- A conclusion that a rule justifies, under a name that may be blank. -/
structure Step where
  conclusion : Text
  name : Text := []
  rule : Text
deriving DecidableEq, Repr

abbrev Derivation := Tree Step

namespace Derivation

def toForest (d : Derivation) : Forest Step :=
  .cons d.value d.below .nil

def stepCount (d : Derivation) : Nat :=
  d.toForest.size

def steps (d : Derivation) : List Step :=
  d.toForest.postorder

/-- Derivations as JSON, given the members of a step and its premises. -/
def encodeForest : Forest Step → List Json
  | .nil => []
  | .cons s below rest =>
    .record [
      ("conclusion", .text s.conclusion),
      ("name", .text s.name),
      ("rule", .text s.rule),
      ("premises", .array (encodeForest below))] :: encodeForest rest

def encode (d : Derivation) : Json :=
  (encodeForest d.toForest).headD .null

def decodeWithin : (height : Nat) → Json → Option Derivation
  | 0, _ => none
  | height + 1, j => do
    let r ← RecordFields.open? 4 2 j
    let conclusion ← r.require 0 ["conclusion"] .text
    let name ← r.get 1 ["name"] .text []
    let rule ← r.require 2 ["rule"] .text
    let premises ← r.get 3 ["premises"] (.list fun _ => decodeWithin height) []
    return ⟨⟨conclusion, name, rule⟩, .ofTrees premises⟩

/-- A derivation as JSON. Its steps are records inside one another, so there are no more of them
above one another than the JSON has levels. -/
def decode? (j : Json) : Option Derivation :=
  decodeWithin j.height j

end Derivation

end ProofDesk
