import ProofDesk.Derivation.Basic

namespace ProofDesk.Script

def numbered (n : Nat) : Text :=
  'd' :: Text.ofNat n

/-- The first number from `n` on whose name is not taken, tried for at most `tries` numbers. -/
def freeFrom (taken : List Text) : (tries : Nat) → Nat → Nat
  | 0, n => n
  | tries + 1, n => if taken.contains (numbered n) then freeFrom taken tries (n + 1) else n

/-- The first number from `n` on whose name is not taken. As many numbers as there are taken names
cannot all be taken and leave another one taken too. -/
def freeNumber (taken : List Text) (n : Nat) : Nat :=
  freeFrom taken taken.length n

/-- The names of steps from the given ones. The first step with a given name keeps it. A step whose
name is blank, or was kept by an earlier one, is numbered from its place on. -/
def namesFrom (taken kept : List Text) (place : Nat) : List Text → List Text
  | [] => []
  | given :: rest =>
    if given ≠ [] ∧ given ∉ kept then
      given :: namesFrom taken (given :: kept) (place + 1) rest
    else
      let fresh := numbered (freeNumber taken place)
      fresh :: namesFrom (fresh :: taken) kept (place + 1) rest

def stepNames (steps : List Step) : List Text :=
  let given := steps.map fun s => s.name.trim
  namesFrom (given.filter (· ≠ [])) [] 1 given

def topPlaces (place : Nat) : Forest Step → List Nat
  | .nil => []
  | .cons _ below rest =>
    (place + below.size) :: topPlaces (place + below.size + 1) rest

def justified (place : Nat) : Forest Step → List (Step × List Nat)
  | .nil => []
  | .cons s below rest =>
    justified place below ++ (s, topPlaces place below)
      :: justified (place + below.size + 1) rest

def line (names : List Text) (name : Text) (step : Step) (premises : List Nat) : Text :=
  name ++ ": ".toList ++ step.conclusion.trim ++ " by rule ".toList ++ step.rule.trim
    ++ (if premises.isEmpty then []
      else " on ".toList ++ Text.join ", ".toList (premises.map fun i => names[i]?.getD []))
    ++ ['\n']

def header (name quantifiers conclusion : Text) : Text :=
  "theorem ".toList ++ name.trim ++ " : ".toList
    ++ (if quantifiers.trim.isEmpty then [] else quantifiers.trim ++ [' '])
    ++ "exists ".toList ++ conclusion.trim ++ ".\n".toList

def render (name quantifiers : Text) (d : Derivation) : Text :=
  let names := stepNames d.steps
  header name quantifiers d.value.conclusion
    ++ ((names.zip (justified 0 d.toForest)).flatMap fun (name, step, premises) =>
      line names name step premises)

end ProofDesk.Script
