import ProofDesk.Regex.Reader

namespace ProofDesk.Tool

inductive CaseChange where
  | upper
  | lower
  | asGiven
  | nextUpper
  | nextLower
deriving DecidableEq, Repr

inductive ReplacementPart where
  | text (s : Text)
  | group (n : Nat)
  | case (c : CaseChange)
deriving DecidableEq, Repr

structure CaseState where
  running : Option CaseChange := none
  next : Option CaseChange := none

namespace CaseState

def apply (c : CaseState) (s : Text) : Text × CaseState :=
  let change (how : Option CaseChange) (d : Char) : Char :=
    match how with
    | some .upper | some .nextUpper => d.toUpper
    | some .lower | some .nextLower => d.toLower
    | _ => d
  match s with
  | [] => ([], c)
  | d :: rest =>
    (change (if c.next.isSome then c.next else c.running) d :: rest.map (change c.running),
      { c with next := none })

end CaseState

def replacementText (whole : Text) (m : Regex.Spot) : CaseState → List ReplacementPart → Text
  | _, [] => []
  | c, part :: rest =>
    match part with
    | .text s =>
      let (t, c) := c.apply s
      t ++ replacementText whole m c rest
    | .group n =>
      let (t, c) := c.apply (if n = 0 then whole else (m.group? n).getD [])
      t ++ replacementText whole m c rest
    | .case .asGiven => replacementText whole m {} rest
    | .case .nextUpper => replacementText whole m { c with next := some .nextUpper } rest
    | .case .nextLower => replacementText whole m { c with next := some .nextLower } rest
    | .case how => replacementText whole m { c with running := some how } rest

/-- Which matches are replaced: from which one on, and whether those after it too. -/
structure Replacing where
  first : Nat := 1
  isGlobal : Bool := false
deriving DecidableEq, Repr

/-- Replaces matches from a place on; `count` matches have been passed, and `last` is the end of the
one before, behind which no empty match counts. The second result tells that one was replaced. -/
def replaceFrom (mode : Regex.Mode) (r : Regex) (parts : List ReplacementPart) (which : Replacing) :
    (steps : Nat) → (count : Nat) → (last : Option Nat) → Regex.Spot → Text × Bool
  | 0, _, _, s => (s.rest, false)
  | steps + 1, count, last, s =>
    match Regex.searchFrom mode r (s.rest.length + 1) { s with groups := [] } with
    | none => (s.rest, false)
    | some m =>
      let before := s.rest.take (m.start - s.place)
      let whole := (s.rest.drop before.length).take (m.stop.place - m.start)
      if whole = [] ∧ last = some m.start then
        match s.rest.drop before.length with
        | [] => (s.rest, false)
        | c :: _ =>
          let (after, changed) :=
            replaceFrom mode r parts which steps count none (s.skip (before.length + 1))
          (before ++ c :: after, changed)
      else
        let n := count + 1
        let isReplaced := which.first ≤ n ∧ (which.isGlobal ∨ n = which.first)
        let shown := if isReplaced then replacementText whole m.stop {} parts else whole
        let goesOn := which.isGlobal ∨ n < which.first
        if goesOn then
          if whole = [] then
            match m.stop.rest with
            | [] => (before ++ shown, isReplaced)
            | c :: _ =>
              let (after, changed) :=
                replaceFrom mode r parts which steps n none (m.stop.skip 1)
              (before ++ shown ++ c :: after, isReplaced || changed)
          else
            let (after, changed) :=
              replaceFrom mode r parts which steps n (some m.stop.place) m.stop
            (before ++ shown ++ after, isReplaced || changed)
        else (before ++ shown ++ m.stop.rest, isReplaced)

def replace? (mode : Regex.Mode) (r : Regex) (parts : List ReplacementPart) (which : Replacing)
    (s : Text) : Option Text :=
  let (t, changed) := replaceFrom mode r parts which (2 * s.length + 2) 0 none ⟨0, none, s, []⟩
  if changed then some t else none

end ProofDesk.Tool
