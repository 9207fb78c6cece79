import ProofDesk.Shell.Pattern

namespace ProofDesk

open Shell (SetMember)

inductive Regex where
  | empty
  | char (c : Char)
  | any
  | oneOf (isNegated : Bool) (members : List SetMember)
  | lineStart
  | lineEnd
  | textStart
  | textEnd
  | wordStart
  | wordEnd
  | wordEdge (isNegated : Bool)
  | both (first second : Regex)
  | either (first second : Regex)
  | repeated (r : Regex) (least : Nat) (most : Option Nat)
  | group (n : Nat) (r : Regex)
  | back (n : Nat)
deriving DecidableEq, Repr

namespace Regex

structure Mode where
  foldsCase : Bool := false
  hasLines : Bool := false
deriving DecidableEq, Repr

/-- A place in a text that a match has reached. -/
structure Spot where
  place : Nat
  before : Option Char
  rest : Text
  groups : List (Nat × Nat × Nat × Text) := []
deriving DecidableEq, Repr

namespace Spot

def skip (s : Spot) (n : Nat) : Spot :=
  { s with
    place := s.place + n
    before := if n = 0 then s.before else s.rest[n - 1]?
    rest := s.rest.drop n }

def group? (s : Spot) (n : Nat) : Option Text :=
  (s.groups.find? fun g => g.1 == n).map fun g => g.2.2.2

end Spot

def isWordChar (c : Char) : Bool :=
  c.isAlphanum || c == '_'

def isInWord (c : Option Char) : Bool :=
  (c.map isWordChar).getD false

def sameChar (m : Mode) (a b : Char) : Bool :=
  a == b || (m.foldsCase && a.toLower == b.toLower)

def inSet (m : Mode) (members : List SetMember) (c : Char) : Bool :=
  members.any (·.contains c) || (m.foldsCase &&
    (members.any (·.contains c.toLower) || members.any (·.contains c.toUpper)))

/-- Follows an expression from a place on; `k` goes on from each place behind a match, the preferred
ones first, and `best` is what has been found so far. -/
def follow (m : Mode) (isDone : Option Spot → Bool) : (fuel : Nat) → Regex → Spot →
    (Spot → Option Spot → Option Spot) → Option Spot → Option Spot
  | 0, _, _, _, best => best
  | fuel + 1, r, s, k, best =>
    let step (holds : Bool) : Option Spot := if holds then k s best else best
    if isDone best then best
    else match r with
    | .empty => k s best
    | .char c =>
      match s.rest with
      | d :: _ => if sameChar m c d then k (s.skip 1) best else best
      | [] => best
    | .any =>
      match s.rest with
      | _ :: _ => k (s.skip 1) best
      | [] => best
    | .oneOf isNegated members =>
      match s.rest with
      | d :: _ => if inSet m members d != isNegated then k (s.skip 1) best else best
      | [] => best
    | .lineStart => step (s.place == 0 || (m.hasLines && s.before == some '\n'))
    | .lineEnd => step (s.rest.isEmpty || (m.hasLines && s.rest.head? == some '\n'))
    | .textStart => step (s.place == 0)
    | .textEnd => step s.rest.isEmpty
    | .wordStart => step (!isInWord s.before && isInWord s.rest.head?)
    | .wordEnd => step (isInWord s.before && !isInWord s.rest.head?)
    | .wordEdge isNegated => step ((isInWord s.before != isInWord s.rest.head?) != isNegated)
    | .both a b => follow m isDone fuel a s (fun t best => follow m isDone fuel b t k best) best
    | .either a b => follow m isDone fuel b s k (follow m isDone fuel a s k best)
    | .repeated a least most =>
      let further := if most = some 0 then best
        else follow m isDone fuel a s (fun t best =>
          if t.place = s.place ∧ least = 0 then best
          else follow m isDone fuel (.repeated a (least - 1) (most.map (· - 1))) t k best) best
      if least = 0 then k s further else further
    | .group n a =>
      follow m isDone fuel a s (fun t best =>
        let text := s.rest.take (t.place - s.place)
        k { t with groups := (n, s.place, t.place, text) :: t.groups } best) best
    | .back n =>
      match s.group? n with
      | none => best
      | some text =>
        let here := s.rest.take text.length
        if here.length = text.length ∧ (here.zip text).all (fun p => sameChar m p.1 p.2) then
          k (s.skip text.length) best
        else best

def size : Regex → Nat
  | .both a b | .either a b => size a + size b + 1
  | .repeated a least most => size a * (1 + least + most.getD 0) + 1
  | .group _ a => size a + 1
  | _ => 1

def longest (m : Mode) (r : Regex) (s : Spot) : Option Spot :=
  let stop := s.place + s.rest.length
  let isDone (best : Option Spot) : Bool :=
    match best with
    | some t => t.place == stop
    | none => false
  let keep (t : Spot) (best : Option Spot) : Option Spot :=
    match best with
    | some b => if b.place < t.place then some t else some b
    | none => some t
  follow m isDone (3 * (s.rest.length + 2) * (r.size + 1)) r s keep none

/-- A match: where it starts, and the place behind it. -/
structure Match where
  start : Nat
  stop : Spot
deriving DecidableEq, Repr

def searchFrom (m : Mode) (r : Regex) : (steps : Nat) → Spot → Option Match
  | 0, _ => none
  | steps + 1, s =>
    match longest m r s with
    | some t => some ⟨s.place, t⟩
    | none => if s.rest.isEmpty then none else searchFrom m r steps (s.skip 1)

def search (m : Mode) (r : Regex) (s : Text) : Option Match :=
  searchFrom m r (s.length + 1) ⟨0, none, s, []⟩

end Regex

end ProofDesk
