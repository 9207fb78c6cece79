import ProofDesk.Text.Basic

namespace ProofDesk.Shell

/-- A character of a word, which may be quoted. -/
structure Glyph where
  char : Char
  isQuoted : Bool
deriving DecidableEq, Repr

/-- The kinds of characters that have a name in patterns. -/
inductive CharKind where
  | alpha
  | digit
  | alnum
  | upper
  | lower
  | blank
  | space
  | punct
  | print
  | graph
  | cntrl
  | xdigit
deriving DecidableEq, Repr

namespace CharKind

def ofName? (name : Text) : Option CharKind :=
  ([("alpha", alpha), ("digit", digit), ("alnum", alnum), ("upper", upper), ("lower", lower),
    ("blank", blank), ("space", space), ("punct", punct), ("print", print), ("graph", graph),
    ("cntrl", cntrl), ("xdigit", xdigit)].find? fun e => e.1.toList == name).map Prod.snd

def contains (k : CharKind) (c : Char) : Bool :=
  let n := c.toNat
  match k with
  | alpha => c.isAlpha
  | digit => c.isDigit
  | alnum => c.isAlphanum
  | upper => c.isUpper
  | lower => c.isLower
  | blank => c == ' ' || c == '\t'
  | space => c == ' ' || (9 ≤ n && n ≤ 13)
  | punct => 33 ≤ n && n ≤ 126 && !c.isAlphanum
  | print => 32 ≤ n && n ≤ 126
  | graph => 33 ≤ n && n ≤ 126
  | cntrl => n < 32 || n == 127
  | xdigit => c.isDigit || ('a' ≤ c && c ≤ 'f') || ('A' ≤ c && c ≤ 'F')

end CharKind

/-- A member of a set of bytes. -/
inductive SetMember where
  | range (first last : Char)
  | kind (k : CharKind)
deriving DecidableEq, Repr

def SetMember.contains (c : Char) : SetMember → Bool
  | range first last => first ≤ c && c ≤ last
  | kind k => k.contains c

inductive PatternStep where
  | anyText
  | anyChar
  | char (c : Char)
  | set (isNegated : Bool) (members : List SetMember)
deriving DecidableEq, Repr

abbrev Pattern := List PatternStep

namespace Pattern

def kindName? : (fuel : Nat) → List Glyph → Option (Text × List Glyph)
  | 0, _ => none
  | _, [] => none
  | _, ⟨':', false⟩ :: ⟨']', false⟩ :: rest => some ([], rest)
  | fuel + 1, g :: rest => (kindName? fuel rest).map fun r => (g.char :: r.1, r.2)

def members? : (fuel : Nat) → (isFirst : Bool) → List Glyph →
    Option (List SetMember × List Glyph)
  | 0, _, _ => none
  | _, _, [] => none
  | fuel + 1, isFirst, g :: rest =>
    if g = ⟨']', false⟩ ∧ ¬ isFirst then some ([], rest)
    else
      let kind? : Option (CharKind × List Glyph) :=
        match g, rest with
        | ⟨'[', false⟩, ⟨':', false⟩ :: after =>
          match kindName? (after.length + 1) after with
          | some (name, after) => (CharKind.ofName? name).map (·, after)
          | none => none
        | _, _ => none
      match kind? with
      | some (k, after) => (members? fuel false after).map fun r => (.kind k :: r.1, r.2)
      | none =>
        match rest with
        | ⟨'-', false⟩ :: last :: after =>
          if last = ⟨']', false⟩ then
            (members? fuel false rest).map fun r => (.range g.char g.char :: r.1, r.2)
          else (members? fuel false after).map fun r => (.range g.char last.char :: r.1, r.2)
        | _ => (members? fuel false rest).map fun r => (.range g.char g.char :: r.1, r.2)

def ofGlyphs : (fuel : Nat) → List Glyph → Pattern
  | 0, _ => []
  | _, [] => []
  | fuel + 1, g :: rest =>
    if g = ⟨'*', false⟩ then .anyText :: ofGlyphs fuel rest
    else if g = ⟨'?', false⟩ then .anyChar :: ofGlyphs fuel rest
    else if g = ⟨'[', false⟩ then
      let (isNegated, inside) : Bool × List Glyph := match rest with
        | ⟨'!', false⟩ :: inside => (true, inside)
        | inside => (false, inside)
      match members? (inside.length + 1) true inside with
      | some (members, after) => .set isNegated members :: ofGlyphs fuel after
      | none => .char '[' :: ofGlyphs fuel rest
    else .char g.char :: ofGlyphs fuel rest

def ofWord (w : List Glyph) : Pattern :=
  ofGlyphs (w.length + 1) w

def fits (c : Char) : PatternStep → Bool
  | .anyText => false
  | .anyChar => true
  | .char d => d == c
  | .set isNegated members => isNegated != members.any (·.contains c)

def ends : Text → List Text
  | [] => [[]]
  | c :: s => (c :: s) :: ends s

def fitsAll : Pattern → Text → Bool
  | [], s => s.isEmpty
  | .anyText :: p, s => (ends s).any (fitsAll p)
  | step :: p, c :: s => fits c step && fitsAll p s
  | _ :: _, [] => false

def trimStart (p : Pattern) (longest : Bool) (s : Text) : Text :=
  let lengths := List.range (s.length + 1)
  let lengths := if longest then lengths.reverse else lengths
  match lengths.find? fun n => fitsAll p (s.take n) with
  | some n => s.drop n
  | none => s

def trimEnd (p : Pattern) (longest : Bool) (s : Text) : Text :=
  let lengths := List.range (s.length + 1)
  let lengths := if longest then lengths else lengths.reverse
  match lengths.find? fun n => fitsAll p (s.drop n) with
  | some n => s.take n
  | none => s

end Pattern

def isPattern (w : List Glyph) : Bool :=
  w.any fun g => !g.isQuoted && "*?[".toList.any (· == g.char)

end ProofDesk.Shell
