import ProofDesk.Tool.Basic

namespace ProofDesk.Tool

/-- How keys are compared. -/
structure Comparison where
  isNumeric : Bool := false
  isGeneral : Bool := false
  isHuman : Bool := false
  isVersion : Bool := false
  isMonth : Bool := false
  foldsCase : Bool := false
  skipsBlanks : Bool := false
  isDictionary : Bool := false
  isReverse : Bool := false
deriving DecidableEq, Repr

namespace Comparison

def number (s : Text) : Bool × Nat × Text :=
  let s := s.dropWhile fun c => c == ' ' || c == '\t'
  let (isNegative, s) : Bool × Text := match s with
    | '-' :: r => (true, r)
    | s => (false, s)
  let whole := s.takeWhile Char.isDigit
  let places := match s.drop whole.length with
    | '.' :: r => r.takeWhile Char.isDigit
    | _ => []
  (isNegative, (Text.digits? whole).getD 0, (places.reverse.dropWhile (· == '0')).reverse)

def compareNumbers (a b : Text) : Ordering :=
  let (na, wa, pa) := number a
  let (nb, wb, pb) := number b
  let isZero (w : Nat) (p : Text) : Bool := w == 0 && p.isEmpty
  let na := na && !isZero wa pa
  let nb := nb && !isZero wb pb
  let magnitude : Ordering := (compare wa wb).then (compare (pa.map Char.toNat) (pb.map Char.toNat))
  match na, nb with
  | false, false => magnitude
  | true, true => magnitude.swap
  | true, false => .lt
  | false, true => .gt

def suffixRank (s : Text) : Nat :=
  let rest := (s.dropWhile fun c => c == ' ' || c == '-').dropWhile fun c => c.isDigit || c == '.'
  match rest.head? with
  | some 'k' | some 'K' => 1
  | some 'M' => 2
  | some 'G' => 3
  | some 'T' => 4
  | some 'P' => 5
  | _ => 0

def prepare (c : Comparison) (s : Text) : Text :=
  let s := if c.skipsBlanks then s.dropWhile fun c => c == ' ' || c == '\t' else s
  let s := if c.isDictionary then s.filter fun c => c.isAlphanum || c == ' ' || c == '\t' else s
  if c.foldsCase then s.map Char.toUpper else s

/-- A number with an exponent at the start of a text: its sign, its digits as a number, and the power
of ten that they are multiplied by. -/
def scientific? (s : Text) : Option (Bool × Nat × Int) :=
  let s := s.dropWhile fun c => c == ' ' || c == '\t'
  let (isNegative, s) : Bool × Text := match s with
    | '-' :: r => (true, r)
    | '+' :: r => (false, r)
    | s => (false, s)
  let whole := s.takeWhile Char.isDigit
  let rest := s.drop whole.length
  let (places, rest) : Text × Text := match rest with
    | '.' :: r => (r.takeWhile Char.isDigit, r.dropWhile Char.isDigit)
    | r => ([], r)
  match Text.digits? (whole ++ places) with
  | none => none
  | some digits =>
    let power : Int := match rest with
      | e :: r =>
        if e = 'e' ∨ e = 'E' then
          match r with
          | '-' :: r => -((Text.digits? (r.takeWhile Char.isDigit)).getD 0 : Int)
          | '+' :: r => ((Text.digits? (r.takeWhile Char.isDigit)).getD 0 : Int)
          | r => ((Text.digits? (r.takeWhile Char.isDigit)).getD 0 : Int)
        else 0
      | [] => 0
    some (isNegative, digits, power - places.length)

def exponentLimit : Nat := 5000

def compareScientific (a b : Text) : Ordering :=
  match scientific? a, scientific? b with
  | none, none => .eq
  | none, some _ => .lt
  | some _, none => .gt
  | some (na, da, ea), some (nb, db, eb) =>
    let signed (isNegative : Bool) (n : Nat) : Int := if isNegative then -(n : Int) else n
    let lift (e : Int) : Nat := Nat.pow 10 (min exponentLimit (e - min ea eb).toNat)
    compare (signed na (da * lift ea)) (signed nb (db * lift eb))

def month (s : Text) : Nat :=
  let s := ((s.dropWhile fun c => c == ' ' || c == '\t').take 3).map Char.toUpper
  let names := ["JAN", "FEB", "MAR", "APR", "MAY", "JUN", "JUL", "AUG", "SEP", "OCT", "NOV", "DEC"]
  match names.findIdx? fun n => n.toList == s with
  | some i => i + 1
  | none => 0

/-- The rank of a character among versions: a tilde comes before the end of the text, letters before
all other signs. -/
def versionRank (c : Option Char) : Int :=
  match c with
  | none => 0
  | some c =>
    if c.isDigit then 0
    else if c.isAlpha then c.toNat
    else if c = '~' then -1
    else c.toNat + 256

def compareVersionParts : (fuel : Nat) → Text → Text → Ordering
  | 0, _, _ => .eq
  | fuel + 1, a, b =>
    let isSign (c : Char) : Bool := !c.isDigit
    let signs (s : Text) : Text := s.takeWhile isSign
    let width := max (signs a).length (signs b).length
    let ranks (s : Text) : List Int :=
      (List.range width).map fun i => versionRank (if i < s.length then s[i]? else none)
    let number (s : Text) : Nat :=
      (Text.digits? (((s.drop (signs s).length)).takeWhile Char.isDigit)).getD 0
    let rest (s : Text) : Text := (s.drop (signs s).length).dropWhile Char.isDigit
    let here := (compare (ranks (signs a)) (ranks (signs b))).then (compare (number a) (number b))
    if here != .eq then here
    else if a.isEmpty && b.isEmpty then .eq
    else compareVersionParts fuel (rest a) (rest b)

def dropSuffixes (s : Text) : Text :=
  let isSuffix (t : Text) : Bool := match t with
    | c :: _ => (c.isAlpha || c == '~') && t.all fun d => d.isAlphanum || d == '~'
    | [] => false
  match Text.split '.' s with
  | [] => s
  | first :: pieces =>
    let kept := (pieces.reverse.dropWhile isSuffix).reverse
    Text.join ['.'] (first :: kept)

def compareVersions (a b : Text) : Ordering :=
  let a' := dropSuffixes a
  let b' := dropSuffixes b
  let isHidden (s : Text) : Bool := s.head? == some '.'
  (compare a.isEmpty.not.toNat b.isEmpty.not.toNat).then
    ((compare (isHidden a).not.toNat (isHidden b).not.toNat).then
      ((compareVersionParts (a'.length + b'.length + 2) a' b').then
        (compareVersionParts (a.length + b.length + 2) a b)))

def keys (c : Comparison) (a b : Text) : Ordering :=
  let plain : Ordering :=
    if c.isHuman then (compare (suffixRank a) (suffixRank b)).then (compareNumbers a b)
    else if c.isNumeric then compareNumbers a b
    else if c.isGeneral then compareScientific a b
    else if c.isMonth then compare (month a) (month b)
    else if c.isVersion then compareVersions a b
    else compare ((c.prepare a).map Char.toNat) ((c.prepare b).map Char.toNat)
  if c.isReverse then plain.swap else plain

end Comparison

end ProofDesk.Tool
