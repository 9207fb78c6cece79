import ProofDesk.Decimal.Binary64
import ProofDesk.Shell.Arithmetic
import ProofDesk.Shell.Escape

namespace ProofDesk.Shell

/-- How a directive lays out its argument. -/
structure Layout where
  isLeft : Bool := false
  hasPlus : Bool := false
  hasBlank : Bool := false
  isAlternate : Bool := false
  hasZeros : Bool := false
  width : Nat := 0
  precision : Option Nat := none
deriving DecidableEq, Repr

namespace Layout

def pad (l : Layout) (zeros : Bool) (sign body : Text) : Text :=
  let missing := l.width - (sign.length + body.length)
  if l.isLeft then sign ++ body ++ List.replicate missing ' '
  else if zeros then sign ++ List.replicate missing '0' ++ body
  else List.replicate missing ' ' ++ sign ++ body

def text (l : Layout) (s : Text) : Text :=
  l.pad false [] (match l.precision with
    | some n => s.take n
    | none => s)

def sign (l : Layout) (isNegative : Bool) : Text :=
  if isNegative then ['-'] else if l.hasPlus then ['+'] else if l.hasBlank then [' '] else []

def digits (l : Layout) (n : Nat) (shown : Text) : Text :=
  match l.precision with
  | some 0 => if n = 0 then [] else shown
  | some p => List.replicate (p - shown.length) '0' ++ shown
  | none => shown

def integer (l : Layout) (n : Int) : Text :=
  l.pad (l.hasZeros && l.precision.isNone) (l.sign (n < 0)) (l.digits n.natAbs (Text.ofNat n.natAbs))

def inBase (base n : Nat) : Text :=
  Nat.toDigits base n

def natural (l : Layout) (kind : Char) (n : Nat) : Text :=
  let zeros := l.hasZeros && l.precision.isNone
  match kind with
  | 'o' =>
    let body := l.digits n (inBase 8 n)
    l.pad zeros [] (if l.isAlternate && body.head? != some '0' then '0' :: body else body)
  | 'x' =>
    l.pad zeros (if l.isAlternate && n != 0 then ['0', 'x'] else []) (l.digits n (inBase 16 n))
  | 'X' =>
    l.pad zeros (if l.isAlternate && n != 0 then ['0', 'X'] else [])
      ((l.digits n (inBase 16 n)).map Char.toUpper)
  | _ => l.pad zeros [] (l.digits n (Text.ofNat n))

def fixedDigits (l : Layout) (places num den : Nat) : Text :=
  let n := roundDiv (num * Nat.pow 10 places) den
  let whole := Text.ofNat (n / Nat.pow 10 places)
  if places = 0 then whole ++ (if l.isAlternate then ['.'] else [])
  else
    let fraction := Text.ofNat (n % Nat.pow 10 places)
    whole ++ '.' :: (List.replicate (places - fraction.length) '0' ++ fraction)

def leadingPower (num den : Nat) : Int :=
  let guess : Int := (Text.ofNat num).length - (Text.ofNat den).length
  if den * Nat.pow 10 guess.toNat ≤ num * Nat.pow 10 (-guess).toNat then guess else guess - 1

def leadingDigits (places num den : Nat) : Nat × Int :=
  if num = 0 then (0, 0)
  else
    let e := leadingPower num den
    let shift : Int := places - e
    let n := roundDiv (num * Nat.pow 10 shift.toNat) (den * Nat.pow 10 (-shift).toNat)
    if n = Nat.pow 10 (places + 1) then (Nat.pow 10 places, e + 1) else (n, e)

def exponentText (e : Int) : Text :=
  let shown := Text.ofNat e.natAbs
  (if e < 0 then ['-'] else ['+']) ++ (if shown.length < 2 then '0' :: shown else shown)

def scientificDigits (l : Layout) (places num den : Nat) : Text :=
  let (n, e) := leadingDigits places num den
  let shown := Text.ofNat n
  let shown := List.replicate (places + 1 - shown.length) '0' ++ shown
  shown.take 1 ++ (if places = 0 ∧ ¬ l.isAlternate then [] else '.' :: shown.drop 1) ++
    'e' :: exponentText e

def dropZeros (s : Text) : Text :=
  if s.contains ['.'] then
    match s.reverse.dropWhile (· == '0') with
    | '.' :: rest => rest.reverse
    | rest => rest.reverse
  else s

def generalDigits (l : Layout) (precision num den : Nat) : Text :=
  let p := if precision = 0 then 1 else precision
  let (_, e) := leadingDigits (p - 1) num den
  let trim (s : Text) : Text := if l.isAlternate then s else dropZeros s
  if e < -4 ∨ (p : Int) ≤ e then
    let s := scientificDigits l (p - 1) num den
    trim (s.takeWhile (· != 'e')) ++ s.dropWhile (· != 'e')
  else trim (fixedDigits l ((p : Int) - 1 - e).toNat num den)

def fraction (l : Layout) (kind : Char) (isNegative : Bool) (num den : Nat) : Text :=
  let p := l.precision.getD 6
  let body := match kind.toLower with
    | 'f' => fixedDigits l p num den
    | 'e' => scientificDigits l p num den
    | _ => generalDigits l p num den
  l.pad l.hasZeros (l.sign isNegative) (if kind.isUpper then body.map Char.toUpper else body)

def word (l : Layout) (kind : Char) (isNegative : Bool) (body : Text) : Text :=
  l.pad false (l.sign isNegative) (if kind.isUpper then body.map Char.toUpper else body)

end Layout

/-- A number as text gives it: a sign, digits with a point, and a power of ten. -/
structure Numeral where
  isNegative : Bool := false
  digits : Nat := 0
  power : Int := 0
deriving DecidableEq, Repr

namespace Numeral

def read? (s : Text) : Option (Numeral × Text) :=
  let s := s.dropWhile fun c => c == ' ' || (9 ≤ c.toNat && c.toNat ≤ 13)
  let (isNegative, s) : Bool × Text := match s with
    | '-' :: r => (true, r)
    | '+' :: r => (false, r)
    | s => (false, s)
  let whole := s.takeWhile Char.isDigit
  let s := s.drop whole.length
  let places := match s with
    | '.' :: r => r.takeWhile Char.isDigit
    | _ => []
  if whole = [] ∧ places = [] then none
  else
    let s := match s with
      | '.' :: r => r.drop places.length
      | s => s
    let digits := (Text.digits? (whole ++ places)).getD 0
    let (e, s) : Int × Text := match s with
      | c :: r =>
        if c = 'e' ∨ c = 'E' then
          let (down, r') : Bool × Text := match r with
            | '-' :: r => (true, r)
            | '+' :: r => (false, r)
            | r => (false, r)
          match Text.digits? (r'.takeWhile Char.isDigit) with
          | some n => (if down then -n else n, r'.dropWhile Char.isDigit)
          | none => (0, s)
        else (0, s)
      | [] => (0, s)
    some (⟨isNegative, digits, e - places.length⟩, s)

def fraction? (n : Numeral) : Option (Nat × Nat) :=
  if 400 < (Text.ofNat n.digits).length + n.power ∧ n.digits ≠ 0 then none
  else if n.power < -5000 then some (0, 1)
  else
    (Binary64.ofFraction (n.digits * Nat.pow 10 n.power.toNat)
      (Nat.pow 10 (-n.power).toNat)).map Binary64.fraction

end Numeral

/-- A piece of a format. -/
inductive FormatPiece where
  | text (s : Text)
  /-- A directive; a width or precision that is `none` comes from an argument. -/
  | directive (layout : Layout) (width : Option Nat) (precision : Option (Option Nat)) (kind : Char)
      (source : Text)
  /-- The format ends inside a directive. -/
  | cutShort
deriving DecidableEq, Repr

namespace FormatPiece

def flags : Layout → Text → Layout × Text
  | l, '-' :: s => flags { l with isLeft := true } s
  | l, '+' :: s => flags { l with hasPlus := true } s
  | l, ' ' :: s => flags { l with hasBlank := true } s
  | l, '#' :: s => flags { l with isAlternate := true } s
  | l, '0' :: s => flags { l with hasZeros := true } s
  | l, s => (l, s)

def measure (s : Text) : Option Nat × Text :=
  match s with
  | '*' :: rest => (none, rest)
  | s => (some ((Text.digits? (s.takeWhile Char.isDigit)).getD 0), s.dropWhile Char.isDigit)

def directive? (s : Text) : Option (FormatPiece × Text) :=
  let (l, r) := flags {} s
  let (width, r) := measure r
  let (precision, r) : Option (Option Nat) × Text := match r with
    | '.' :: r =>
      let (p, r) := measure r
      (some p, r)
    | r => (none, r)
  match r with
  | [] => none
  | kind :: rest =>
    some (.directive l width precision kind ('%' :: s.take (s.length - rest.length)), rest)

def ofText : (fuel : Nat) → Text → List FormatPiece
  | 0, _ => []
  | _, [] => []
  | fuel + 1, '%' :: '%' :: s => .text ['%'] :: ofText fuel s
  | fuel + 1, '%' :: s =>
    match directive? s with
    | some (piece, rest) => piece :: ofText fuel rest
    | none => [.cutShort]
  | fuel + 1, '\\' :: s =>
    let (b, rest) := escape s
    .text [b] :: ofText fuel rest
  | fuel + 1, c :: s => .text [c] :: ofText fuel s

end FormatPiece

/-- Printing under a format: the text so far, the complaints, the arguments that are left. -/
structure Printout where
  printed : Text := []
  complaints : List Text := []
  arguments : List Text := []
  usesArgument : Bool := false
  /-- The text ends here, after an escape that says so or a directive that is none. -/
  isOver : Bool := false
  isBroken : Bool := false

namespace Printout

abbrev Printing := StateM Printout

def print (s : Text) : Printing Unit :=
  modify fun p => { p with printed := p.printed ++ s }

def complain (s : Text) : Printing Unit :=
  modify fun p => { p with complaints := p.complaints ++ [s] }

def argument? : Printing (Option Text) := do
  let p ← get
  set { p with arguments := p.arguments.drop 1, usesArgument := true }
  return p.arguments.head?

def checkNumber (given rest : Text) : Printing Unit := do
  if rest ≠ [] then
    if rest = given then complain (given ++ ": expected numeric value".toList)
    else complain (given ++ ": not completely converted".toList)

def integerArgument (least most : Int) : Printing Int := do
  match ← argument? with
  | none => return 0
  | some s =>
    match s with
    | '\'' :: rest => return (rest.head?.map Char.toNat).getD 0
    | '"' :: rest => return (rest.head?.map Char.toNat).getD 0
    | s =>
      let t := s.dropWhile fun c => c == ' ' || (9 ≤ c.toNat && c.toNat ≤ 13)
      let (isNegative, digits) : Bool × Text := match t with
        | '-' :: r => (true, r)
        | '+' :: r => (false, r)
        | t => (false, t)
      let hasDigit := (digits.head?.map Char.isDigit).getD false
      let (n, rest) := if hasDigit then Arithmetic.numeral digits else (0, s)
      checkNumber s rest
      let value : Int := if isNegative then -n else n
      if value < least ∨ most < value then
        complain (s ++ ": Numerical result out of range".toList)
      return max least (min most value)

def printFraction (l : Layout) (kind : Char) : Printing Unit := do
  match ← argument? with
  | none => print (l.fraction kind false 0 1)
  | some s =>
    match s with
    | '\'' :: rest => print (l.fraction kind false ((rest.head?.map Char.toNat).getD 0) 1)
    | '"' :: rest => print (l.fraction kind false ((rest.head?.map Char.toNat).getD 0) 1)
    | s =>
      match Numeral.read? s with
      | some (n, rest) =>
        checkNumber s rest
        match n.fraction? with
        | some (num, den) => print (l.fraction kind n.isNegative num den)
        | none => print (l.word kind n.isNegative "inf".toList)
      | none =>
        let t := if s.head? = some '-' then s.drop 1 else s
        let name := t.map Char.toLower
        if name = "inf".toList ∨ name = "infinity".toList then
          print (l.word kind (s.head? = some '-') "inf".toList)
        else if name = "nan".toList then
          print (l.word kind (s.head? = some '-') "nan".toList)
        else
          checkNumber s s
          print (l.fraction kind false 0 1)

def measured (l : Layout) (width : Option Nat) (precision : Option (Option Nat)) :
    Printing Layout := do
  let least : Int := -Nat.pow 2 63
  let most : Int := Nat.pow 2 63 - 1
  let l ← match width with
    | some n => pure { l with width := n }
    | none => do
      let n ← integerArgument least most
      pure { l with width := n.natAbs, isLeft := l.isLeft || n < 0 }
  match precision with
  | none => return l
  | some (some n) => return { l with precision := some n }
  | some none =>
    let n ← integerArgument least most
    return { l with precision := if n < 0 then none else some n.toNat }

def pass : List FormatPiece → Printing Unit
  | [] => return
  | piece :: rest => do
    match piece with
    | .text s => print s
    | .cutShort =>
      complain "missing format character".toList
      modify fun p => { p with isOver := true, isBroken := true }
    | .directive l width precision kind source =>
      let l ← measured l width precision
      let most : Int := Nat.pow 2 63 - 1
      match kind with
      | 's' => print (l.text ((← argument?).getD []))
      | 'b' =>
        let (s, stops) := unescaped ((← argument?).getD [])
        print (l.text s)
        if stops then modify fun p => { p with isOver := true }
      | 'c' => print ({ l with precision := none }.text [(((← argument?).getD []).head?).getD '\x00'])
      | 'd' | 'i' => print (l.integer (← integerArgument (-most - 1) most))
      | 'o' | 'u' | 'x' | 'X' =>
        let n ← integerArgument (-(Nat.pow 2 64 - 1 : Nat)) (Nat.pow 2 64 - 1 : Nat)
        print (l.natural kind (n % Nat.pow 2 64).toNat)
      | 'e' | 'E' | 'f' | 'F' | 'g' | 'G' => printFraction l kind
      | _ =>
        complain (source ++ ": invalid directive".toList)
        modify fun p => { p with isOver := true, isBroken := true }
    if (← get).isOver then return
    pass rest

def passes (pieces : List FormatPiece) : (fuel : Nat) → Printing Unit
  | 0 => return
  | fuel + 1 => do
    let before := (← get).arguments.length
    pass pieces
    let p ← get
    if p.isOver || p.arguments.isEmpty || p.arguments.length == before then return
    passes pieces fuel

def ofFormat (format : Text) (arguments : List Text) : Printout :=
  ((passes (FormatPiece.ofText (format.length + 1) format) (arguments.length + 1)).run
    { arguments }).2

end Printout

end ProofDesk.Shell
