import ProofDesk.Text.Basic

namespace ProofDesk.Punycode

def base : Nat := 36

def firstPoint : Nat := 0x80

def firstBias : Nat := 72

/-- Halves a number until it is small, and counts the halvings in steps of the base; what is halved
is the range of a digit. -/
def shrink (n : Nat) : Nat × Nat :=
  if n ≤ 455 then (n, 0)
  else
    let (m, k) := shrink (n / 35)
    (m, k + base)
termination_by n
decreasing_by omega

/-- The bias after a number: `count` characters are in place, and `isFirst` tells that this number
was the first. -/
def adapt (n count : Nat) (isFirst : Bool) : Nat :=
  let n := if isFirst then n / 700 else n / 2
  let (m, k) := shrink (n + n / count)
  k + base * m / (m + 38)

def threshold (place bias : Nat) : Nat :=
  if place ≤ bias then 1 else if place ≥ bias + 26 then 26 else place - bias

def digitValue? (c : Char) : Option Nat :=
  if 'a' ≤ c ∧ c ≤ 'z' then some (c.toNat - 'a'.toNat)
  else if 'A' ≤ c ∧ c ≤ 'Z' then some (c.toNat - 'A'.toNat)
  else if c.isDigit then some (c.toNat - '0'.toNat + 26)
  else none

def digit (n : Nat) : Char :=
  if n < 26 then Char.ofNat ('a'.toNat + n) else Char.ofNat ('0'.toNat + (n - 26))

/-- A text in the making: what is in place, the last character put in and where the next one may
go at the earliest, and the number being read. -/
structure Reading where
  text : Text
  point : Nat := firstPoint
  index : Nat := 0
  bias : Nat := firstBias
  isFirst : Bool := true
  number : Nat := 0
  weight : Nat := 1
  place : Nat := base
deriving DecidableEq, Repr

namespace Reading

def insert? (r : Reading) (number : Nat) : Option Reading :=
  let count := r.text.length + 1
  let total := r.index + number
  let point := r.point + total / count
  let index := total % count
  if point < 0xd800 ∨ (0xdfff < point ∧ point < 0x110000) then
    some {
      text := r.text.take index ++ Char.ofNat point :: r.text.drop index
      point, index := index + 1, bias := adapt number count r.isFirst, isFirst := false }
  else none

def step? (r : Reading) (c : Char) : Option Reading :=
  match digitValue? c with
  | none => none
  | some d =>
    let number := r.number + d * r.weight
    let t := threshold r.place r.bias
    if d < t then r.insert? number
    else some { r with number, weight := r.weight * (base - t), place := r.place + base }

end Reading

def decode? (s : Text) : Option Text :=
  let (ascii, digits) := match Text.cut? '-' s.reverse with
    | some (digits, ascii) => if ascii.isEmpty then ([], s) else (ascii.reverse, digits.reverse)
    | none => ([], s)
  match digits.foldlM Reading.step? { text := ascii } with
  | some r => if r.place = base then some r.text else none
  | none => none

theorem one_le_threshold (place bias : Nat) : 1 ≤ threshold place bias := by
  unfold threshold
  split
  · omega
  · split <;> omega

def digits (n place bias : Nat) : Text :=
  if n < threshold place bias then [digit n]
  else
    digit (threshold place bias + (n - threshold place bias) % (base - threshold place bias)) ::
      digits ((n - threshold place bias) / (base - threshold place bias)) (place + base) bias
termination_by n
decreasing_by
  have := one_le_threshold place bias
  have := Nat.div_le_self (n - threshold place bias) (base - threshold place bias)
  omega

structure Writing where
  text : Text := []
  count : Nat
  number : Nat := 0
  bias : Nat := firstBias
  isFirst : Bool := true
deriving DecidableEq, Repr

def Writing.point (w : Writing) (point : Nat) (s : Text) : Writing :=
  s.foldl (fun w c =>
    if c.toNat < point then { w with number := w.number + 1 }
    else if c.toNat = point then {
      text := w.text ++ digits w.number base w.bias
      count := w.count + 1
      bias := adapt w.number (w.count + 1) w.isFirst
      isFirst := false }
    else w) w

def encode (s : Text) : Text :=
  let ascii := s.filter fun c => c.toNat < firstPoint
  let points := ((s.map Char.toNat).filter fun n => firstPoint ≤ n).mergeSort.eraseDups
  let start := if ascii.isEmpty then [] else ascii ++ ['-']
  let pass (w : Writing) (next point : Nat) : Writing :=
    { w with number := w.number + (point - next) * (w.count + 1) }.point point s
  let (w, _) := points.foldl (fun (w, next) point =>
    let w := pass w next point
    ({ w with number := w.number + 1 }, point + 1)) (({ count := ascii.length } : Writing), firstPoint)
  start ++ w.text

end ProofDesk.Punycode
