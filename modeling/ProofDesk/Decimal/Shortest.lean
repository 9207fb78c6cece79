import ProofDesk.Decimal.Binary64
import ProofDesk.Text.Basic

namespace ProofDesk

structure Decimal where
  digits : Text
  point : Int
deriving DecidableEq, Repr

namespace Binary64

def magnitude (x : Binary64) : Int :=
  let (num, den) := x.fraction
  if den ≤ num then (Nat.toDigits 10 (num / den)).length
  else 1 - (((List.range 400).find? fun k => den ≤ num * Nat.pow 10 k).getD 0 : Nat)

def accepts (x : Binary64) (c : Nat) (k : Int) : Bool :=
  let below := if x.mantissa = leading ∧ -1074 < x.exponent then 1 else 2
  let (num, den) := scaleFraction 1 4 x.exponent
  let tenNum := Nat.pow 10 k.toNat
  let tenDen := Nat.pow 10 (-k).toNat
  let value := c * tenNum * den
  let low := (4 * x.mantissa - below) * num * tenDen
  let high := (4 * x.mantissa + 2) * num * tenDen
  if x.mantissa % 2 = 0 then low ≤ value && value ≤ high else low < value && value < high

/-- The best decimal with `n` digits, if one reads back: of the two neighbours of the value on the
grid of these decimals the nearer that reads back, the even one on a tie. -/
def withDigits? (x : Binary64) (n : Nat) : Option (Nat × Int) :=
  let k := x.magnitude - n
  let (num, den) := x.fraction
  let scaledNum := num * Nat.pow 10 (-k).toNat
  let scaledDen := den * Nat.pow 10 k.toNat
  let lower := scaledNum / scaledDen
  let nearest := roundDiv scaledNum scaledDen
  let other := if nearest = lower then lower + 1 else lower
  if x.accepts nearest k then some (nearest, k)
  else if x.accepts other k then some (other, k)
  else none

def shortest (x : Binary64) : Decimal :=
  match (List.range 17).findSome? fun n => x.withDigits? (n + 1) with
  | some (c, k) =>
    let digits := Nat.toDigits 10 c
    let kept := (digits.reverse.dropWhile (· == '0')).reverse
    ⟨kept, digits.length + k⟩
  | none => ⟨['0'], 0⟩

end Binary64

/-- How decimals are written: the exponents (of the first digit) that are written out in positional
notation, and whether an exponent that is not negative gets a plus sign. -/
structure DecimalNotation where
  leastPositional : Int
  leastScientific : Int
  plusSign : Bool
deriving Repr

namespace Decimal

def positional (d : Decimal) : Text :=
  if d.point ≤ 0 then
    "0.".toList ++ List.replicate d.point.natAbs '0' ++ d.digits
  else
    let whole := d.point.toNat
    let padded := d.digits ++ List.replicate (whole - d.digits.length) '0'
    let rest := padded.drop whole
    padded.take whole ++ '.' :: (if rest.isEmpty then ['0'] else rest)

def scientific (f : DecimalNotation) (d : Decimal) : Text :=
  let e := d.point - 1
  let mantissa := match d.digits with
    | first :: second :: rest => first :: '.' :: second :: rest
    | digits => digits
  mantissa ++ 'e' :: (if 0 ≤ e ∧ f.plusSign then ['+'] else []) ++ Text.ofInt e

def render (f : DecimalNotation) (d : Decimal) : Text :=
  if f.leastPositional ≤ d.point - 1 ∧ d.point - 1 < f.leastScientific then d.positional
  else d.scientific f

end Decimal

end ProofDesk
