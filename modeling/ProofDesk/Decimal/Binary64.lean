namespace ProofDesk

/-- The value `mantissa * 2 ^ exponent`. A normal value has a mantissa of 53 bits; a subnormal one
has a shorter mantissa and the exponent `-1074`. -/
structure Binary64 where
  mantissa : Nat
  exponent : Int
deriving DecidableEq, Repr

def roundDiv (num den : Nat) : Nat :=
  let q := num / den
  let r := 2 * (num % den)
  if r < den then q else if den < r then q + 1 else q + q % 2

def scaleFraction (num den : Nat) (e : Int) : Nat × Nat :=
  (num * Nat.pow 2 e.toNat, den * Nat.pow 2 (-e).toNat)

namespace Binary64

def zero : Binary64 := ⟨0, -1074⟩

def leading : Nat := Nat.pow 2 52

/-- The value nearest to a fraction, ties to the even mantissa; nothing if that lies beyond the
largest finite value. -/
def ofFraction (num den : Nat) : Option Binary64 :=
  if num = 0 then some zero
  else
    let guess : Int := (Nat.log2 num : Int) - Nat.log2 den - 52
    let (n, d) := scaleFraction num den (-guess)
    let e := max (if n < d * leading then guess - 1 else guess) (-1074)
    let (n, d) := scaleFraction num den (-e)
    let m := roundDiv n d
    let (m, e) := if m = 2 * leading then (leading, e + 1) else (m, e)
    if 971 < e then none else some ⟨m, e⟩

def fraction (x : Binary64) : Nat × Nat :=
  scaleFraction x.mantissa 1 x.exponent

def mul (x y : Binary64) : Option Binary64 :=
  ofFraction (x.fraction.1 * y.fraction.1) (x.fraction.2 * y.fraction.2)

def div (x y : Binary64) : Option Binary64 :=
  ofFraction (x.fraction.1 * y.fraction.2) (x.fraction.2 * y.fraction.1)

def tenPower (n : Nat) : Option Binary64 :=
  ofFraction (Nat.pow 10 n) 1

def scaleTen : (steps : Nat) → Binary64 → Int → Option Binary64
  | 0, _, _ => none
  | steps + 1, x, e => do
    if e.natAbs ≤ 308 then
      let p ← tenPower e.natAbs
      if 0 ≤ e then x.mul p else x.div p
    else if x.mantissa = 0 then some x
    else if 0 ≤ e then none
    else
      let p ← tenPower 308
      scaleTen steps (← x.div p) (e + 308)

end Binary64

end ProofDesk
