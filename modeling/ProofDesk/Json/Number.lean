import ProofDesk.Json.Printer
import ProofDesk.Decimal.Shortest

namespace ProofDesk.Numeral

def notation64 : DecimalNotation :=
  ⟨-5, 16, true⟩

/-- Appends digits to a number while it stays below `2 ^ 64`; the result tells how many digits are
left. -/
def appendDigits : Nat → List Nat → Nat × Nat
  | n, [] => (n, 0)
  | n, d :: ds =>
    if 10 * n + d < Nat.pow 2 64 then appendDigits (10 * n + d) ds else (n, ds.length + 1)

/-- The leading digits that fit 64 bits, and the power of ten that they stand for: digits of the
whole part that do not fit count as zeros, digits after the point that do not fit are dropped. -/
def leading (n : Numeral) : Nat × Int :=
  let (significand, zeros) := appendDigits 0 ((Text.ofNat n.whole).map fun c => c.toNat - '0'.toNat)
  let (significand, unread) := appendDigits significand (n.fraction.map Fin.val)
  (significand, zeros - (n.fraction.length - unread : Nat) + n.exponent.getD 0)

def isInteger64 (n : Numeral) : Bool :=
  n.fraction.isEmpty && n.exponent.isNone &&
    (if n.negative then 0 < n.whole && n.whole ≤ Nat.pow 2 63 else n.whole < Nat.pow 2 64)

def magnitude? (n : Numeral) : Option Binary64 :=
  let (significand, power) := n.leading
  (Binary64.ofFraction significand 1).bind fun x => x.scaleTen 4 power

def inRange (n : Numeral) : Bool :=
  n.isInteger64 || n.magnitude?.isSome

def settled (n : Numeral) : Text :=
  if n.isInteger64 then n.render
  else
    let digits := match n.magnitude? with
      | some x => if x.mantissa = 0 then "0.0".toList else x.shortest.render notation64
      | none => []
    if n.negative then '-' :: digits else digits

end ProofDesk.Numeral
