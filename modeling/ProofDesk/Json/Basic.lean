import ProofDesk.Text.Basic

namespace ProofDesk

/-- A number as written: sign, whole part, digits after the point, exponent. -/
structure Numeral where
  negative : Bool
  whole : Nat
  fraction : List (Fin 10)
  exponent : Option Int
deriving DecidableEq, Repr

def Numeral.ofNat (n : Nat) : Numeral :=
  ⟨false, n, [], none⟩

/-- The value of a numeral that is written as a plain non-negative integer. -/
def Numeral.toNat? (n : Numeral) : Option Nat :=
  if !n.negative && n.fraction.isEmpty && n.exponent.isNone then some n.whole else none

/-- A JSON value. A text is `garbled` when it is well-formed and yet denotes no characters, because
one half of a surrogate pair is escaped without the other; so is an object with a garbled name. -/
inductive Json where
  | null
  | bool (b : Bool)
  | number (n : Numeral)
  | text (s : Text)
  | array (items : List Json)
  | object (members : List (Text × Json))
  | garbled
deriving Repr

namespace Json

def nat (n : Nat) : Json :=
  number (Numeral.ofNat n)

def int (n : Int) : Json :=
  number ⟨decide (n < 0), n.natAbs, [], none⟩

def str (s : String) : Json :=
  text s.toList

def record (members : List (String × Json)) : Json :=
  object (members.map fun m => (m.1.toList, m.2))

def list {α : Type} (f : α → Json) (xs : List α) : Json :=
  array (xs.map f)

def option {α : Type} (f : α → Json) : Option α → Json
  | some x => f x
  | none => null

def field? (name : Text) : Json → Option Json
  | object members => (members.reverse.find? fun m => m.1 == name).map Prod.snd
  | _ => none

def get? (j : Json) (name : String) : Option Json :=
  field? name.toList j

def text? : Json → Option Text
  | text s => some s
  | _ => none

def array? : Json → Option (List Json)
  | array items => some items
  | _ => none

def bool? : Json → Option Bool
  | bool b => some b
  | _ => none

/-- The value of a number written as a plain non-negative integer. -/
def nat? : Json → Option Nat
  | number n => n.toNat?
  | _ => none

def isObject : Json → Bool
  | object _ => true
  | _ => false

mutual

/-- The number of arrays and objects inside one another. -/
def height : Json → Nat
  | array items => heightOfItems items + 1
  | object members => heightOfMembers members + 1
  | _ => 0

def heightOfItems : List Json → Nat
  | [] => 0
  | x :: rest => max (height x) (heightOfItems rest)

def heightOfMembers : List (Text × Json) → Nat
  | [] => 0
  | m :: rest => max (height m.2) (heightOfMembers rest)

end

end Json

end ProofDesk
