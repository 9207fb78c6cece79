import ProofDesk.Json.Basic

namespace ProofDesk.Json

def isSpace (c : Char) : Bool :=
  c == ' ' || c == '\t' || c == '\n' || c == '\r'

def skipSpace (s : Text) : Text :=
  s.dropWhile isSpace

def digit? (c : Char) : Option (Fin 10) :=
  if h : '0'.toNat ≤ c.toNat ∧ c.toNat ≤ '9'.toNat then
    some ⟨c.toNat - '0'.toNat, by have := h.2; simp only [Char.toNat] at *; simp at *; omega⟩
  else none

def readDigits : Text → List (Fin 10) × Text
  | [] => ([], [])
  | c :: s =>
    match digit? c with
    | some d => (d :: (readDigits s).1, (readDigits s).2)
    | none => ([], c :: s)

def ofDigits (ds : List (Fin 10)) : Nat :=
  ds.foldl (fun n d => 10 * n + d.val) 0

/-- The whole part of a number: a zero alone, or digits that start with another one. -/
def readWhole (s : Text) : Option (Nat × Text) :=
  match readDigits s with
  | ([], _) => none
  | (d :: ds, rest) =>
    if d = 0 then some (0, s.drop 1) else some (ofDigits (d :: ds), rest)

/-- The digits after a point, if there is a point; at least one has to follow it. -/
def readFraction : Text → Option (List (Fin 10) × Text)
  | '.' :: s =>
    match readDigits s with
    | ([], _) => none
    | (ds, rest) => some (ds, rest)
  | s => some ([], s)

def readExponentDigits (s : Text) : Option (Nat × Text) :=
  match readDigits s with
  | ([], _) => none
  | (ds, rest) => some (ofDigits ds, rest)

def readExponent : Text → Option (Option Int × Text)
  | c :: s =>
    if c = 'e' ∨ c = 'E' then
      match s with
      | '-' :: r => (readExponentDigits r).map fun p => (some (-Int.ofNat p.1), p.2)
      | '+' :: r => (readExponentDigits r).map fun p => (some (Int.ofNat p.1), p.2)
      | r => (readExponentDigits r).map fun p => (some (Int.ofNat p.1), p.2)
    else some (none, c :: s)
  | [] => some (none, [])

def readUnsigned (negative : Bool) (s : Text) : Option (Json × Text) := do
  let (whole, s) ← readWhole s
  let (fraction, s) ← readFraction s
  let (exponent, s) ← readExponent s
  return (number ⟨negative, whole, fraction, exponent⟩, s)

def readNumber : Text → Option (Json × Text)
  | '-' :: s => readUnsigned true s
  | s => readUnsigned false s

def hexValue? (c : Char) : Option Nat :=
  if '0' ≤ c ∧ c ≤ '9' then some (c.toNat - '0'.toNat)
  else if 'a' ≤ c ∧ c ≤ 'f' then some (c.toNat - 'a'.toNat + 10)
  else if 'A' ≤ c ∧ c ≤ 'F' then some (c.toNat - 'A'.toNat + 10)
  else none

def hex4? (a b c d : Char) : Option Nat := do
  let a ← hexValue? a
  let b ← hexValue? b
  let c ← hexValue? c
  let d ← hexValue? d
  return ((a * 16 + b) * 16 + c) * 16 + d

/-- A part of a quoted text: a character, or a UTF-16 code unit that was escaped by number. -/
inductive Piece where
  | char (c : Char)
  | unit (n : Nat)

def unescape? (c : Char) : Option Char :=
  if c = '"' ∨ c = '\\' ∨ c = '/' then some c
  else if c = 'b' then some '\x08'
  else if c = 't' then some '\t'
  else if c = 'n' then some '\n'
  else if c = 'f' then some '\x0c'
  else if c = 'r' then some '\r'
  else none

def readPieces : Text → Option (List Piece × Text)
  | [] => none
  | '"' :: s => some ([], s)
  | '\\' :: 'u' :: a :: b :: c :: d :: s => do
    let n ← hex4? a b c d
    let (pieces, rest) ← readPieces s
    return (.unit n :: pieces, rest)
  | '\\' :: e :: s => do
    let c ← unescape? e
    let (pieces, rest) ← readPieces s
    return (.char c :: pieces, rest)
  | c :: s =>
    if c = '\\' ∨ c.toNat < 32 then none
    else do
      let (pieces, rest) ← readPieces s
      return (.char c :: pieces, rest)

def isHigh (n : Nat) : Bool :=
  0xd800 ≤ n && n < 0xdc00

def isLow (n : Nat) : Bool :=
  0xdc00 ≤ n && n < 0xe000

/-- The characters that parts denote; nothing if half a surrogate pair stands alone. -/
def assemble : List Piece → Option Text
  | [] => some []
  | .char c :: rest => (assemble rest).map (c :: ·)
  | .unit h :: .unit l :: rest =>
    if isHigh h && isLow l then
      (assemble rest).map (Char.ofNat (0x10000 + (h - 0xd800) * 0x400 + (l - 0xdc00)) :: ·)
    else if isHigh h || isLow h then none
    else (assemble (.unit l :: rest)).map (Char.ofNat h :: ·)
  | .unit h :: rest =>
    if isHigh h || isLow h then none else (assemble rest).map (Char.ofNat h :: ·)

/-- A text whose opening quote has been read; nothing in place of its characters if it is
garbled. -/
def readText (s : Text) : Option (Option Text × Text) := do
  let (pieces, rest) ← readPieces s
  return (assemble pieces, rest)

/-- The object with these members; a name that is garbled makes it garbled. -/
def ofMembers (members : List (Option Text × Json)) : Json :=
  match members.mapM fun m => m.1.map fun name => (name, m.2) with
  | some members => object members
  | none => garbled

def readWord (s : Text) : Option (Json × Text) :=
  match Text.after? "null".toList s with
  | some rest => some (null, rest)
  | none =>
    match Text.after? "true".toList s with
    | some rest => some (bool true, rest)
    | none => (Text.after? "false".toList s).map fun rest => (bool false, rest)

mutual

/-- A value at the start of the text, with at most `fuel` readers inside one another. -/
def readValue : (fuel : Nat) → Text → Option (Json × Text)
  | 0, _ => none
  | fuel + 1, s =>
    match s with
    | '"' :: s => (readText s).map fun p => ((p.1.map text).getD garbled, p.2)
    | '[' :: s =>
      match skipSpace s with
      | ']' :: rest => some (array [], rest)
      | s => (readItems fuel s).map fun p => (array p.1, p.2)
    | '\x7b' :: s =>
      match skipSpace s with
      | '\x7d' :: rest => some (object [], rest)
      | s => (readMembers fuel s).map fun p => (ofMembers p.1, p.2)
    | s =>
      match readWord s with
      | some p => some p
      | none => readNumber s

/-- The items of an array, up to and with its closing bracket. -/
def readItems : (fuel : Nat) → Text → Option (List Json × Text)
  | 0, _ => none
  | fuel + 1, s =>
    match readValue fuel s with
    | none => none
    | some (x, s) =>
      match skipSpace s with
      | ']' :: rest => some ([x], rest)
      | ',' :: s => (readItems fuel (skipSpace s)).map fun p => (x :: p.1, p.2)
      | _ => none

/-- The members of an object, up to and with its closing brace. -/
def readMembers : (fuel : Nat) → Text → Option (List (Option Text × Json) × Text)
  | 0, _ => none
  | fuel + 1, s =>
    match s with
    | '"' :: s =>
      match readText s with
      | none => none
      | some (name, s) =>
        match skipSpace s with
        | ':' :: s =>
          match readValue fuel (skipSpace s) with
          | none => none
          | some (x, s) =>
            match skipSpace s with
            | '\x7d' :: rest => some ([(name, x)], rest)
            | ',' :: s => (readMembers fuel (skipSpace s)).map fun p => ((name, x) :: p.1, p.2)
            | _ => none
        | _ => none
    | _ => none

end

def read? (s : Text) : Option Json :=
  match readValue (2 * s.length + 2) (skipSpace s) with
  | some (x, rest) => if skipSpace rest = [] then some x else none
  | none => none

end ProofDesk.Json
