import ProofDesk.Json.Basic

namespace ProofDesk

def hexDigit (n : Nat) : Char :=
  Nat.digitChar (n % 16)

namespace Numeral

/-- The digits of a numeral, its exponent written with `e`. -/
def render (n : Numeral) : Text :=
  (if n.negative then ['-'] else []) ++ Text.ofNat n.whole
    ++ (if n.fraction.isEmpty then [] else '.' :: n.fraction.map fun d => Nat.digitChar d.val)
    ++ (match n.exponent with
      | none => []
      | some e => 'e' :: Text.ofInt e)

end Numeral

namespace Json

def escape (c : Char) : Text :=
  if c = '"' then ['\\', '"']
  else if c = '\\' then ['\\', '\\']
  else if c.toNat = 8 then ['\\', 'b']
  else if c.toNat = 9 then ['\\', 't']
  else if c.toNat = 10 then ['\\', 'n']
  else if c.toNat = 12 then ['\\', 'f']
  else if c.toNat = 13 then ['\\', 'r']
  else if c.toNat < 32 then ['\\', 'u', '0', '0', hexDigit (c.toNat / 16), hexDigit c.toNat]
  else [c]

def quote (s : Text) : Text :=
  '"' :: s.flatMap escape ++ ['"']

mutual

/-- The value in one line, without spaces. -/
def compact : Json → Text
  | null => "null".toList
  | bool true => "true".toList
  | bool false => "false".toList
  | number n => n.render
  | text s => quote s
  | array items => '[' :: compactItems items ++ [']']
  | object members => '\x7b' :: compactMembers members ++ ['\x7d']
  | garbled => "\"\\ud800\"".toList

def compactItems : List Json → Text
  | [] => []
  | [x] => compact x
  | x :: y :: rest => compact x ++ ',' :: compactItems (y :: rest)

def compactMembers : List (Text × Json) → Text
  | [] => []
  | [(name, x)] => quote name ++ ':' :: compact x
  | (name, x) :: y :: rest => quote name ++ ':' :: compact x ++ ',' :: compactMembers (y :: rest)

end

def newLine (indent : Nat) : Text :=
  '\n' :: List.replicate indent ' '

mutual

/-- The value with one item or member a line, each level indented by two more spaces. -/
def pretty (indent : Nat) : Json → Text
  | array [] => "[]".toList
  | array (x :: rest) =>
    '[' :: prettyItems (indent + 2) (x :: rest) ++ newLine indent ++ [']']
  | object [] => ['\x7b', '\x7d']
  | object (m :: rest) =>
    '\x7b' :: prettyMembers (indent + 2) (m :: rest) ++ newLine indent ++ ['\x7d']
  | null => compact null
  | bool b => compact (bool b)
  | number n => compact (number n)
  | text s => compact (text s)
  | garbled => compact garbled

def prettyItems (indent : Nat) : List Json → Text
  | [] => []
  | [x] => newLine indent ++ pretty indent x
  | x :: y :: rest => newLine indent ++ pretty indent x ++ ',' :: prettyItems indent (y :: rest)

/-- The members, each on a line of its own. -/
def prettyMembers (indent : Nat) : List (Text × Json) → Text
  | [] => []
  | [(name, x)] => newLine indent ++ quote name ++ ':' :: ' ' :: pretty indent x
  | (name, x) :: y :: rest =>
    newLine indent ++ quote name ++ ':' :: ' ' :: pretty indent x
      ++ ',' :: prettyMembers indent (y :: rest)

end

end Json

end ProofDesk
