import ProofDesk.Text.Basic

namespace ProofDesk

def utf8Bytes (c : Char) : List Nat :=
  let n := c.toNat
  if n < 0x80 then [n]
  else if n < 0x800 then [0xc0 + n / 0x40, 0x80 + n % 0x40]
  else if n < 0x10000 then [0xe0 + n / 0x1000, 0x80 + n / 0x40 % 0x40, 0x80 + n % 0x40]
  else [0xf0 + n / 0x40000, 0x80 + n / 0x1000 % 0x40, 0x80 + n / 0x40 % 0x40, 0x80 + n % 0x40]

namespace Percent

/-- Control characters and characters beyond ASCII. -/
def inControl (c : Char) : Bool :=
  c.toNat < 0x20 || 0x7e < c.toNat

def inFragment (c : Char) : Bool :=
  inControl c || " \"<>`".toList.contains c

/-- Encoded in queries; a URI of a special scheme encodes apostrophes too. -/
def inQuery (special : Bool) (c : Char) : Bool :=
  inControl c || " \"#<>".toList.contains c || (special && c == '\'')

def inPath (c : Char) : Bool :=
  inFragment c || c == '#' || c == '?' || c == '\x7b' || c == '\x7d'

/-- Encoded in a name that becomes one segment of a path. -/
def inSegment (c : Char) : Bool :=
  inPath c || c == '/' || c == '%' || c == '\\'

def inUserInfo (c : Char) : Bool :=
  inPath c || "/:;=@[\\]^|".toList.contains c

def upperDigit (n : Nat) : Char :=
  if n < 10 then Char.ofNat ('0'.toNat + n) else Char.ofNat ('A'.toNat + (n - 10))

def byte (b : Nat) : Text :=
  ['%', upperDigit (b / 16), upperDigit (b % 16)]

def encode (set : Char → Bool) (s : Text) : Text :=
  s.flatMap fun c => if set c then (utf8Bytes c).flatMap byte else [c]

end Percent

end ProofDesk
