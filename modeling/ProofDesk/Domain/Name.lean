import ProofDesk.Domain.Direction
import ProofDesk.Domain.Joining
import ProofDesk.Domain.Mapping
import ProofDesk.Domain.Punycode
import ProofDesk.Text.Utf8

namespace ProofDesk.Domain

def encodedMark : Text := "xn--".toList

def maxEncoded : Nat := 2000

def maxLabel : Nat := 1000

def isDenied (c : Char) : Bool :=
  c.toNat ≤ 0x20 || c.toNat == 0x7f || "%#/:<>?@[\\]^|".toList.contains c

def isAscii (s : Text) : Bool :=
  s.all fun c => c.toNat < 0x80

/-- A label may hold these characters, beyond ASCII and after mapping: it does not begin with a
mark, its joiners are in place, and it is not too long. -/
def isLabel (s : Text) : Bool :=
  isAscii s || (!beginsWithMark s && joinersFit [] s && s.length ≤ maxLabel)

/-- The label that an encoded one stands for. It is one that mapping and composing leaves as it is,
and holds no dot. -/
def decoded? (label : Text) : Option Text := do
  let code ← Text.after? encodedMark label
  if !isAscii code ∨ code.isEmpty ∨ code.getLast? = some '-' ∨ code.length > maxEncoded then none
  let s ← Punycode.decode? code
  if s.all (fun c => mapped c == .itself && !isDenied c && c != '.') ∧ composed s = s
      ∧ !Text.startsWith s encodedMark ∧ isLabel s then some s
  else none

def label? (s : Text) : Option Text :=
  if Text.startsWith s encodedMark then decoded? s
  else if isLabel s then some s
  else none

def encodeLabel (s : Text) : Text :=
  if isAscii s then s else encodedMark ++ Punycode.encode s

def toAscii? (bytes : List Nat) : Option Text := do
  let s ← mapText? (Text.ofUtf8 bytes)
  let s := composed s
  if s.any isDenied then none
  let labels ← (Text.split '.' s).mapM label?
  if isReadable labels then some (Text.join ['.'] (labels.map encodeLabel)) else none

end ProofDesk.Domain
