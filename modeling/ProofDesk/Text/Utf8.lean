import ProofDesk.Uri.Encoding

namespace ProofDesk.Text

def toUtf8 (s : Text) : List Nat :=
  s.flatMap utf8Bytes

def replacement : Char := Char.ofNat 0xfffd

/-- How many bytes follow a first byte, and which second bytes may. -/
def follow? (b : Nat) : Option (Nat × Nat × Nat) :=
  if 0xc2 ≤ b ∧ b ≤ 0xdf then some (1, 0x80, 0xbf)
  else if b = 0xe0 then some (2, 0xa0, 0xbf)
  else if b = 0xed then some (2, 0x80, 0x9f)
  else if 0xe1 ≤ b ∧ b ≤ 0xef then some (2, 0x80, 0xbf)
  else if b = 0xf0 then some (3, 0x90, 0xbf)
  else if 0xf1 ≤ b ∧ b ≤ 0xf3 then some (3, 0x80, 0xbf)
  else if b = 0xf4 then some (3, 0x80, 0x8f)
  else none

/-- Reads on inside a character: `value` so far, the number of bytes that are still to come, and the
bounds of the next one. -/
def ofUtf8From : (value left low high : Nat) → List Nat → Text
  | _, 0, _, _, [] => []
  | _, _ + 1, _, _, [] => [replacement]
  | _, 0, _, _, b :: rest =>
    if b < 0x80 then Char.ofNat b :: ofUtf8From 0 0 0 0 rest
    else match follow? b with
      | some (n, low, high) => ofUtf8From (b % Nat.pow 2 (6 - n)) n low high rest
      | none => replacement :: ofUtf8From 0 0 0 0 rest
  | value, left + 1, low, high, b :: rest =>
    if low ≤ b ∧ b ≤ high then
      let value := value * 0x40 + b % 0x40
      if left = 0 then Char.ofNat value :: ofUtf8From 0 0 0 0 rest
      else ofUtf8From value left 0x80 0xbf rest
    else if b < 0x80 then replacement :: Char.ofNat b :: ofUtf8From 0 0 0 0 rest
    else match follow? b with
      | some (n, low, high) => replacement :: ofUtf8From (b % Nat.pow 2 (6 - n)) n low high rest
      | none => replacement :: replacement :: ofUtf8From 0 0 0 0 rest

def ofUtf8 (bytes : List Nat) : Text :=
  ofUtf8From 0 0 0 0 bytes

end ProofDesk.Text
