import ProofDesk.Text.Basic

namespace ProofDesk.Shell

def octal : (places value : Nat) → Text → Nat × Text
  | 0, value, s => (value, s)
  | _ + 1, value, [] => (value, [])
  | places + 1, value, c :: s =>
    if '0' ≤ c ∧ c ≤ '7' then octal places (8 * value + (c.toNat - '0'.toNat)) s
    else (value, c :: s)

def byte (n : Nat) : Char :=
  Char.ofNat (n % 256)

def letterEscape? (c : Char) : Option Char :=
  match c with
  | 'a' => some (byte 7)
  | 'b' => some (byte 8)
  | 't' => some (byte 9)
  | 'n' => some (byte 10)
  | 'v' => some (byte 11)
  | 'f' => some (byte 12)
  | 'r' => some (byte 13)
  | 'e' => some (byte 27)
  | '\\' => some '\\'
  | _ => none

/-- The byte that the text after a backslash stands for, and the rest. A backslash that starts no
escape stands for itself. -/
def escape (s : Text) : Char × Text :=
  match s with
  | c :: rest =>
    if '0' ≤ c ∧ c ≤ '7' then
      let (n, rest) := octal 3 0 s
      (byte n, rest)
    else match letterEscape? c with
      | some b => (b, rest)
      | none => ('\\', s)
  | [] => ('\\', [])

/-- The bytes of a text with escapes; `\c` ends it, which the second result tells. An octal number
may have a zero before its three digits. -/
def unescape : (fuel : Nat) → Text → Text × Bool
  | 0, _ => ([], false)
  | _ + 1, [] => ([], false)
  | _ + 1, '\\' :: 'c' :: _ => ([], true)
  | fuel + 1, '\\' :: '0' :: s =>
    let (n, rest) := octal 3 0 s
    let (bytes, stops) := unescape fuel rest
    (byte n :: bytes, stops)
  | fuel + 1, '\\' :: s =>
    let (b, rest) := escape s
    let (bytes, stops) := unescape fuel rest
    (b :: bytes, stops)
  | fuel + 1, c :: s =>
    let (bytes, stops) := unescape fuel s
    (c :: bytes, stops)

def unescaped (s : Text) : Text × Bool :=
  unescape (s.length + 1) s

def echoText (arguments : List Text) : Text :=
  let (endsLine, arguments) := match arguments with
    | ['-', 'n'] :: rest => (false, rest)
    | all => (true, all)
  let (text, stops) := unescaped (Text.join [' '] arguments)
  if stops || !endsLine then text else text ++ ['\n']

end ProofDesk.Shell
