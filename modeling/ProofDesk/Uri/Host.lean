import ProofDesk.Domain.Name
import ProofDesk.Uri.Basic

namespace ProofDesk.Host

def digitValue? (c : Char) : Option Nat :=
  if c.isDigit then some (c.toNat - '0'.toNat)
  else if 'a' ≤ c ∧ c ≤ 'f' then some (c.toNat - 'a'.toNat + 10)
  else if 'A' ≤ c ∧ c ≤ 'F' then some (c.toNat - 'A'.toNat + 10)
  else none

def numberIn? (base : Nat) (s : Text) : Option Nat :=
  s.foldl (fun n c => do
    let n ← n
    let d ← digitValue? c
    if d < base then some (base * n + d) else none) (some 0)

def percentDecode : Text → List Nat
  | [] => []
  | '%' :: a :: b :: rest =>
    match digitValue? a, digitValue? b with
    | some x, some y => (16 * x + y) :: percentDecode rest
    | _, _ => 37 :: percentDecode (a :: b :: rest)
  | c :: rest => utf8Bytes c ++ percentDecode rest

def isForbidden (c : Char) : Bool :=
  c.toNat == 0 || "\t\n\r #/:<>?@[\\]^|".toList.contains c

/-- A part of an IPv4 address: decimal, or octal after `0`, or hexadecimal after `0x`. -/
def ipv4Part? (s : Text) : Option Nat :=
  match s with
  | [] => none
  | '0' :: 'x' :: rest => numberIn? 16 rest
  | '0' :: 'X' :: rest => numberIn? 16 rest
  | '0' :: d :: rest => numberIn? 8 (d :: rest)
  | s => numberIn? 10 s

/-- The parts of a host between dots, without the empty one that a dot at the end leaves. -/
def parts (s : Text) : List Text :=
  let all := Text.split '.' s
  if all.length > 1 ∧ all.getLast? = some [] then all.dropLast else all

def endsInNumber (s : Text) : Bool :=
  match (parts s).getLast? with
  | none => false
  | some last => (!last.isEmpty && last.all Char.isDigit)
      || (match last with
        | '0' :: x :: _ => (x == 'x' || x == 'X') && (ipv4Part? last).isSome
        | _ => false)

/-- The IPv4 address that a host is: its last part fills all bytes that the others leave. -/
def ipv4? (s : Text) : Option Nat := do
  let ps := parts s
  if ps.length > 4 then none
  let numbers ← ps.mapM ipv4Part?
  let last ← numbers.getLast?
  let first := numbers.dropLast
  if first.any (· > 255) ∨ last ≥ Nat.pow 256 (5 - numbers.length) then none
  return first.zipIdx.foldl (fun sum (n, i) => sum + n * Nat.pow 256 (3 - i)) last

def renderIpv4 (n : Nat) : Text :=
  Text.join ['.'] ([3, 2, 1, 0].map fun i => Text.ofNat (n / Nat.pow 256 i % 256))

def ipv6Piece? (s : Text) : Option Nat :=
  if s.isEmpty ∨ s.length > 4 then none else numberIn? 16 s

/-- The pieces of a part of an IPv6 address; the last one may be an IPv4 address, which makes two
pieces. -/
def ipv6Pieces? (s : Text) : Option (List Nat) :=
  if s.isEmpty then some []
  else
    let texts := Text.split ':' s
    match texts.getLast? with
    | none => some []
    | some last =>
      if last.any (· == '.') then do
        let quads ← (Text.split '.' last).mapM fun q =>
          if q.isEmpty ∨ !q.all Char.isDigit ∨ (q.length > 1 ∧ q.head? = some '0') then none
          else (numberIn? 10 q).filter (· ≤ 255)
        match quads with
        | [a, b, c, d] => return (← texts.dropLast.mapM ipv6Piece?) ++ [256 * a + b, 256 * c + d]
        | _ => none
      else texts.mapM ipv6Piece?

/-- The eight pieces of an IPv6 address; two colons stand for one or more zero pieces. -/
def ipv6? (s : Text) : Option (List Nat) := do
  match Text.find? "::".toList s with
  | none =>
    let pieces ← ipv6Pieces? s
    if pieces.length = 8 then some pieces else none
  | some (before, after) =>
    let first ← if before.any (· == '.') then none else ipv6Pieces? before
    let last ← ipv6Pieces? after
    if first.length + last.length < 8 then
      some (first ++ List.replicate (8 - first.length - last.length) 0 ++ last)
    else none

def leadingZeros (pieces : List Nat) : Nat :=
  (pieces.takeWhile (· == 0)).length

def longestZeros (pieces : List Nat) : Option (Nat × Nat) :=
  ((List.range 8).map fun i => (i, leadingZeros (pieces.drop i))).foldl (fun best run =>
    if run.2 < 2 then best
    else match best with
      | some b => if b.2 < run.2 then some run else best
      | none => some run) none

def renderIpv6 (pieces : List Nat) : Text :=
  let hex (l : List Nat) : Text := Text.join [':'] (l.map (Nat.toDigits 16))
  match longestZeros pieces with
  | some (start, length) =>
    hex (pieces.take start) ++ "::".toList ++ hex (pieces.drop (start + length))
  | none => hex pieces

def inBracketsOr (name : Text → Option Text) (s : Text) : Option Text :=
  match s with
  | '[' :: rest =>
    if rest.getLast? = some ']' then
      (ipv6? rest.dropLast).map fun pieces => '[' :: renderIpv6 pieces ++ [']']
    else none
  | s => name s

/-- The normal form of a host of a special scheme: an address, or a domain name in ASCII. -/
def named? (s : Text) : Option Text :=
  inBracketsOr (fun s => do
    let name ← Domain.toAscii? (percentDecode s)
    if name.isEmpty then none
    else if endsInNumber name then (ipv4? name).map renderIpv4
    else some name) s

def opaque? (s : Text) : Option Text :=
  inBracketsOr (fun s =>
    if s.any isForbidden then none else some (Percent.encode Percent.inControl s)) s

end ProofDesk.Host
