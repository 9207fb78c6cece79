import ProofDesk.Tool.Basic

namespace ProofDesk.Tool

open Job

/-- How a group of bytes is shown. -/
inductive DumpStyle where
  /-- A number in a base. -/
  | number (base : Nat)
  | signed
  /-- A character, or a number of three octal digits. -/
  | character
  /-- The name of a character of seven bits. -/
  | name
deriving DecidableEq, Repr

/-- A way of showing bytes: the style, the number of bytes in a group, and whether the text follows at
the end of the line. -/
structure DumpFormat where
  style : DumpStyle
  size : Nat
  showsText : Bool := false
deriving DecidableEq, Repr

namespace DumpFormat

def digitsFor (base size : Nat) : Nat :=
  (Nat.toDigits base (Nat.pow 256 size - 1)).length

def width (f : DumpFormat) : Nat :=
  match f.style with
  | .number base => digitsFor base f.size
  | .signed => (Nat.toDigits 10 (Nat.pow 256 f.size / 2)).length + 1
  | .character | .name => 3

def numberOf (bytes : Text) : Nat :=
  bytes.foldr (fun c n => n * 256 + c.toNat) 0

def names : List String :=
  ["nul", "soh", "stx", "etx", "eot", "enq", "ack", "bel", "bs", "ht", "nl", "vt", "ff", "cr", "so",
    "si", "dle", "dc1", "dc2", "dc3", "dc4", "nak", "syn", "etb", "can", "em", "sub", "esc", "fs",
    "gs", "rs", "us", "sp"]

def zeroPadded (width base n : Nat) : Text :=
  let digits := Nat.toDigits base n
  List.replicate (width - digits.length) '0' ++ digits

def show' (f : DumpFormat) (bytes : Text) : Text :=
  let n := numberOf bytes
  match f.style with
  | .number 10 => Text.ofNat n
  | .number base => zeroPadded f.width base n
  | .signed =>
    let limit := Nat.pow 256 f.size
    if n < limit / 2 then Text.ofNat n else '-' :: Text.ofNat (limit - n)
  | .character =>
    match n with
    | 0 => "\\0".toList
    | 7 => "\\a".toList
    | 8 => "\\b".toList
    | 9 => "\\t".toList
    | 10 => "\\n".toList
    | 11 => "\\v".toList
    | 12 => "\\f".toList
    | 13 => "\\r".toList
    | n => if 32 ≤ n ∧ n < 127 then [Char.ofNat n] else zeroPadded 3 8 n
  | .name =>
    let low := n % 128
    if low = 127 then "del".toList
    else match names[low]? with
      | some s => s.toList
      | none => [Char.ofNat low]

def sizeOf (s : Text) : Option Nat × Text :=
  match s with
  | 'C' :: r => (some 1, r)
  | 'S' :: r => (some 2, r)
  | 'I' :: r => (some 4, r)
  | 'L' :: r => (some 8, r)
  | s => (Text.digits? (s.takeWhile Char.isDigit), s.dropWhile Char.isDigit)

def readAll (whole : Text) : (fuel : Nat) → Text → Except Text (List DumpFormat)
  | 0, _ => .ok []
  | _, [] => .ok []
  | fuel + 1, c :: rest => do
    let ended (style : DumpStyle) (size : Nat) (rest : Text) : Except Text (List DumpFormat) := do
      let (showsText, rest) := match rest with
        | 'z' :: r => (true, r)
        | r => (false, r)
      return ⟨style, size, showsText⟩ :: (← readAll whole fuel rest)
    let sized (style : DumpStyle) : Except Text (List DumpFormat) := do
      let (size, rest) := sizeOf rest
      let size := size.getD 4
      if !([1, 2, 4, 8].contains size) then
        throw ("invalid type string ".toList ++ quote whole ++
          ";\nthis system doesn't provide a ".toList ++ Text.ofNat size ++
          "-byte integral type".toList)
      ended style size rest
    match c with
    | 'a' => ended .name 1 rest
    | 'c' => ended .character 1 rest
    | 'd' => sized .signed
    | 'o' => sized (.number 8)
    | 'u' => sized (.number 10)
    | 'x' => sized (.number 16)
    | c => throw ("invalid character '".toList ++ [c] ++ "' in type string ".toList ++ quote whole)

def groupsOf (size : Nat) : (fuel : Nat) → Text → List Text
  | 0, _ => []
  | _, [] => []
  | fuel + 1, s =>
    let group := s.take size
    (group ++ List.replicate (size - group.length) '\x00') :: groupsOf size fuel (s.drop size)

def row (f : DumpFormat) (columns pad : Nat) (groups : List Text) : Text :=
  (groups.zipIdx).flatMap fun (g, i) =>
    let before := pad * (columns - i) / columns
    let after := pad * (columns - i - 1) / columns
    padLeft (before - after + f.width) (f.show' g)

end DumpFormat

def textColumn (block : Text) : Text :=
  block.map fun c => if 32 ≤ c.toNat ∧ c.toNat < 127 then c else '.'

/-- Blocks of bytes as lines; `base` is that of the addresses. -/
structure Dump where
  formats : List DumpFormat
  blockSize : Nat
  base : Option Nat
  showsAll : Bool

namespace Dump

def address (d : Dump) (n : Nat) : Text :=
  match d.base with
  | some base => DumpFormat.zeroPadded (if base = 16 then 6 else 7) base n
  | none => []

def lines (d : Dump) (start : Nat) (block : Text) : Text :=
  let columns (f : DumpFormat) : Nat := d.blockSize / f.size
  let whole := d.formats.foldl (fun n f => max n ((f.width + 1) * columns f)) 0
  let blank := List.replicate (d.address start).length ' '
  (d.formats.zipIdx).flatMap fun (f, i) =>
    let groups := DumpFormat.groupsOf f.size (block.length + 1) block
    let shown := f.row (columns f) (whole - f.width * columns f) groups
    let missing := columns f - groups.length
    let text := if f.showsText then
        let pad := whole - f.width * columns f
        List.replicate (missing * f.width + pad * missing / columns f) ' ' ++ "  >".toList ++
          textColumn block ++ ['<']
      else []
    (if i = 0 then d.address start else blank) ++ shown ++ text ++ ['\n']

def all (d : Dump) : (fuel : Nat) → (start : Nat) → (last : Option Text) → (isStarred : Bool) →
    Text → Text
  | 0, _, _, _, _ => []
  | fuel + 1, start, last, isStarred, s =>
    if s = [] then (if d.base.isSome then d.address start ++ ['\n'] else [])
    else
      let block := s.take d.blockSize
      let rest := s.drop d.blockSize
      let isRepeated := !d.showsAll && last == some block && block.length == d.blockSize
      let here := if isRepeated then (if isStarred then [] else "*\n".toList) else d.lines start block
      here ++ all d fuel (start + block.length) (some block) isRepeated rest

end Dump

def byteCount? (s : Text) : Option Nat :=
  let (digits, base, rest) : Text × Nat × Text := match s with
    | '0' :: x :: r =>
      if x = 'x' ∨ x = 'X' then
        (r.takeWhile fun c => c.isDigit || ('a' ≤ c.toLower && c.toLower ≤ 'f'), 16,
          r.dropWhile fun c => c.isDigit || ('a' ≤ c.toLower && c.toLower ≤ 'f'))
      else (s.takeWhile Char.isDigit, 8, s.dropWhile Char.isDigit)
    | s => (s.takeWhile Char.isDigit, 10, s.dropWhile Char.isDigit)
  let value (c : Char) : Nat :=
    if c.isDigit then c.toNat - '0'.toNat else c.toLower.toNat - 'a'.toNat + 10
  let n := digits.foldl (fun n c => n * base + value c) 0
  if digits = [] then none
  else match rest with
    | [] => some n
    | ['b'] => some (n * 512)
    | ['k'] | ['K'] => some (n * 1024)
    | ['m'] | ['M'] => some (n * 1048576)
    | _ => none

def od : Job Unit :=
  let choices : List Choice := [⟨'A', "address-radix", true, false⟩, ⟨'t', "format", true, false⟩,
    ⟨'N', "read-bytes", true, false⟩, ⟨'j', "skip-bytes", true, false⟩,
    ⟨'v', "output-duplicates", false, false⟩, ⟨'w', "width", true, true⟩, ⟨'a', "", false, false⟩,
    ⟨'b', "", false, false⟩, ⟨'c', "", false, false⟩, ⟨'d', "", false, false⟩,
    ⟨'i', "", false, false⟩, ⟨'l', "", false, false⟩, ⟨'o', "", false, false⟩,
    ⟨'s', "", false, false⟩, ⟨'x', "", false, false⟩]
  withOptions choices 1 fun o => do
    let types : List Text := o.given.filterMap fun g =>
      match g with
      | ('t', v) => some v
      | ('a', _) => some ['a']
      | ('b', _) => some "o1".toList
      | ('c', _) => some ['c']
      | ('d', _) => some "u2".toList
      | ('i', _) => some "dI".toList
      | ('l', _) => some "dL".toList
      | ('o', _) => some "o2".toList
      | ('s', _) => some "d2".toList
      | ('x', _) => some "x2".toList
      | _ => none
    let types := if types.isEmpty then ["o2".toList] else types
    match types.mapM fun t => DumpFormat.readAll t (t.length + 1) t with
    | .error message => fail 1 message
    | .ok formats =>
      let formats := formats.flatten
      let base ← match o.value? 'A' with
        | none | some ['o'] => pure (some 8)
        | some ['d'] => pure (some 10)
        | some ['x'] => pure (some 16)
        | some ['n'] => pure none
        | some a =>
          return ← fail 1 ("invalid output address radix '".toList ++ a.take 1 ++
            "'; it must be one character from [doxn]".toList)
      let unit := formats.foldl (fun n f => max n f.size) 1
      let asked := match o.value? 'w' with
        | none => 16
        | some [] => 32
        | some w => (byteCount? w).getD 16
      let blockSize := if 0 < asked ∧ asked % unit = 0 then asked else unit
      let d : Dump := { formats, blockSize, base, showsAll := o.has 'v' }
      let complain (path : Text) (f : FileFailure) : Job Unit := blame path f
      let texts ← openAll o.operands complain
      if texts.isEmpty then return
      let skipped := ((o.value? 'j').bind byteCount?).getD 0
      let s := (texts.flatMap Prod.snd).drop skipped
      let s := match (o.value? 'N').bind byteCount? with
        | some n => s.take n
        | none => s
      print (d.all (s.length + 1) skipped none false s)

def sixtyFour : Text :=
  "ABCDEFGHIJKLMNOPQRSTUVWXYZabcdefghijklmnopqrstuvwxyz0123456789+/".toList

def signOf (n : Nat) : Char :=
  (sixtyFour[n % 64]?).getD '='

def encodeBytes : Text → Text
  | a :: b :: c :: rest =>
    let n := a.toNat * 65536 + b.toNat * 256 + c.toNat
    [signOf (n / 262144), signOf (n / 4096), signOf (n / 64), signOf n] ++ encodeBytes rest
  | [a, b] =>
    let n := a.toNat * 65536 + b.toNat * 256
    [signOf (n / 262144), signOf (n / 4096), signOf (n / 64), '=']
  | [a] =>
    let n := a.toNat * 65536
    [signOf (n / 262144), signOf (n / 4096), '=', '=']
  | [] => []

def decodeSigns : Text → Text × Bool
  | a :: b :: c :: d :: rest =>
    let digit? (c : Char) : Option Nat := sixtyFour.idxOf? c
    let byte (n : Nat) : Char := Char.ofNat (n % 256)
    match digit? a, digit? b, digit? c, digit? d with
    | some w, some x, some y, some z =>
      let n := ((w * 64 + x) * 64 + y) * 64 + z
      let (more, isWhole) := decodeSigns rest
      ([byte (n / 65536), byte (n / 256), byte n] ++ more, isWhole)
    | some w, some x, some y, none =>
      let n := ((w * 64 + x) * 64 + y) * 64
      let bytes := [byte (n / 65536), byte (n / 256)]
      if d = '=' then
        let (more, isWhole) := decodeSigns rest
        (bytes ++ more, isWhole)
      else (bytes, false)
    | some w, some x, none, _ =>
      let n := ((w * 64 + x) * 64) * 64
      if c = '=' ∧ d = '=' then
        let (more, isWhole) := decodeSigns rest
        (byte (n / 65536) :: more, isWhole)
      else ([byte (n / 65536)], false)
    | _, _, _, _ => ([], false)
  | [] => ([], true)
  | rest =>
    match rest.map fun c => sixtyFour.idxOf? c with
    | [some w, some x, some y] =>
      ([Char.ofNat (w * 4 + x / 16), Char.ofNat (x % 16 * 16 + y / 4)], false)
    | some w :: some x :: _ => ([Char.ofNat (w * 4 + x / 16)], false)
    | _ => ([], false)

def wrapped (width : Nat) : (fuel : Nat) → Text → Text
  | 0, _ => []
  | _, [] => []
  | fuel + 1, s => s.take width ++ '\n' :: wrapped width fuel (s.drop width)

def base64 : Job Unit :=
  withOptions [⟨'d', "decode", false, false⟩, ⟨'i', "ignore-garbage", false, false⟩,
    ⟨'w', "wrap", true, false⟩] 1 fun o => do
    match o.operands with
    | _ :: extra :: _ => misuse 1 ("extra operand ".toList ++ quote extra)
    | _ =>
      let width ← match o.value? 'w' with
        | none => pure 76
        | some w =>
          match Text.digits? w with
          | some n => pure n
          | none => return ← fail 1 ("invalid wrap size: ".toList ++ quote w)
      for (_, s) in ← openAll o.operands blame do
        if o.has 'd' then
          let isSign (c : Char) : Bool := c == '=' || sixtyFour.any (· == c)
          let signs := s.filter fun c => if o.has 'i' then isSign c else c != '\n'
          let (bytes, isWhole) := decodeSigns signs
          print bytes
          if !isWhole then fail 1 "invalid input".toList
        else
          let signs := encodeBytes s
          print (if width = 0 then signs else wrapped width (signs.length + 1) signs)

end ProofDesk.Tool
