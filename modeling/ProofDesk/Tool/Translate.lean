import ProofDesk.Shell.Escape
import ProofDesk.Shell.Pattern
import ProofDesk.Tool.Basic

namespace ProofDesk.Tool

open Job Shell

/-- An element of a set of bytes. -/
inductive SetPart where
  | bytes (s : Text)
  /-- A kind of bytes; upper and lower case letters correspond to each other. -/
  | kind (k : CharKind)
  | repeated (c : Char) (count : Nat)
deriving DecidableEq, Repr

namespace SetPart

def everyByte : Text :=
  (List.range 256).map Char.ofNat

def byteAt : Text → Option (Char × Text)
  | [] => none
  | '\\' :: c :: s =>
    if '0' ≤ c ∧ c ≤ '7' then
      let (n, rest) := octal 3 0 (c :: s)
      some (byte n, rest)
    else if c = 'e' then some ('e', s)
    else some ((letterEscape? c).getD c, s)
  | c :: s => some (c, s)

def parse : (fuel : Nat) → Text → Except Text (List SetPart)
  | 0, _ => .ok []
  | _, [] => .ok []
  | fuel + 1, s =>
    let special? : Option (Except Text SetPart × Text) := match s with
      | '[' :: ':' :: r =>
        match Text.find? ":]".toList r with
        | some (name, rest) =>
          match CharKind.ofName? name with
          | some k => some (.ok (.kind k), rest)
          | none => some (.error ("invalid character class ".toList ++ quote name), rest)
        | none => none
      | '[' :: '=' :: r =>
        match byteAt r with
        | some (c, '=' :: ']' :: rest) => some (.ok (.bytes [c]), rest)
        | _ => none
      | '[' :: r =>
        match byteAt r with
        | some (c, '*' :: r) =>
          let digits := r.takeWhile Char.isDigit
          match r.drop digits.length with
          | ']' :: rest =>
            let n := if digits.head? = some '0' then (octal digits.length 0 digits).1
              else (Text.digits? digits).getD 0
            some (.ok (.repeated c n), rest)
          | _ => none
        | _ => none
      | _ => none
    match special? with
    | some (.ok part, rest) => (parse fuel rest).map (part :: ·)
    | some (.error e, _) => .error e
    | none =>
      match byteAt s with
      | none => .ok []
      | some (a, '-' :: r) =>
        match byteAt r with
        | some (b, rest) =>
          if b < a then
            .error ("range-endpoints of ".toList ++ quote [a, '-', b] ++
              " are in reverse collating sequence order".toList)
          else (parse fuel rest).map
            (.bytes ((List.range (b.toNat + 1 - a.toNat)).map fun i => Char.ofNat (a.toNat + i)) :: ·)
        | none => (parse fuel ['-']).map (.bytes [a] :: ·)
      | some (a, rest) => (parse fuel rest).map (.bytes [a] :: ·)

def expand (length : Nat) (parts : List SetPart) : Text :=
  let fixed : SetPart → Nat
    | bytes s => s.length
    | kind k => (everyByte.filter k.contains).length
    | repeated _ n => n
  let missing := length - (parts.map fixed).foldl (· + ·) 0
  parts.flatMap fun
    | bytes s => s
    | kind k => everyByte.filter k.contains
    | repeated c n => List.replicate (if n = 0 then missing else n) c

end SetPart

def squeeze (set : Text) : (last : Option Char) → Text → Text
  | _, [] => []
  | last, c :: s =>
    if last = some c ∧ set.any (· == c) then squeeze set last s
    else c :: squeeze set (some c) s

/-- The byte that takes the place of another. A byte that stands in the first set more than once
has the last of its places. -/
def exchange (source target : Text) (c : Char) : Char :=
  match source.reverse.idxOf? c with
  | some i => (target[source.length - 1 - i]?).getD ((target.getLast?).getD c)
  | none => c

def tr : Job Unit :=
  let choices : List Choice := [⟨'c', "complement", false, false⟩, ⟨'C', "", false, false⟩,
    ⟨'d', "delete", false, false⟩, ⟨'s', "squeeze-repeats", false, false⟩,
    ⟨'t', "truncate-set1", false, false⟩]
  let work (o : Options) : Job Unit := do
    let deletes := o.has 'd'
    let squeezes := o.has 's'
    let translates := !deletes && (1 < o.operands.length)
    let parse (s : Text) : Except Text (List SetPart) := SetPart.parse (s.length + 1) s
    match o.operands with
    | [] => misuse 1 "missing operand".toList
    | first :: others =>
      if others.isEmpty && (deletes == squeezes) then
        warn ("missing operand after ".toList ++ quote first)
        note ((if deletes then
            "Two strings must be given when both deleting and squeezing repeats.\n"
          else "Two strings must be given when translating.\n").toList ++
          "Try 'tr --help' for more information.\n".toList)
        setStatus 1
      else if deletes && !squeezes && !others.isEmpty then
        warn ("extra operand ".toList ++ quote (others.headD []))
        note ((if others.length = 1 then
            "Only one string may be given when deleting without squeezing repeats.\n"
          else "").toList ++
          "Try 'tr --help' for more information.\n".toList)
        setStatus 1
      else if 1 < others.length then misuse 1 ("extra operand ".toList ++ quote (others.getD 1 []))
      else
        match parse first, parse (others.headD []) with
        | .error e, _ | _, .error e => fail 1 e
        | .ok parts, .ok targetParts =>
          let listed := SetPart.expand 0 parts
          let source := if o.has 'c' || o.has 'C' then
            SetPart.everyByte.filter fun c => !listed.any (· == c) else listed
          let target := SetPart.expand source.length targetParts
          let s ← takeInput
          if deletes then
            let kept := s.filter fun c => !source.any (· == c)
            print (if squeezes then squeeze target none kept else kept)
          else if translates then
            if target = [] then fail 1 "when not truncating set1, string2 must be non-empty".toList
            else
              let source := if o.has 't' then source.take target.length else source
              let changed := s.map (exchange source target)
              print (if squeezes then squeeze target none changed else changed)
          else print (squeeze source none s)
  withLeadingOptions choices 1 work

end ProofDesk.Tool
