import ProofDesk.Tool.Basic

namespace ProofDesk.Tool

open Job

/-- A range of places, counted from one; a range may have no end. -/
structure Span where
  first : Nat
  last : Option Nat
deriving DecidableEq, Repr

namespace Span

def contains (n : Nat) (s : Span) : Bool :=
  s.first ≤ n && match s.last with
    | some l => n ≤ l
    | none => true

/-- What is wrong with a list of ranges. -/
inductive Misuse where
  | zero
  | decreasing
  | noEndpoint
  | value (s : Text)
deriving DecidableEq, Repr

def read (s : Text) : Except Misuse Span :=
  let number (t : Text) : Except Misuse Nat :=
    match Text.digits? t with
    | some 0 => .error .zero
    | some n => .ok n
    | none => .error (.value t)
  match Text.cut? '-' s with
  | none => if s = [] then .error .zero else (number s).map fun n => ⟨n, some n⟩
  | some ([], []) => .error .noEndpoint
  | some ([], b) => (number b).map fun b => ⟨1, some b⟩
  | some (a, []) => (number a).map fun a => ⟨a, none⟩
  | some (a, b) => do
    let a ← number a
    let b ← number b
    if b < a then throw .decreasing
    return ⟨a, some b⟩

def select {α : Type} (spans : List Span) (isComplement : Bool) (items : List α) : List α :=
  items.zipIdx.filterMap fun (a, i) =>
    if spans.any (·.contains (i + 1)) != isComplement then some a else none

end Span

def cut : Job Unit :=
  let choices : List Choice := [⟨'b', "bytes", true, false⟩, ⟨'c', "characters", true, false⟩,
    ⟨'f', "fields", true, false⟩, ⟨'d', "delimiter", true, false⟩,
    ⟨'s', "only-delimited", false, false⟩, ⟨'n', "", false, false⟩,
    ⟨'C', "complement", false, false⟩, ⟨'O', "output-delimiter", true, false⟩]
  withOptions choices 1 fun o => do
    let lists := o.given.filter fun g => g.1 = 'b' ∨ g.1 = 'c' ∨ g.1 = 'f'
    match lists with
    | [] => misuse 1 "you must specify a list of bytes, characters, or fields".toList
    | _ :: _ :: _ => misuse 1 "only one list may be specified".toList
    | [(unit, list)] =>
      let isField := unit = 'f'
      let delimiter := (o.value? 'd').getD ['\t']
      if o.has 'd' ∧ ¬ isField then
        misuse 1 "an input delimiter may be specified only when operating on fields".toList
      else if 1 < delimiter.length then misuse 1 "the delimiter must be a single character".toList
      else
        let pieces := (Text.split ',' (list.map fun c => if c = ' ' then ',' else c))
        match pieces.mapM Span.read with
        | .error .zero =>
          misuse 1 (if isField then "fields are numbered from 1".toList
            else "byte/character positions are numbered from 1".toList)
        | .error .decreasing => misuse 1 "invalid decreasing range".toList
        | .error .noEndpoint => misuse 1 "invalid range with no endpoint: -".toList
        | .error (.value s) =>
          misuse 1 ((if isField then "invalid field value " else "invalid byte/character position "
            ).toList ++ quote s)
        | .ok spans =>
          let isComplement := o.has 'C'
          let mark := delimiter.headD '\x00'
          let glue := (o.value? 'O').getD (if isField then delimiter else [])
          let part (line : Text) : Option Text :=
            if isField then
              match Text.split mark line with
              | [_] => if o.has 's' then none else some line
              | fields => some (Text.join glue (Span.select spans isComplement fields))
            else some (Span.select spans isComplement line)
          for (_, s) in ← openAll o.operands blame do
            for line in bodies s do
              if let some t := part line then printLine t

end ProofDesk.Tool
