import ProofDesk.Tool.Comparison

namespace ProofDesk.Tool

open Job

/-- A key: the fields and the characters in them between which it lies. -/
structure Key where
  firstField : Nat
  firstChar : Nat := 1
  lastField : Option Nat := none
  lastChar : Nat := 0
  comparison : Option Comparison := none
deriving DecidableEq, Repr

namespace Key

/-- The fields of a line: with a separator the texts between its occurrences, otherwise runs of
blanks with the text after them. -/
def fieldsOf (separator : Option Char) (line : Text) : List Text :=
  match separator with
  | some c => Text.split c line
  | none => go (line.length + 1) line
where
  go : (fuel : Nat) → Text → List Text
    | 0, _ => []
    | fuel + 1, s =>
      let isBlank (c : Char) : Bool := c == ' ' || c == '\t'
      let blanks := s.takeWhile isBlank
      let word := (s.drop blanks.length).takeWhile fun c => !isBlank c
      let rest := s.drop (blanks.length + word.length)
      if rest = [] then [blanks ++ word] else (blanks ++ word) :: go fuel rest

def part (k : Key) (separator : Option Char) (skipsBlanks : Bool) (line : Text) : Text :=
  let fields := fieldsOf separator line
  let gap := if separator.isSome then 1 else 0
  /- The place in the line where a field starts. -/
  let start (n : Nat) : Nat :=
    (fields.take (n - 1)).foldl (fun total f => total + f.length + gap) 0
  let isBlank (c : Char) : Bool := c == ' ' || c == '\t'
  let skip (n : Nat) : Nat :=
    if skipsBlanks then ((line.drop n).takeWhile isBlank).length else 0
  let first := min line.length (min line.length (start k.firstField) +
    skip (start k.firstField) + (k.firstChar - 1))
  let last := match k.lastField with
    | none => line.length
    | some n =>
      if k.lastChar = 0 then min line.length (start n + ((fields[n - 1]?).getD []).length)
      else min line.length (start n + skip (start n) + k.lastChar)
  (line.take last).drop first

def comparisonOf (letters : Text) : Comparison :=
  letters.foldl (fun c l =>
    match l with
    | 'n' => { c with isNumeric := true }
    | 'g' => { c with isGeneral := true }
    | 'h' => { c with isHuman := true }
    | 'V' => { c with isVersion := true }
    | 'M' => { c with isMonth := true }
    | 'f' => { c with foldsCase := true }
    | 'b' => { c with skipsBlanks := true }
    | 'd' => { c with isDictionary := true }
    | 'r' => { c with isReverse := true }
    | _ => c) {}

def read (s : Text) : Except Text Key := do
  let number (t complaint : Text) : Except Text (Nat × Text) :=
    match Text.digits? (t.takeWhile Char.isDigit) with
    | some n => .ok (n, t.dropWhile Char.isDigit)
    | none => .error (complaint ++ ": invalid count at start of ".toList ++ quote t)
  let atStart := "invalid number at field start".toList
  let (firstField, rest) ← number s atStart
  let refuse (what : String) : Except Text Key :=
    .error (what.toList ++ ": invalid field specification ".toList ++ quote s)
  if firstField = 0 then return ← refuse "field number is zero"
  let (firstChar, rest) ← match rest with
    | '.' :: r => number r "invalid number after '.'".toList
    | r => pure (1, r)
  if firstChar = 0 then return ← refuse "character offset is zero"
  let isLetter (c : Char) : Bool := "bdfghinrMRV".toList.any (· == c)
  let before := rest.takeWhile isLetter
  let comparison (letters : Text) : Option Comparison :=
    if letters = [] then none else some (comparisonOf letters)
  match rest.drop before.length with
  | [] => return { firstField, firstChar, comparison := comparison before }
  | ',' :: rest =>
    let (lastField, rest) ← number rest "invalid number after ','".toList
    if lastField = 0 then return ← refuse "field number is zero"
    let (lastChar, rest) ← match rest with
      | '.' :: r => number r "invalid number after '.'".toList
      | r => pure (0, r)
    let after := rest.takeWhile isLetter
    if after.length < rest.length then return ← refuse "stray character in field spec"
    return {
      firstField, firstChar, lastField := some lastField, lastChar
      comparison := comparison (before ++ after) }
  | _ => refuse "stray character in field spec"

end Key

def compareByKeys (keys : List Key) (overall : Comparison) (separator : Option Char) (a b : Text) :
    Ordering :=
  keys.foldl (fun o k =>
    o.then
      (let c := k.comparison.getD overall
      c.keys (k.part separator c.skipsBlanks a) (k.part separator c.skipsBlanks b))) .eq

def firstOfEach (isSame : Text → Text → Bool) : List Text → List Text
  | [] => []
  | a :: rest => a :: go a rest
where
  go (last : Text) : List Text → List Text
    | [] => []
    | b :: rest => if isSame last b then go last rest else b :: go b rest

def sort : Job Unit :=
  let choices : List Choice := [⟨'n', "numeric-sort", false, false⟩, ⟨'r', "reverse", false, false⟩,
    ⟨'u', "unique", false, false⟩, ⟨'f', "ignore-case", false, false⟩,
    ⟨'b', "ignore-leading-blanks", false, false⟩, ⟨'d', "dictionary-order", false, false⟩,
    ⟨'g', "general-numeric-sort", false, false⟩, ⟨'h', "human-numeric-sort", false, false⟩,
    ⟨'V', "version-sort", false, false⟩, ⟨'M', "month-sort", false, false⟩,
    ⟨'z', "zero-terminated", false, false⟩, ⟨'s', "stable", false, false⟩,
    ⟨'c', "check", false, false⟩, ⟨'k', "key", true, false⟩,
    ⟨'t', "field-separator", true, false⟩, ⟨'o', "output", true, false⟩]
  withOptions choices 2 fun o => do
    let overall := Key.comparisonOf (o.given.map Prod.fst)
    let separator := (o.value? 't').bind List.head?
    match (o.values 'k').mapM Key.read with
    | .error complaint => fail 2 complaint
    | .ok keys =>
      let keys' := if keys.isEmpty then [({ firstField := 1 } : Key)] else keys
      let bySorting (a b : Text) : Ordering := compareByKeys keys' overall separator a b
      let whole (a b : Text) : Ordering :=
        let plain := compare (a.map Char.toNat) (b.map Char.toNat)
        if overall.isReverse then plain.swap else plain
      let isLast := !o.has 's' && !o.has 'u'
      let order (a b : Text) : Ordering := (bySorting a b).then (if isLast then whole a b else .eq)
      let complain (path : Text) (f : FileFailure) : Job Unit :=
        fail 2 ((if f = .isDirectory then "read failed: " else "cannot read: ").toList ++ path ++
          ": ".toList ++ wording f)
      let mut texts := []
      for path in if o.operands.isEmpty then [['-']] else o.operands do
        if (← get).status = 0 then
          if let some s ← openOr? path (complain path) then texts := texts ++ [(path, s)]
      if (← get).status = 0 then
        let delimiter := if o.has 'z' then '\x00' else '\n'
        let lines := texts.flatMap fun t => bodiesBy delimiter t.2
        if o.has 'c' then
          let path := (o.operands.head?).getD ['-']
          for ((a, b), i) in (lines.zip (lines.drop 1)).zipIdx do
            let isWrong := order a b == .gt || (o.has 'u' && bySorting a b == .eq)
            if isWrong then
              fail 1 (path ++ ":".toList ++ Text.ofNat (i + 2) ++ ": disorder: ".toList ++ b)
              return
        else
          let sorted := lines.mergeSort fun a b => order a b != .gt
          let sorted := if o.has 'u' then firstOfEach (fun a b => bySorting a b == .eq) sorted
            else sorted
          let text := sorted.flatMap (· ++ [delimiter])
          match o.value? 'o' with
          | some path =>
            if let some f ← writeFile path text false then blame path f
          | none => print text

/-- Neighbours that count as equal, together: the first of them and their number. -/
def groups (isSame : Text → Text → Bool) : List Text → List (Text × List Text)
  | [] => []
  | a :: rest =>
    match groups isSame rest with
    | (b, others) :: more =>
      if isSame a b then (a, b :: others) :: more else (a, []) :: (b, others) :: more
    | [] => [(a, [])]

def uniq : Job Unit :=
  let choices : List Choice := [⟨'c', "count", false, false⟩, ⟨'d', "repeated", false, false⟩,
    ⟨'u', "unique", false, false⟩, ⟨'i', "ignore-case", false, false⟩,
    ⟨'D', "", false, false⟩, ⟨'f', "skip-fields", true, false⟩,
    ⟨'s', "skip-chars", true, false⟩, ⟨'w', "check-chars", true, false⟩]
  withOptions choices 1 fun o => do
    let number (c : Char) : Nat := ((o.value? c).bind Text.digits?).getD 0
    let isBlank (c : Char) : Bool := c == ' ' || c == '\t'
    let dropField (s : Text) : Text := (s.dropWhile isBlank).dropWhile fun c => !isBlank c
    let key (line : Text) : Text :=
      let s := (List.range (number 'f')).foldl (fun s _ => dropField s) line
      let s := s.drop (number 's')
      let s := if o.has 'w' then s.take (number 'w') else s
      if o.has 'i' then s.map Char.toLower else s
    let complain (path : Text) (f : FileFailure) : Job Unit :=
      fail 1 (path ++ ": ".toList ++ wording f)
    let texts ← openAll (o.operands.take 1) complain
    let found := groups (fun a b => key a == key b) (texts.flatMap fun t => bodies t.2)
    let mut all : Text := []
    for (a, others) in found do
      let count := others.length + 1
      let isShown := !(o.has 'd' && count == 1) && !(o.has 'u' && count != 1) &&
        !(o.has 'D' && count == 1)
      if isShown then
        let label := if o.has 'c' then padLeft 7 (Text.ofNat count) ++ [' '] else []
        let lines := if o.has 'D' then a :: others else [a]
        all := all ++ lines.flatMap fun l => label ++ l ++ ['\n']
    match o.operands with
    | [_, path] =>
      if let some f ← writeFile path all false then blame path f
    | _ => print all

/-- Lines of two sorted texts in three columns: of the first, of the second, of both. -/
def merge : (fuel : Nat) → List Text → List Text → List (Nat × Text)
  | 0, _, _ => []
  | _, [], b => b.map fun l => (2, l)
  | _, a, [] => a.map fun l => (1, l)
  | fuel + 1, x :: a, y :: b =>
    if x = y then (3, x) :: merge fuel a b
    else if x < y then (1, x) :: merge fuel a (y :: b)
    else (2, y) :: merge fuel (x :: a) b

def comm : Job Unit :=
  withOptions [⟨'1', "", false, false⟩, ⟨'2', "", false, false⟩, ⟨'3', "", false, false⟩] 1
    fun o => do
      match ← openAll o.operands blame with
      | [(_, a), (_, b)] =>
        let a := bodies a
        let b := bodies b
        let shows (n : Nat) : Bool := !o.has (Char.ofNat (48 + n))
        for (n, line) in merge (a.length + b.length + 1) a b do
          if shows n then
            let before := (List.range (n - 1)).filter fun i => shows (i + 1)
            printLine (List.replicate before.length '\t' ++ line)
      | _ => misuse 1 "missing operand".toList

end ProofDesk.Tool
