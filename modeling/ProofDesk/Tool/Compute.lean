import ProofDesk.Regex.Reader
import ProofDesk.Shell.Format
import ProofDesk.Tool.Basic

namespace ProofDesk.Tool

open Job Shell

namespace Expr

/-- What is wrong with an expression. -/
inductive Fault where
  | missingAfter (a : Text)
  | unexpected (a : Text)
  | expectingClosing (a : Text)
  | nonInteger
  | divisionByZero
  | expression (m : Regex.Misreading)
deriving DecidableEq, Repr

def Fault.message : Fault → Text
  | missingAfter a => "syntax error: missing argument after ".toList ++ quote a
  | unexpected a => "syntax error: unexpected argument ".toList ++ quote a
  | expectingClosing a => "syntax error: expecting ')' after ".toList ++ quote a
  | nonInteger => "non-integer argument".toList
  | divisionByZero => "division by zero".toList
  | expression m => m.wording.toList

/-- The arguments that are left, and the one taken last. -/
structure Source where
  rest : List Text
  last : Text := []

abbrev Reader := StateT Source (Except Fault)

def peek : Reader (Option Text) := do
  return (← get).rest.head?

def advance : Reader Unit :=
  modify fun s => { rest := s.rest.drop 1, last := (s.rest.head?).getD s.last }

def integer? (s : Text) : Option Int :=
  match s with
  | '-' :: d => (Text.digits? d).map fun n => -(n : Int)
  | d => (Text.digits? d).map fun n => (n : Int)

def integer (s : Text) : Reader Int :=
  match integer? s with
  | some n => return n
  | none => throw .nonInteger

def isNull (s : Text) : Bool :=
  s.isEmpty || integer? s == some 0

/-- The part of a text that an expression matches from its start on: its first group, or the number
of characters. -/
def matchStart (s pattern : Text) : Reader Text :=
  match Regex.read false false pattern with
  | .error m => throw (.expression m)
  | .ok r =>
    let found := Regex.longest {} r ⟨0, none, s, []⟩
    if 0 < r.groupCount then return ((found.bind fun t => t.group? 1)).getD []
    else return Text.ofNat ((found.map Regex.Spot.place).getD 0)

def strength? (o : Text) : Option Nat :=
  match String.ofList o with
  | "|" => some 0
  | "&" => some 1
  | "<" | "<=" | "=" | "==" | "!=" | ">=" | ">" => some 2
  | "+" | "-" => some 3
  | "*" | "/" | "%" => some 4
  | ":" => some 5
  | _ => none

def compute (o a b : Text) : Reader Text := do
  let truth (b : Bool) : Text := if b then ['1'] else ['0']
  let order : Ordering :=
    match integer? a, integer? b with
    | some m, some n => compare m n
    | _, _ => compare (a.map Char.toNat) (b.map Char.toNat)
  match String.ofList o with
  | "|" => return if !isNull a then a else if isNull b then ['0'] else b
  | "&" => return if isNull a || isNull b then ['0'] else a
  | "<" => return truth (order == .lt)
  | "<=" => return truth (order != .gt)
  | "=" | "==" => return truth (order == .eq)
  | "!=" => return truth (order != .eq)
  | ">=" => return truth (order != .lt)
  | ">" => return truth (order == .gt)
  | "+" => return Text.ofInt ((← integer a) + (← integer b))
  | "-" => return Text.ofInt ((← integer a) - (← integer b))
  | "*" => return Text.ofInt ((← integer a) * (← integer b))
  | ":" => matchStart a b
  | _ =>
    let m ← integer a
    let n ← integer b
    if n = 0 then throw .divisionByZero
    return Text.ofInt (if o = ['/'] then m.tdiv n else m.tmod n)

mutual

/-- A value, a call of a function, or an expression in parentheses. -/
def primary : (fuel : Nat) → Reader Text
  | 0 => throw .nonInteger
  | fuel + 1 => do
    let argument : Reader Text := primary fuel
    match ← peek with
    | none => throw (.missingAfter (← get).last)
    | some a =>
      advance
      match String.ofList a with
      | "(" =>
        let v ← operations fuel 0
        match ← peek with
        | some [')'] => advance; return v
        | some b => throw (.unexpected b)
        | none => throw (.expectingClosing (← get).last)
      | ")" => throw (.unexpected a)
      | "length" =>
        return Text.ofNat (← argument).length
      | "substr" =>
        let s ← argument
        let from' := integer? (← argument)
        let count := integer? (← argument)
        match from', count with
        | some f, some n =>
          return if 0 < f ∧ 0 < n then (s.drop (f.toNat - 1)).take n.toNat else []
        | _, _ => return []
      | "index" =>
        let s ← argument
        let set ← argument
        return Text.ofNat (match s.findIdx? fun c => set.any (· == c) with
          | some i => i + 1
          | none => 0)
      | "match" =>
        let s ← argument
        let pattern ← argument
        matchStart s pattern
      | "+" =>
        match ← peek with
        | some b => advance; return b
        | none => throw (.missingAfter a)
      | _ => return a

def operations : (fuel : Nat) → (strength : Nat) → Reader Text
  | 0, _ => throw .nonInteger
  | fuel + 1, strength => do
    let first ← primary fuel
    further fuel strength first

def further : (fuel : Nat) → (strength : Nat) → Text → Reader Text
  | 0, _, a => return a
  | fuel + 1, strength, a => do
    match ← peek with
    | none => return a
    | some o =>
      match strength? o with
      | some n =>
        if n < strength then return a
        advance
        let b ← operations fuel (n + 1)
        further fuel strength (← compute o a b)
      | none => return a

end

def evaluate (arguments : List Text) : Except Fault Text :=
  let all : Reader Text := do
    let v ← operations (4 * arguments.length + 8) 0
    match ← peek with
    | some a => throw (.unexpected a)
    | none => return v
  match all.run { rest := arguments } with
  | .ok (v, _) => .ok v
  | .error f => .error f

end Expr

def expr : Job Unit := do
  match (← read).arguments with
  | [] => misuse 2 "missing operand".toList
  | arguments =>
    let arguments := if arguments.head? = some "--".toList then arguments.drop 1 else arguments
    match Expr.evaluate arguments with
    | .ok v =>
      printLine v
      setStatus (if Expr.isNull v then 1 else 0)
    | .error f => fail 2 f.message

/-- A decimal number with a fixed number of places. -/
structure FixedPoint where
  value : Int
  places : Nat
deriving DecidableEq, Repr

namespace FixedPoint

def read? (s : Text) : Option FixedPoint :=
  let (isNegative, t) : Bool × Text := match s with
    | '-' :: r => (true, r)
    | '+' :: r => (false, r)
    | r => (false, r)
  match Numeral.read? t with
  | some (n, []) =>
    if (t.head?.map fun c => c.isDigit || c == '.').getD false then
      let places := (-n.power).toNat
      let v : Int := n.digits * Nat.pow 10 n.power.toNat
      some ⟨if isNegative then -v else v, places⟩
    else none
  | _ => none

def scaled (n : FixedPoint) (places : Nat) : Int :=
  n.value * Nat.pow 10 (places - n.places)

def render (value : Int) (places : Nat) : Text :=
  let shown := Text.ofNat value.natAbs
  let shown := List.replicate (places + 1 - shown.length) '0' ++ shown
  let whole := shown.take (shown.length - places)
  (if value < 0 then ['-'] else []) ++ whole ++
    (if places = 0 then [] else '.' :: shown.drop (shown.length - places))

end FixedPoint

def steps : (fuel : Nat) → (first increment last : Int) → List Int
  | 0, _, _, _ => []
  | fuel + 1, n, d, last =>
    if (0 < d ∧ last < n) ∨ (d < 0 ∧ n < last) then [] else n :: steps fuel (n + d) d last

def seq : Job Unit := do
  let rec options (separator : Text) (isWide : Bool) (format : Option Text) :
      List Text → Text × Bool × Option Text × List Text
    | ['-', 's'] :: s :: rest => options s isWide format rest
    | ['-', 'w'] :: rest => options separator true format rest
    | ['-', 'f'] :: f :: rest => options separator isWide (some f) rest
    | ['-', '-'] :: rest => (separator, isWide, format, rest)
    | ('-' :: 's' :: s) :: rest => options s isWide format rest
    | rest => (separator, isWide, format, rest)
  let (separator, isWide, format, operands) := options ['\n'] false none (← read).arguments
  let bad := operands.find? fun a => (FixedPoint.read? a).isNone
  match bad, operands.filterMap FixedPoint.read? with
  | some a, _ =>
    if operands.head? = some a ∧ Text.startsWith a "--".toList then
      misuse 1 ("unrecognized option ".toList ++ quote a)
    else misuse 1 ("invalid floating point argument: ".toList ++ quote a)
  | none, [] => misuse 1 "missing operand".toList
  | none, _ :: _ :: _ :: _ :: _ => misuse 1 ("extra operand ".toList ++ quote (operands.getD 3 []))
  | none, numbers =>
    let (first, increment, last) : FixedPoint × FixedPoint × FixedPoint := match numbers with
      | [l] => (⟨1, 0⟩, ⟨1, 0⟩, l)
      | [f, l] => (f, ⟨1, 0⟩, l)
      | [f, i, l] => (f, i, l)
      | _ => (⟨1, 0⟩, ⟨1, 0⟩, ⟨0, 0⟩)
    let shownPlaces := max first.places increment.places
    let places := max shownPlaces last.places
    let d := increment.scaled places
    if d = 0 then
      misuse 1 ("invalid Zero increment value: ".toList ++ quote ['0'])
    else
      let values := steps 200000 (first.scaled places) d (last.scaled places)
      let render (n : Int) : Text :=
        FixedPoint.render (n.tdiv (Nat.pow 10 (places - shownPlaces))) shownPlaces
      let width := if isWide then
          (values.map fun n => (render n).length).foldl max (render (last.scaled places)).length
        else 0
      let show' (n : Int) : Text :=
        match format with
        | some f => (Printout.ofFormat f [FixedPoint.render n places]).printed
        | none =>
          let s := render n
          match s with
          | '-' :: r => '-' :: (List.replicate (width - s.length) '0' ++ r)
          | s => List.replicate (width - s.length) '0' ++ s
      if !values.isEmpty then printLine (Text.join separator (values.map show'))

def lastPart (path : Text) : Text :=
  match path.reverse.dropWhile (· == '/') with
  | [] => if path = [] then [] else ['/']
  | s => (s.takeWhile (· != '/')).reverse

def directoryPart (path : Text) : Text :=
  match path.reverse.dropWhile (· == '/') with
  | [] => if path = [] then ['.'] else ['/']
  | s =>
    match s.dropWhile (· != '/') with
    | [] => ['.']
    | s =>
      match s.dropWhile (· == '/') with
      | [] => ['/']
      | s => s.reverse

def withoutSuffix (suffix name : Text) : Text :=
  if name ≠ suffix ∧ name.drop (name.length - suffix.length) = suffix then
    name.take (name.length - suffix.length)
  else name

def basename : Job Unit :=
  withLeadingOptions [⟨'a', "multiple", false, false⟩, ⟨'s', "suffix", true, false⟩,
    ⟨'z', "zero", false, false⟩] 1 fun o => do
    match o.operands with
    | [] => misuse 1 "missing operand".toList
    | path :: rest =>
      if o.has 'a' || o.has 's' then
        for p in path :: rest do
          printLine (withoutSuffix ((o.value? 's').getD []) (lastPart p))
      else
        match rest with
        | [] => printLine (lastPart path)
        | [suffix] => printLine (withoutSuffix suffix (lastPart path))
        | _ :: extra :: _ => misuse 1 ("extra operand ".toList ++ quote extra)

def dirname : Job Unit :=
  withLeadingOptions [⟨'z', "zero", false, false⟩] 1 fun o => do
    if o.operands.isEmpty then misuse 1 "missing operand".toList
    for p in o.operands do
      printLine (directoryPart p)

/-- A text with the escapes of `echo -e`, and whether it ends early. -/
def echoEscapes : (fuel : Nat) → Text → Text × Bool
  | 0, _ => ([], false)
  | _, [] => ([], false)
  | _ + 1, '\\' :: 'c' :: _ => ([], true)
  | fuel + 1, '\\' :: 'x' :: d :: s =>
    match Arithmetic.digitValue? d with
    | none =>
      let (t, stops) := echoEscapes fuel (d :: s)
      ('\\' :: 'x' :: t, stops)
    | some a =>
      match s with
      | e :: s' =>
        match Arithmetic.digitValue? e with
        | some b =>
          let (t, stops) := echoEscapes fuel s'
          (byte (16 * a + b) :: t, stops)
        | none =>
          let (t, stops) := echoEscapes fuel s
          (byte a :: t, stops)
      | [] => ([byte a], false)
  | fuel + 1, '\\' :: '0' :: s =>
    let (n, rest) := octal 3 0 s
    let (t, stops) := echoEscapes fuel rest
    (byte n :: t, stops)
  | fuel + 1, '\\' :: s =>
    let (c, rest) := escape s
    let (t, stops) := echoEscapes fuel rest
    (c :: t, stops)
  | fuel + 1, c :: s =>
    let (t, stops) := echoEscapes fuel s
    (c :: t, stops)

/-- Prints its arguments; escapes are read only if that is asked for. -/
def echo : Job Unit := do
  let rec options (endsLine escapes : Bool) : List Text → Bool × Bool × List Text
    | [] => (endsLine, escapes, [])
    | a :: rest =>
      match a with
      | '-' :: letters =>
        if letters ≠ [] ∧ letters.all fun c => c == 'n' || c == 'e' || c == 'E' then
          let escapes := letters.foldl (fun e c =>
            if c = 'e' then true else if c = 'E' then false else e) escapes
          options (endsLine && !letters.any (· == 'n')) escapes rest
        else (endsLine, escapes, a :: rest)
      | _ => (endsLine, escapes, a :: rest)
  let (endsLine, escapes, words) := options true false (← read).arguments
  let text := Text.join [' '] words
  if escapes then
    let (text, stops) := echoEscapes (text.length + 1) text
    print (if stops || !endsLine then text else text ++ ['\n'])
  else print (if endsLine then text ++ ['\n'] else text)

def printf : Job Unit := do
  let arguments := (← read).arguments
  match if arguments.head? = some "--".toList then arguments.drop 1 else arguments with
  | [] => misuse 1 "missing operand".toList
  | format :: arguments =>
    let p := Printout.ofFormat format arguments
    print p.printed
    if let extra :: _ := p.arguments then
      warn ("warning: ignoring excess arguments, starting with ".toList ++ quote extra)
    for message in p.complaints do
      let message := match Text.find? ": expected numeric value".toList message with
        | some (given, _) => quote given ++ ": expected a numeric value".toList
        | none =>
          match Text.find? ": not completely converted".toList message with
          | some (given, _) => quote given ++ ": value not completely converted".toList
          | none => message
      fail 1 message

end ProofDesk.Tool
