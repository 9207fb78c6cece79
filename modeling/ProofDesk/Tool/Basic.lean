import ProofDesk.Files.Basic

namespace ProofDesk.Tool

structure Call where
  name : Text
  arguments : List Text
  environment : List (Text × Text) := []
  directory : Text := ['/']
  readsFile : Bool := false

/-- A command at work. Output and complaints are kept in the order in which they are written, the
last first. -/
structure Progress where
  input : Text := []
  written : List (Bool × Text) := []
  status : Nat := 0
  files : Files := .usual

abbrev Job := ReaderT Call (StateM Progress)

namespace Job

def print (s : Text) : Job Unit :=
  modify fun p => if s = [] then p else { p with written := (false, s) :: p.written }

def printLine (s : Text) : Job Unit :=
  print (s ++ ['\n'])

def note (s : Text) : Job Unit :=
  modify fun p => { p with written := (true, s) :: p.written }

def setStatus (n : Nat) : Job Unit :=
  modify fun p => { p with status := n }

def warn (message : Text) : Job Unit := do
  note ((← read).name ++ ": ".toList ++ message ++ ['\n'])

def fail (status : Nat) (message : Text) : Job Unit := do
  warn message
  setStatus status

def misuse (status : Nat) (message : Text) : Job Unit := do
  warn message
  note ("Try '".toList ++ (← read).name ++ " --help' for more information.\n".toList)
  setStatus status

def takeInput : Job Text := do
  let p ← get
  set { p with input := [] }
  return p.input

def giveBack (s : Text) : Job Unit :=
  modify fun p => { p with input := s }

def absolute (path : Text) : Job Text := do
  return Text.joinPath (← read).directory path

def zeros : Nat := 1048576

def open? (path : Text) : Job (Except FileFailure Text) := do
  if path = ['-'] ∨ path = "/dev/stdin".toList then return .ok (← takeInput)
  if path = "/dev/zero".toList then return .ok (List.replicate zeros '\x00')
  if path = [] then return .error .missing
  return (← get).files.read (← absolute path)

def wording (failure : FileFailure) : Text :=
  failure.wording.toList

def openOr? (path : Text) (complain : FileFailure → Job Unit) : Job (Option Text) := do
  match ← open? path with
  | .ok s => return some s
  | .error failure =>
    complain failure
    return none

def blame (path : Text) (failure : FileFailure) : Job Unit :=
  fail 1 (path ++ ": ".toList ++ wording failure)

def openAll (paths : List Text) (complain : Text → FileFailure → Job Unit) :
    Job (List (Text × Text)) := do
  let mut all := []
  for path in if paths.isEmpty then [['-']] else paths do
    if let some s ← openOr? path (complain path) then
      all := all ++ [(path, s)]
  return all

def writeFile (path text : Text) (appends : Bool) : Job (Option FileFailure) := do
  if path = "/dev/stdout".toList then
    print text
    return none
  if path = "/dev/stderr".toList then
    note text
    return none
  let path ← absolute path
  let p ← get
  let before := if appends then (p.files.read path).toOption.getD [] else []
  match p.files.write path (before ++ text) with
  | .ok files =>
    set { p with files }
    return none
  | .error failure => return some failure

end Job

/-- An option: its letter, its long name, and whether it takes a value. -/
structure Choice where
  letter : Char
  long : String := ""
  takesValue : Bool := false
  isOptional : Bool := false
deriving DecidableEq, Repr

/-- The options and the operands of a call. -/
structure Options where
  given : List (Char × Text) := []
  operands : List Text := []
deriving DecidableEq, Repr

namespace Options

def has (o : Options) (c : Char) : Bool :=
  o.given.any fun g => g.1 == c

def value? (o : Options) (c : Char) : Option Text :=
  (o.given.reverse.find? fun g => g.1 == c).map Prod.snd

def values (o : Options) (c : Char) : List Text :=
  o.given.filterMap fun g => if g.1 = c then some g.2 else none

def add (o : Options) (c : Char) (value : Text) : Options :=
  { o with given := o.given ++ [(c, value)] }

def named (choices : List Choice) (name : Text) : List Choice :=
  match choices.find? fun c => c.long != "" && c.long.toList == name with
  | some c => [c]
  | none => choices.filter fun c => c.long != "" && Text.startsWith c.long.toList name

/-- The options of one letter in an argument, and the option that needs the next argument as its
value. -/
def cluster (choices : List Choice) : Text → Except Text (List (Char × Text) × Option Char)
  | [] => .ok ([], none)
  | c :: letters =>
    match choices.find? fun d => d.letter == c && c.toNat > 32 with
    | none => .error ("invalid option -- '".toList ++ [c, '\''])
    | some d =>
      if d.takesValue ∧ d.isOptional then .ok ([(c, letters)], none)
      else if d.takesValue then
        if letters.isEmpty then .ok ([], some c) else .ok ([(c, letters)], none)
      else (cluster choices letters).map fun r => ((c, []) :: r.1, r.2)

def readFrom (choices : List Choice) (isStrict : Bool) : Options → List Text → Except Text Options
  | o, [] => .ok o
  | o, a :: rest =>
    if a = "--".toList then .ok { o with operands := o.operands ++ rest }
    else
      match Text.after? "--".toList a, a with
      | some body, _ =>
        let name := body.takeWhile (· != '=')
        let value? := if name.length < body.length then some (body.drop (name.length + 1)) else none
        match named choices name with
        | [c] =>
          let shown := "'--".toList ++ c.long.toList ++ ['\'']
          match value? with
          | some value =>
            if c.takesValue then readFrom choices isStrict (o.add c.letter value) rest
            else .error ("option ".toList ++ shown ++ " doesn't allow an argument".toList)
          | none =>
            if c.takesValue ∧ ¬ c.isOptional then
              match rest with
              | value :: rest => readFrom choices isStrict (o.add c.letter value) rest
              | [] => .error ("option ".toList ++ shown ++ " requires an argument".toList)
            else readFrom choices isStrict (o.add c.letter []) rest
        | [] => .error ("unrecognized option '".toList ++ a ++ ['\''])
        | several => .error ("option '".toList ++ a ++ "' is ambiguous; possibilities:".toList ++
            several.flatMap fun c => " '--".toList ++ c.long.toList ++ ['\''])
      | none, '-' :: c :: letters =>
        match cluster choices (c :: letters) with
        | .error message => .error message
        | .ok (given, none) =>
          readFrom choices isStrict { o with given := o.given ++ given } rest
        | .ok (given, some c) =>
          match rest with
          | value :: rest =>
            readFrom choices isStrict ({ o with given := o.given ++ given }.add c value) rest
          | [] => .error ("option requires an argument -- '".toList ++ [c, '\''])
      | none, a =>
        if isStrict then .ok { o with operands := o.operands ++ a :: rest }
        else readFrom choices isStrict { o with operands := o.operands ++ [a] } rest

end Options

namespace Job

/-- Reads the options of a call, and goes on with them unless they are wrong. With `isStrict` they
stand before all operands. -/
def withOptionsOf (isStrict : Bool) (choices : List Choice) (status : Nat)
    (work : Options → Job Unit) : Job Unit := do
  match Options.readFrom choices isStrict {} (← read).arguments with
  | .ok o => work o
  | .error message => misuse status message

def withOptions (choices : List Choice) (status : Nat) (work : Options → Job Unit) : Job Unit :=
  withOptionsOf false choices status work

def withLeadingOptions (choices : List Choice) (status : Nat) (work : Options → Job Unit) :
    Job Unit :=
  withOptionsOf true choices status work

end Job

def linesBy (delimiter : Char) (s : Text) : List Text :=
  match Text.split delimiter s with
  | [] => []
  | pieces =>
    let last := pieces.getLastD []
    (pieces.dropLast.map (· ++ [delimiter])) ++ (if last = [] then [] else [last])

def linesOf (s : Text) : List Text :=
  linesBy '\n' s

def bodyBy (delimiter : Char) (line : Text) : Text :=
  if line.getLast? = some delimiter then line.dropLast else line

def body (line : Text) : Text :=
  bodyBy '\n' line

def bodiesBy (delimiter : Char) (s : Text) : List Text :=
  (linesBy delimiter s).map (bodyBy delimiter)

def bodies (s : Text) : List Text :=
  bodiesBy '\n' s

def padLeft (width : Nat) (s : Text) : Text :=
  List.replicate (width - s.length) ' ' ++ s

def quote (s : Text) : Text :=
  '\'' :: s ++ ['\'']

def quoteIfNeeded (s : Text) : Text :=
  if s = [] ∨ s.any (fun c => " \t\n!\"#$&'()*;<=>?[\\]^\x60\x7b|\x7d~".toList.any (· == c)) then quote s
  else s

end ProofDesk.Tool
