import ProofDesk.Files.Basic
import ProofDesk.Shell.Script

namespace ProofDesk.Shell

/-- Where a descriptor leads to. Streams have numbers; a stream that is written to is kept with its
last byte first. -/
inductive Target where
  | source (stream : Nat) (keepsRest : Bool)
  | sink (stream : Nat)
  | file (place : Place)
  | nowhere
deriving DecidableEq, Repr

/-- A variable of the shell. -/
structure Variable where
  value : Option Text := none
  isExported : Bool := false
  isReadOnly : Bool := false
deriving DecidableEq, Repr

structure State where
  name : Text
  parameters : List Text := []
  bindings : List (Text × Variable) := []
  functions : List (Text × Command) := []
  descriptors : List (Nat × Target) := []
  options : List Char := []
  status : Nat := 0
  substitution : Option Nat := none
  line : Nat := 1
  speaker : Option Text := none
  traps : List (Text × Text) := []
  directory : Text := ['/']
  process : Nat := 100
  current : Nat := 100
  background : Option Nat := none
  ended : List (Nat × Nat) := []
  loops : Nat := 0
  frames : List (List (Text × Option Variable)) := []
  /-- The parameter in which the next option is looked for, counted from one, and how much of the one
  before it has been read, if more options may stand there. -/
  nextOption : Nat := 1
  optionOffset : Option Nat := none
  aliases : List (Text × Text) := []

structure World where
  streams : List Text := []
  files : Files := .usual
  documents : List (Nat × Word) := []
  nextProcess : Nat := 101
  waiting : List (Nat × State × Command) := []
  signal : Option Nat := none
  pending : List (Nat × Nat) := []
  clock : Nat := 0
  deadlines : List (Nat × Nat) := []

structure Machine where
  state : State
  world : World := {}

/-- Why a command does not go on to the next one. -/
inductive Halt where
  | exit (status : Nat)
  | failure
  | leaveFunction (status : Nat)
  | leaveLoop (levels : Nat)
  | nextRound (levels : Nat)
  | killed (process signal : Nat)
deriving DecidableEq, Repr

abbrev Act := ExceptT Halt (StateM Machine)

namespace Act

def state : Act State := do return (← get).state

def world : Act World := do return (← get).world

def modifyState (f : State → State) : Act Unit :=
  modify fun m => { m with state := f m.state }

def modifyWorld (f : World → World) : Act Unit :=
  modify fun m => { m with world := f m.world }

def newStream (text : Text) : Act Nat := do
  let n := (← world).streams.length
  modifyWorld fun w => { w with streams := w.streams ++ [text] }
  return n

def stream (n : Nat) : Act Text := do
  return ((← world).streams[n]?).getD []

def setStream (n : Nat) (text : Text) : Act Unit :=
  modifyWorld fun w => { w with streams := w.streams.set n text }

def target? (descriptor : Nat) : Act (Option Target) := do
  return ((← state).descriptors.find? fun e => e.1 == descriptor).map Prod.snd

def setTarget (descriptor : Nat) (target : Option Target) : Act Unit :=
  modifyState fun s =>
    let others := s.descriptors.filter fun e => e.1 != descriptor
    { s with descriptors := match target with
      | some t => (descriptor, t) :: others
      | none => others }

def writeTo (target : Option Target) (text : Text) : Act Bool := do
  match target with
  | some (.sink n) =>
    setStream n (text.foldl (fun written c => c :: written) (← stream n))
    return true
  | some (.file place) =>
    modifyWorld fun w =>
      let before := match w.files.entry? place with
        | some (.file s) => s
        | _ => []
      { w with files := w.files.put place (.file (before ++ text)) }
    return true
  | some .nowhere => return true
  | _ => return false

def write (descriptor : Nat) (text : Text) : Act Bool := do
  writeTo (← target? descriptor) text

def complain (message : Text) : Act Unit := do
  let s ← state
  let speaker := match s.speaker with
    | some c => c ++ ": ".toList
    | none => []
  let _ ← write 2 (s.name ++ ": ".toList ++ Text.ofNat s.line ++ ": ".toList ++ speaker ++ message
    ++ ['\n'])

def fail {α : Type} (message : Text) : Act α := do
  complain message
  throw .failure

def hasOption (letter : Char) : Act Bool := do
  return (← state).options.contains letter

def binding? (name : Text) : Act (Option Variable) := do
  return ((← state).bindings.find? fun e => e.1 == name).map Prod.snd

def value? (name : Text) : Act (Option Text) := do
  return (← binding? name).bind Variable.value

def putVariable (name : Text) (v : Option Variable) : Act Unit :=
  modifyState fun s =>
    let others := s.bindings.filter fun e => e.1 != name
    { s with bindings := match v with
      | some v => others ++ [(name, v)]
      | none => others }

def setVariable (name : Text) (value : Text) : Act Unit := do
  let v := (← binding? name).getD {}
  if v.isReadOnly then fail (name ++ ": is read only".toList)
  let isExported := v.isExported || (← hasOption 'a')
  putVariable name (some { v with value := some value, isExported })
  if name = "OPTIND".toList then
    modifyState fun s => { s with
      nextOption := max 1 ((Text.digits? value).getD 1), optionOffset := none }

def separators : Act Text := do
  return ((← value? "IFS".toList)).getD [' ', '\t', '\n']

def absolute (path : Text) : Act Text := do
  return Text.joinPath (← state).directory path

end Act

end ProofDesk.Shell
