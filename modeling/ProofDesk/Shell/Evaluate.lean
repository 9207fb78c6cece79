import ProofDesk.Shell.Builtin
import ProofDesk.Shell.Expansion
import ProofDesk.Shell.Grammar

namespace ProofDesk.Shell

namespace Act

def newProcess : Act Nat := do
  let n := (← world).nextProcess
  modifyWorld fun w => { w with nextProcess := n + 1 }
  return n

def signalStatus (signal : Nat) : Nat := 128 + signal

def turn (n : Nat) : Act Unit := do
  setStream n (← stream n).reverse

section Commands

/- How commands run others: `evaluate` a command, `execute` one that is no part of the shell, with
its name, its arguments and its environment. -/
variable (evaluate : Command → (isTested : Bool) → Act Nat)
variable (execute : Text → List Text → List (Text × Text) → Act Nat)

def runLines (isTested : Bool) : (fuel : Nat) → Source → (status : Nat) → Act Nat
  | 0, _, status => return status
  | fuel + 1, source, status => do
    match { source with aliases := (← state).aliases }.next with
    | .error fault =>
      modifyState fun s => { s with line := fault.line }
      fail fault.cause.message
    | .ok (none, _) => return status
    | .ok (some c, rest) =>
      modifyWorld fun w => { w with documents := rest.documents }
      let status ← evaluate c isTested
      modifyState fun s => { s with status }
      let documents := (← world).documents
      let nextDocument := documents.foldl (fun n d => max n (d.1 + 1)) rest.nextDocument
      runLines isTested fuel { rest with documents, nextDocument } status

def runScript (isTested : Bool) (script : Text) : Act Nat := do
  let documents := (← world).documents
  let nextDocument := documents.foldl (fun n d => max n (d.1 + 1)) 0
  runLines evaluate isTested (script.length + 1) { rest := script, documents, nextDocument } 0

def runTrap (key : Text) : Act Unit := do
  match (← state).traps.find? fun t => t.1 == key with
  | none => return
  | some (_, action) =>
    let status := (← state).status
    let _ ← runScript evaluate false action
    modifyState fun s => { s with status }

def untilEnd (a : Act Nat) : Act Nat := do
  let halted (h : Halt) (otherwise : Act Nat) : Act Nat := do
    match h with
    | .exit n => return n
    | .failure => return 2
    | .leaveFunction n => return n
    | .leaveLoop _ | .nextRound _ => return (← state).status
    | .killed _ _ => otherwise
  let status ← tryCatch a fun h =>
    halted h (throw h)
  modifyState fun s => { s with status }
  let exitKey := "EXIT".toList
  match (← state).traps.find? fun t => t.1 == exitKey with
  | none => return status
  | some (_, action) =>
    modifyState fun s => { s with traps := s.traps.filter fun t => t.1 != exitKey }
    tryCatch
      (do
        let _ ← runScript evaluate false action
        return status)
      fun h => halted h (throw h)

/-- Takes a signal: what is to be done on it is done, or it ends the process. -/
def receive (signal : Nat) : Act Unit := do
  let s ← state
  match s.traps.find? fun t => t.1 == signalName signal with
  | some (key, _) =>
    if signal ≠ 9 then
      runTrap evaluate key
      return
  | none => pure ()
  if [17, 18, 23, 28].contains signal then return
  throw (.killed s.current signal)

def receivePending : Act Unit := do
  let current := (← state).current
  let (here, others) := (← world).pending.partition fun p => p.1 == current
  modifyWorld fun w => { w with pending := others }
  for (_, signal) in here do receive evaluate signal

/-- Runs something in a process of its own, whose changes of the shell are lost. A signal to that
process ends it alone. -/
def apart (a : Act Nat) : Act Nat := do
  let outer ← state
  let process ← newProcess
  modifyState fun s => { s with
    current := process, traps := s.traps.filter fun t => t.2 == [], ended := [] }
  let restore : Act Unit := modifyState fun _ => outer
  let status ← tryCatch (untilEnd evaluate a) fun h => do
    restore
    match h with
    | .killed p signal => if p = process then return signalStatus signal else throw h
    | h => throw h
  restore
  receivePending evaluate
  return status

def outputOf (c : Command) : Act Text := do
  let n ← newStream []
  let status ← apart evaluate do
    setTarget 1 (some (.sink n))
    evaluate c false
  modifyState fun s => { s with substitution := some status }
  return (← stream n).reverse

def openingFailure (creates : Bool) (f : FileFailure) : Text :=
  match f with
  | .missing => (if creates then "Directory nonexistent" else "No such file").toList
  | .notDirectory => (if creates then "Directory nonexistent" else "No such file").toList
  | f => f.wording.toList

def openFile (descriptor : Nat) (opening : Opening) (path : Text) : Act Unit := do
  let special : List (Text × Nat) :=
    [("/dev/stdin".toList, 0), ("/dev/stdout".toList, 1), ("/dev/stderr".toList, 2),
      ("/dev/fd/0".toList, 0), ("/dev/fd/1".toList, 1), ("/dev/fd/2".toList, 2)]
  match special.find? fun e => e.1 == path with
  | some (_, n) => setTarget descriptor (← target? n)
  | none =>
    let full ← absolute path
    let files := (← world).files
    match opening with
    | .read =>
      match if path = [] then .error .missing else files.read full with
      | .ok s => setTarget descriptor (some (.source (← newStream s) true))
      | .error .isDirectory => setTarget descriptor (some (.source (← newStream []) true))
      | .error f => fail ("cannot open ".toList ++ path ++ ": ".toList ++ openingFailure false f)
    | opening =>
      match if path = [] then .error .missing else files.vacancy full with
      | .error f => fail ("cannot create ".toList ++ path ++ ": ".toList ++ openingFailure true f)
      | .ok (_, some .sink) => setTarget descriptor (some .nowhere)
      | .ok (place, found) =>
        if opening = .readWrite then
          match found with
          | some (.file s) => setTarget descriptor (some (.source (← newStream s) true))
          | _ =>
            modifyWorld fun w => { w with files := w.files.put place (.file []) }
            setTarget descriptor (some (.source (← newStream []) true))
        else
          let isKept := opening = .write && found.isSome && (← hasOption 'C')
          if isKept then fail ("cannot create ".toList ++ path ++ ": File exists".toList)
          if opening ≠ .append ∨ found = none then
            modifyWorld fun w => { w with files := w.files.put place (.file []) }
          setTarget descriptor (some (.file place))

def redirect (r : Redirection) : Act Unit := do
  let text (w : Word) : Act Text := wordText (outputOf evaluate) w
  match r with
  | .file descriptor opening w => openFile descriptor opening (← text w)
  | .copy descriptor w =>
    let source ← text w
    if source = ['-'] then setTarget descriptor none
    else match source with
      | [d] =>
        if d.isDigit then
          match ← target? (d.toNat - '0'.toNat) with
          | some t => setTarget descriptor (some t)
          | none => fail (source ++ ": Bad file descriptor".toList)
        else fail "Syntax error: Bad fd number".toList
      | _ => fail "Syntax error: Bad fd number".toList
  | .document descriptor number =>
    let w := (((← world).documents.find? fun d => d.1 == number).map Prod.snd).getD []
    let s := Piece.text (← pieces (outputOf evaluate) depth false wordEnds w)
    setTarget descriptor (some (.source (← newStream s) false))

/-- Runs something under redirections, which are undone after it. A redirection that fails gives a
status instead. -/
def underRedirections (rs : List Redirection) (whenFailing : Act Nat) (a : Act Nat) : Act Nat := do
  if rs.isEmpty then a
  else
    let before := (← state).descriptors
    let restore : Act Unit := modifyState fun s => { s with descriptors := before }
    let isDone ← tryCatch
      (do
        for r in rs do redirect evaluate r
        return true)
      fun h => do
        match h with
        | .failure =>
          restore
          return false
        | h => throw h
    if isDone then
      let status ← tryCatch a fun h => do
        restore
        throw h
      restore
      return status
    else whenFailing

def environment (more : List (Text × Text)) : Act (List (Text × Text)) := do
  let exported := (← state).bindings.filterMap fun e =>
    if e.2.isExported then e.2.value.map fun v => (e.1, v) else none
  let names := more.map Prod.fst
  return (exported.filter fun e => !names.contains e.1) ++ more

def speaking {α : Type} (name : Text) (a : Act α) : Act α := do
  let before := (← state).speaker
  let restore : Act Unit := modifyState fun s => { s with speaker := before }
  modifyState fun s => { s with speaker := some name }
  let r ← tryCatch a fun h => do
    restore
    throw h
  restore
  return r

def recursionLimit : Nat := 1000

/-- Runs a function with its parameters. Variables that it makes local are restored. -/
def callFunction (body : Command) (arguments : List Text) (isTested : Bool)
    (saved : List (Text × Option Variable)) : Act Nat := do
  let s ← state
  if recursionLimit ≤ s.frames.length then
    fail ("Maximum function recursion depth (".toList ++ Text.ofNat recursionLimit ++
      ") reached".toList)
  modifyState fun t => { t with
    parameters := arguments, nextOption := 1, optionOffset := none
    frames := saved :: t.frames, loops := 0 }
  let restore : Act Unit := do
    let frame := ((← state).frames.head?).getD []
    for (name, v) in frame do putVariable name v
    modifyState fun t => { t with
      parameters := s.parameters, nextOption := s.nextOption, optionOffset := s.optionOffset
      frames := s.frames, loops := s.loops }
  let status ← tryCatch (evaluate body isTested) fun h => do
    restore
    match h with
    | .leaveFunction n => return n
    | h => throw h
  restore
  return status

def sendSignal (signal process : Nat) : Act Nat := do
  let s ← state
  if process = s.current then
    if signal ≠ 0 then receive evaluate signal
    return 0
  else if process = s.process then
    if signal ≠ 0 then
      modifyWorld fun w => { w with pending := w.pending ++ [(process, signal)] }
    return 0
  else if (← world).waiting.any fun w => w.1 == process then
    if signal ≠ 0 then
      modifyWorld fun w => { w with waiting := w.waiting.filter fun b => b.1 != process }
      modifyState fun t => { t with ended := (process, signalStatus signal) :: t.ended }
    return 0
  else if s.ended.any fun e => e.1 == process then return 0
  else
    complain "No such process\n".toList
    return 1

def killCommand (arguments : List Text) : Act Nat := do
  match arguments with
  | ['-', 'l'] :: rest =>
    match rest with
    | [] => say (signals.flatMap fun e => e.1 ++ ['\n'])
    | a :: _ =>
      let n ← numberArgument a
      say (signalName (if 128 < n then n - 128 else n) ++ ['\n'])
  | arguments =>
    let (signal?, processes) : Option Nat × List Text := match arguments with
      | ['-', 's'] :: name :: rest => (signal? name, rest)
      | ['-', '-'] :: rest => (some 15, rest)
      | ('-' :: name) :: rest => (signal? name, rest)
      | rest => (some 15, rest)
    match signal? with
    | none => fail ("invalid signal number or name: ".toList ++ (arguments.headD []).drop 1)
    | some n =>
      if processes = [] then
        fail ("Usage: kill [-s sigspec | -signum | -sigspec] [pid | job]... or\n" ++
          "kill -l [exitstatus]").toList
      let mut status := 0
      for p in processes do
        match Text.digits? p with
        | some p => status ← sendSignal evaluate n p
        | none => fail ("Illegal number: ".toList ++ p)
      return status

def runWaiting (process : Nat) : Act Unit := do
  match (← world).waiting.find? fun b => b.1 == process with
  | none => return
  | some (_, inner, c) =>
    modifyWorld fun w => { w with waiting := w.waiting.filter fun b => b.1 != process }
    let outer ← state
    let status ← apart evaluate do
      modifyState fun s => { inner with current := s.current, traps := s.traps }
      setTarget 0 (some .nowhere)
      evaluate c false
    modifyState fun _ => { outer with ended := (process, status) :: outer.ended }

def runAllWaiting : Act Unit := do
  for b in (← world).waiting do
    runWaiting evaluate b.1

def waitCommand (arguments : List Text) : Act Nat := do
  match arguments with
  | [] =>
    runAllWaiting evaluate
    return 0
  | processes =>
    let mut status := 0
    for p in processes do
      let n ← numberArgument p
      runWaiting evaluate n
      status := (((← state).ended.find? fun e => e.1 == n).map Prod.snd).getD 127
    return status

def evalCommand (arguments : List Text) (isTested : Bool) : Act Nat :=
  runScript evaluate isTested (Text.join [' '] arguments)

def sourceCommand (arguments : List Text) (isTested : Bool) : Act Nat := do
  match arguments with
  | [] => return 0
  | path :: _ =>
    let text ← if path = "/dev/stdin".toList then
        match ← target? 0 with
        | some (.source n _) => do
          let s ← stream n
          setStream n []
          pure (.ok s)
        | _ => pure (.ok [])
      else pure ((← world).files.read (← absolute path))
    match text with
    | .error _ =>
      if path.any (· == '/') then fail ("cannot open ".toList ++ path ++ ": No such file".toList)
      else fail (path ++ ": not found".toList)
    | .ok s =>
      tryCatch (runScript evaluate isTested s) fun h =>
        match h with
        | .leaveFunction n => return n
        | h => throw h

/-- The words of a command, after assignments have been taken off; what kind of command it is. -/
inductive Callee where
  | special (name : Text)
  | function (body : Command)
  | ordinary (name : Text)
  | outside (name : Text)

def callee (name : Text) : Act Callee := do
  if specialBuiltins.contains name then return .special name
  match (← state).functions.find? fun f => f.1 == name with
  | some (_, body) => return .function body
  | none => return if ordinaryBuiltins.contains name then .ordinary name else .outside name

def runBuiltin (name : Text) (arguments : List Text) (isTested : Bool) : Act Nat :=
  match String.ofList name with
  | "eval" => evalCommand evaluate arguments isTested
  | "." => sourceCommand evaluate arguments isTested
  | "wait" => waitCommand evaluate arguments
  | "kill" => killCommand evaluate arguments
  | _ =>
    match builtin? name with
    | some run => run arguments
    | none => return 0

def tellSignal : Act Unit := do
  let what? : Option String := match (← world).signal with
    | some 1 => some "Hangup"
    | some 3 => some "Quit"
    | some 6 => some "Aborted"
    | some 9 => some "Killed"
    | some 11 => some "Segmentation fault"
    | some 14 => some "Alarm clock"
    | some 15 => some "Terminated"
    | _ => none
  if let some what := what? then
    let _ ← write 2 (what.toList ++ ['\n'])
  modifyWorld fun w => { w with signal := none }

def runOutside (name : Text) (arguments : List Text) (more : List (Text × Text)) : Act Nat := do
  let s ← state
  match commandPath? s name with
  | some _ =>
    let environment ← environment more
    modifyWorld fun w => { w with signal := none }
    let status ← execute name arguments environment
    tellSignal
    return status
  | none =>
    let w ← world
    let found := if name.any (· == '/') then entry s w name else none
    match found with
    | some _ =>
      complain (name ++ ": Permission denied".toList)
      return 126
    | none =>
      complain (name ++ ": not found".toList)
      return 127

/-- What a command is asked to do with the name of another one. -/
inductive Errand where
  | nothing
  | run (name : Text) (arguments : List Text)
  | describe (isLong : Bool) (name : Text)
  /-- There is no such option. -/
  | refuse (letter : Char)

def Errand.ofArguments : List Text → Errand
  | [] => .nothing
  | ['-', '-'] :: rest =>
    match rest with
    | [] => .nothing
    | name :: arguments => .run name arguments
  | ('-' :: c :: letters) :: rest =>
    let letters := c :: letters
    match letters.find? fun l => l != 'p' && l != 'v' && l != 'V' with
    | some l => .refuse l
    | none =>
      let isLong := letters.any (· == 'V')
      if isLong || letters.any (· == 'v') then
        match rest with
        | name :: _ => .describe isLong name
        | [] => .nothing
      else ofArguments rest
  | name :: rest => if name = "command".toList then ofArguments rest else .run name rest

def commandCommand (arguments : List Text) (isTested : Bool) (more : List (Text × Text)) :
    Act Nat := do
  match Errand.ofArguments arguments with
  | .nothing => return 0
  | .describe isLong name => describe isLong name
  | .refuse letter => fail ("Illegal option -".toList ++ [letter])
  | .run name rest =>
    if specialBuiltins.contains name ∨ ordinaryBuiltins.contains name then
      speaking name (runBuiltin evaluate name rest isTested)
    else
      modifyState fun s => { s with speaker := none }
      runOutside execute name rest more

def underAssignments (assigned : List (Text × Text)) (a : Act Nat) : Act Nat := do
  let before ← assigned.mapM fun e => do return (e.1, ← binding? e.1)
  for (name, value) in assigned do
    setVariable name value
    putVariable name (some { (← binding? name).getD {} with isExported := true })
  let restore : Act Unit := do
    for (name, v) in before do putVariable name v
  let status ← tryCatch a fun h => do
    restore
    throw h
  restore
  return status

/-- Shows a command that is about to run; its own redirections do not count for that. -/
def trace (target : Option Target) (assigned : List (Text × Text)) (words : List Text) :
    Act Unit := do
  if ← hasOption 'x' then
    let shown := assigned.map (fun e => e.1 ++ '=' :: e.2) ++ words
    let _ ← writeTo target ("+ ".toList ++ Text.join [' '] shown ++ ['\n'])

def execCommand (words : List Text) (assigned : List (Text × Text)) : Act Nat := do
  match words with
  | [] => return 0
  | name :: arguments =>
    let s ← state
    match commandPath? s name with
    | some _ =>
      let status ← execute name arguments (← environment assigned)
      modifyState fun s => { s with traps := [] }
      throw (.exit status)
    | none =>
      complain (name ++ ": not found".toList)
      throw (.exit 127)

def simpleCommand (line : Nat) (assignments : List (Text × Word)) (words : List Word)
    (redirections : List Redirection) (isTested : Bool) : Act Nat := do
  modifyState fun s => { s with line, substitution := none }
  let words ← commandFields (outputOf evaluate) [] words
  let complaints ← target? 2
  let assign : Act (List (Text × Text)) :=
    assignments.mapM fun a => do return (a.1, ← assignedText (outputOf evaluate) a.2)
  match words with
  | [] =>
    underRedirections evaluate redirections (return 2) do
      let mut assigned := []
      for (name, w) in assignments do
        let value ← assignedText (outputOf evaluate) w
        setVariable name value
        assigned := assigned ++ [(name, value)]
      if !assigned.isEmpty then trace complaints assigned []
      return ((← state).substitution).getD 0
  | name :: arguments =>
    match ← callee name with
    | .special name =>
      if name = "exec".toList then
        for r in redirections do redirect evaluate r
        let assigned ← assign
        trace complaints assigned words
        speaking name (execCommand execute arguments assigned)
      else
        underRedirections evaluate redirections (throw .failure) do
          let assigned ← assign
          trace complaints assigned words
          for (n, value) in assigned do setVariable n value
          speaking name (runBuiltin evaluate name arguments isTested)
    | .function body =>
      underRedirections evaluate redirections (return 2) do
        let assigned ← assign
        trace complaints assigned words
        let saved ← assigned.mapM fun e => do return (e.1, ← binding? e.1)
        for (n, value) in assigned do
          setVariable n value
          putVariable n (some { (← binding? n).getD {} with isExported := true })
        callFunction evaluate body arguments isTested saved
    | .ordinary name =>
      let run : Act Nat := underRedirections evaluate redirections (return 2) do
        let assigned ← assign
        trace complaints assigned words
        underAssignments assigned do
          if name = "command".toList then
            speaking name (commandCommand evaluate execute arguments isTested assigned)
          else speaking name (runBuiltin evaluate name arguments isTested)
      let before := (← state).speaker
      tryCatch run fun h => do
        match h with
        | .failure =>
          modifyState fun s => { s with speaker := before }
          return 2
        | h => throw h
    | .outside name =>
      underRedirections evaluate redirections (return 2) do
        let assigned ← assign
        trace complaints assigned words
        runOutside execute name arguments assigned

/-- Runs the commands of a pipeline; `input` is the stream that the first one reads. -/
def pipe (input : Option Nat) : List Command → Act Nat
  | [] => return 0
  | [c] =>
    apart evaluate do
      if let some n := input then setTarget 0 (some (.source n false))
      evaluate c false
  | c :: rest => do
    let n ← newStream []
    let _ ← apart evaluate do
      if let some n := input then setTarget 0 (some (.source n false))
      setTarget 1 (some (.sink n))
      evaluate c false
    turn n
    pipe (some n) rest

/-- Goes on with a loop as its body says. Nothing means that the loop is over. -/
def oneRound (body : Act Nat) : Act (Option Nat × Nat) := do
  tryCatch
    (do
      let status ← body
      return (some status, status))
    fun h =>
      match h with
      | .leaveLoop n => if 1 < n then throw (.leaveLoop (n - 1)) else return (none, 0)
      | .nextRound n => if 1 < n then throw (.nextRound (n - 1)) else return (some 0, 0)
      | h => throw h

def loop (untilSuccess : Bool) (test body : Command) (isTested : Bool) :
    (rounds : Nat) → (status : Nat) → Act Nat
  | 0, status => return status
  | rounds + 1, status => do
    let (goesOn, last) ← oneRound do
      let n ← evaluate test true
      if (n == 0) == untilSuccess then throw (.leaveLoop 0)
      let n ← evaluate body isTested
      modifyState fun s => { s with status := n }
      return n
    match goesOn with
    | some n => loop untilSuccess test body isTested rounds n
    | none => return if last = 0 then status else last

def each (name : Text) (body : Command) (isTested : Bool) : List Text → (status : Nat) → Act Nat
  | [], status => return status
  | word :: rest, _ => do
    setVariable name word
    let (goesOn, _) ← oneRound do
      let n ← evaluate body isTested
      modifyState fun s => { s with status := n }
      return n
    match goesOn with
    | some n => each name body isTested rest n
    | none => return 0

def choose (word : Text) (isTested : Bool) : List (List Word × Command) → Act Nat
  | [] => return 0
  | (patterns, body) :: rest => do
    let rec fitsOne : List Word → Act Bool
      | [] => return false
      | p :: others => do
        if (← wordPattern (outputOf evaluate) p).fitsAll word then return true
        fitsOne others
    if ← fitsOne patterns then
      match body with
      | .nothing => return 0
      | body => evaluate body isTested
    else choose word isTested rest

def inLoop (a : Act Nat) : Act Nat := do
  let before := (← state).loops
  let restore : Act Unit := modifyState fun s => { s with loops := before }
  modifyState fun s => { s with loops := before + 1 }
  let status ← tryCatch a fun h => do
    restore
    throw h
  restore
  return status

/-- Ends the shell after a failure that nothing tests, if it is asked to. -/
def checked (isTested : Bool) (status : Nat) : Act Nat := do
  if status ≠ 0 ∧ ¬ isTested then
    if ← hasOption 'e' then throw (.exit status)
  return status

/-- Runs a command, whose status `isTested` by the commands around it. -/
def step (c : Command) (isTested : Bool) : Act Nat := do
  if ← hasOption 'n' then return 0
  match c with
  | .nothing => return 0
  | .simple line assignments words redirections =>
    let status ← simpleCommand evaluate execute line assignments words redirections isTested
    modifyState fun s => { s with status }
    checked isTested status
  | .pipeline commands =>
    let status ← pipe evaluate none commands
    checked isTested status
  | .negation c =>
    let status ← evaluate c true
    return if status = 0 then 1 else 0
  | .both a b =>
    let status ← evaluate a true
    modifyState fun s => { s with status }
    if status = 0 then evaluate b isTested else return status
  | .either a b =>
    let status ← evaluate a true
    modifyState fun s => { s with status }
    if status = 0 then return status else evaluate b isTested
  | .sequence a b =>
    let status ← evaluate a isTested
    modifyState fun s => { s with status }
    evaluate b isTested
  | .background c =>
    let process ← newProcess
    let inner ← state
    modifyWorld fun w => { w with waiting := w.waiting ++ [(process, inner, c)] }
    modifyState fun s => { s with background := some process }
    return 0
  | .subshell line c redirections =>
    modifyState fun s => { s with line }
    let status ← underRedirections evaluate redirections (return 2)
      (apart evaluate (evaluate c isTested))
    checked isTested status
  | .redirected line c redirections =>
    modifyState fun s => { s with line }
    underRedirections evaluate redirections (return 2) (evaluate c isTested)
  | .branch test success failure =>
    let status ← evaluate test true
    modifyState fun s => { s with status }
    if status = 0 then evaluate success isTested
    else match failure with
      | .nothing => return 0
      | failure => evaluate failure isTested
  | .loop untilSuccess test body =>
    inLoop (loop evaluate untilSuccess test body isTested 100000 0)
  | .each line name words body =>
    modifyState fun s => { s with line }
    let words ← match words with
      | some ws => fields (outputOf evaluate) ws
      | none => pure (← state).parameters
    inLoop (each evaluate name body isTested words 0)
  | .choice line word cases =>
    modifyState fun s => { s with line }
    let s ← wordText (outputOf evaluate) word
    choose evaluate s isTested cases
  | .definition name body =>
    modifyState fun s => { s with
      functions := (s.functions.filter fun f => f.1 != name) ++ [(name, body)] }
    return 0

end Commands

end Act

end ProofDesk.Shell
