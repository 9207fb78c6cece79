import ProofDesk.Shell.Evaluate

namespace ProofDesk.Shell

namespace Act

/-- The number of bytes that a command takes from another one's output at once. -/
def block : Nat := 8192

def restOf (keepsRest : Bool) (before after : Text) : Text :=
  let used := before.length - after.length
  if keepsRest ∨ used = 0 then after else before.drop ((used + block - 1) / block * block)

def runTool (job : Tool.Job Unit) (name : Text) (arguments : List Text)
    (environment : List (Text × Text)) : Act Nat := do
  let m ← get
  let target ← target? 0
  let (input, keepsRest) ← match target with
    | some (.source n keepsRest) => do pure (← stream n, keepsRest)
    | _ => pure ([], false)
  let call : Tool.Call :=
    { name, arguments, environment, directory := m.state.directory, readsFile := keepsRest }
  let ((), done) := (job.run call).run { input, files := m.world.files }
  modifyWorld fun w => { w with files := done.files }
  if let some (.source n keepsRest) := target then
    setStream n (restOf keepsRest input done.input)
  for (isComplaint, s) in done.written.reverse do
    let _ ← write (if isComplaint then 2 else 1) s
  return done.status

def passTime (microseconds : Nat) : Act Unit := do
  let w ← world
  let now := w.clock + microseconds
  let first := w.deadlines.foldl (fun (best : Option (Nat × Nat)) d =>
    if d.2 < now ∧ (best.map fun b => decide (d.2 ≤ b.2)).getD true then some d else best) none
  match first with
  | none => modifyWorld fun w => { w with clock := now }
  | some (process, time) =>
    modifyWorld fun w => { w with clock := time }
    throw (.killed process 15)

def grumble (s : Text) : Act Unit := do
  let _ ← write 2 (s ++ ['\n'])

def envCall (environment : List (Text × Text)) :
    List Text → Except Text (List (Text × Text) × List Text)
  | [] => .ok (environment, [])
  | a :: rest =>
    let without (name : Text) : List (Text × Text) := environment.filter fun e => e.1 != name
    if a = ['-'] ∨ a = "-i".toList ∨ a = "--ignore-environment".toList then envCall [] rest
    else if a = "--".toList then envCall environment rest
    else if a = "-u".toList then
      match rest with
      | name :: rest => envCall (without name) rest
      | [] => .error "option requires an argument -- 'u'".toList
    else match Text.after? "-u".toList a, Text.after? "--unset=".toList a with
      | some name, _ | none, some name => envCall (without name) rest
      | none, none =>
        if Text.startsWith a "--".toList then
          .error ("unrecognized option '".toList ++ a ++ ['\''])
        else if a.head? = some '-' then
          .error ("invalid option -- '".toList ++ (a.drop 1).take 1 ++ ['\''])
        else match Text.cut? '=' a with
          | some _ => .ok (assigned environment (a :: rest))
          | none => .ok (environment, a :: rest)
where
  /-- The variables that are set, after which no options come. -/
  assigned (environment : List (Text × Text)) : List Text → List (Text × Text) × List Text
    | [] => (environment, [])
    | a :: rest =>
      match Text.cut? '=' a with
      | some (name, value) =>
        assigned ((environment.filter fun e => e.1 != name) ++ [(name, value)]) rest
      | none => (environment, a :: rest)

/-- The words of the input of `xargs`: blanks separate them, quotes and backslashes keep blanks. -/
def inputWords : (fuel : Nat) → (quote : Option Char) → (word : Option Text) → Text → List Text
  | 0, _, _, _ => []
  | _, _, word, [] => word.toList.map List.reverse
  | fuel + 1, some q, word, c :: s =>
    if c = q then inputWords fuel none (some (word.getD [])) s
    else inputWords fuel (some q) (some (c :: word.getD [])) s
  | fuel + 1, none, word, c :: s =>
    if c = '\'' ∨ c = '"' then inputWords fuel (some c) (some (word.getD [])) s
    else if c = '\\' then
      match s with
      | d :: s => inputWords fuel none (some (d :: word.getD [])) s
      | [] => inputWords fuel none word []
    else if c = ' ' ∨ c = '\t' ∨ c = '\n' then
      word.toList.map List.reverse ++ inputWords fuel none none s
    else inputWords fuel none (some (c :: word.getD [])) s

def chunks (n : Nat) : (fuel : Nat) → List Text → List (List Text)
  | 0, _ => []
  | _, [] => []
  | fuel + 1, all => all.take n :: chunks n fuel (all.drop n)

/-- How `xargs` makes its calls. -/
structure Batching where
  most : Option Nat := none
  mark : Option Text := none
  delimiter : Option Char := none
  skipsEmpty : Bool := false
  isTraced : Bool := false
  command : List Text := []

def Batching.read (b : Batching) : List Text → Batching
  | ['-', 'n'] :: n :: rest => read { b with most := Text.digits? n } rest
  | ['-', 'L'] :: n :: rest => read { b with most := Text.digits? n } rest
  | ['-', 'I'] :: mark :: rest => read { b with mark := some mark } rest
  | ['-', 'd'] :: d :: rest =>
    read { b with delimiter := some (if d = "\\n".toList then '\n' else d.headD '\n') } rest
  | ['-', '0'] :: rest => read { b with delimiter := some '\x00' } rest
  | ['-', 'r'] :: rest => read { b with skipsEmpty := true } rest
  | ['-', 't'] :: rest => read { b with isTraced := true } rest
  | ('-' :: 'n' :: n) :: rest => read { b with most := Text.digits? n } rest
  | ('-' :: 'I' :: mark) :: rest => read { b with mark := some mark } rest
  | ('-' :: 'd' :: d) :: rest =>
    read { b with delimiter := some (if d = "\\n".toList then '\n' else d.headD '\n') } rest
  | rest => { b with command := rest }

def replaceMark (mark value : Text) : (fuel : Nat) → Text → Text
  | 0, s => s
  | fuel + 1, s =>
    match Text.find? mark s with
    | some (before, after) => before ++ value ++ replaceMark mark value fuel after
    | none => s

section Processes

variable (evaluate : Command → (isTested : Bool) → Act Nat)

/-- What the arguments of a shell ask for. -/
structure ShellCall where
  name : Text
  options : List Char := []
  script : Option Text := none
  path : Option Text := none
  parameters : List Text := []

def shellCall (name : Text) : (hasScript : Bool) → (options : List Char) → List Text →
    Except Text ShellCall
  | hasScript, options, arguments =>
    let finish (rest : List Text) : Except Text ShellCall :=
      if hasScript then
        match rest with
        | [] => .error "-c requires an argument".toList
        | script :: [] => .ok { name, options, script := some script }
        | script :: name :: parameters =>
          .ok { name, options, script := some script, parameters }
      else if options.contains 's' then .ok { name, options, parameters := rest }
      else match rest with
        | [] => .ok { name, options }
        | path :: parameters => .ok { name := path, options, path := some path, parameters }
    match arguments with
    | [] => finish []
    | a :: rest =>
      match a with
      | ['-'] | ['-', '-'] => finish rest
      | sign :: letters =>
        if sign = '-' ∨ sign = '+' then
          if letters.getLast? = some 'o' ∧ sign = '-' then
            match rest with
            | option :: rest =>
              match optionNames.find? fun e => e.1 == option with
              | some (_, c) => shellCall name hasScript (options ++ letters.dropLast ++ [c]) rest
              | none => .error ("Illegal option -o ".toList ++ option)
            | [] => finish []
          else
            match letters.find? fun c =>
              c != 'c' && c != 'l' && !(optionNames.any fun e => e.2 == c) with
            | some c => .error ("Illegal option -".toList ++ [c])
            | none =>
              shellCall name (hasScript || letters.any (· == 'c'))
                (if sign = '+' then options.filter fun c => !letters.any (· == c)
                else options ++ letters.filter (· != 'c')) rest
        else finish (a :: rest)
      | [] => finish (a :: rest)
  termination_by _ _ arguments => arguments.length

def ownVariables (directory : Text) : List (Text × Variable) :=
  ([("IFS", " \t\n"), ("OPTIND", "1"), ("PS1", "# "), ("PS2", "> "), ("PS4", "+ "),
    ("PATH", "/usr/local/sbin:/usr/local/bin:/usr/sbin:/usr/bin:/sbin:/bin")].map
    fun e => (e.1.toList, { value := some e.2.toList })) ++
    [("PWD".toList, { value := some directory, isExported := true })]

def runShell (name : Text) (arguments : List Text) (environment : List (Text × Text)) :
    Act Nat := do
  let outer ← state
  let process ← newProcess
  let restore : Act Unit := modifyState fun _ => outer
  let bindings := (environment.filter fun e => isName e.1).map fun e =>
    (e.1, ({ value := some e.2, isExported := true } : Variable))
  let bindings := bindings ++ (ownVariables outer.directory).filter fun e =>
    !bindings.any fun v => v.1 == e.1
  let fresh : State := {
    name, bindings, process, current := process
    descriptors := outer.descriptors, directory := outer.directory }
  modifyState fun _ => fresh
  let start : Act Nat := do
    match shellCall name false [] arguments with
    | .error message =>
      modifyState fun s => { s with line := 0 }
      fail message
    | .ok call =>
      modifyState fun s => { s with
        name := call.name, options := call.options, parameters := call.parameters }
      let script ← match call.script, call.path with
        | some script, _ => pure script
        | none, some path =>
          match (← world).files.read (← absolute path) with
          | .ok script => pure script
          | .error _ =>
            modifyState fun s => { s with line := 0, name }
            fail ("cannot open ".toList ++ path ++ ": No such file".toList)
        | none, none =>
          match ← target? 0 with
          | some (.source n _) =>
            let s ← stream n
            setStream n []
            pure s
          | _ => pure []
      runScript evaluate false script
  let status ← tryCatch (untilEnd evaluate start) fun h => do
    restore
    match h with
    | .killed p signal =>
      if p = process then
        modifyWorld fun w => { w with signal := some signal }
        return signalStatus signal
      else throw h
    | h => throw h
  restore
  return status

/-- What is wrong with a condition, as the command that is no part of a shell words it. -/
def outsideComplaint (arguments : List Text) : BadCondition → Text
  | .illegalNumber a => "invalid integer ".toList ++ Tool.quote a
  | _ =>
    match arguments with
    | [_, b] => "missing argument after ".toList ++ Tool.quote b
    | [_, b, _] => Tool.quote b ++ ": binary operator expected".toList
    | _ => "extra argument ".toList ++ Tool.quote (arguments.getLastD [])

def outsideTest (name : Text) (arguments : List Text) : Act Nat := do
  let complain (message : Text) : Act Nat := do
    grumble (name ++ ": ".toList ++ message)
    return 2
  if name = ['['] ∧ arguments.getLast? ≠ some [']'] then complain "missing ']'".toList
  else
    let arguments := if name = ['['] then arguments.dropLast else arguments
    let m ← get
    match Condition.evaluate (entry m.state m.world) isOutsidePath (fun _ => false) (arguments.length + 1)
      arguments with
    | .ok b => return if b then 0 else 1
    | .error e => complain (outsideComplaint arguments e)

def isShell (name : Text) : Bool :=
  ["sh", "dash", "bash"].any fun s => s.toList == name

/-- Runs a command that is no part of the shell, by its name; `fuel` bounds how deep commands run
others in this way. -/
def execute : (fuel : Nat) → (name : Text) → List Text → List (Text × Text) → Act Nat
  | 0, _, _, _ => return 126
  | fuel + 1, name, arguments, environment => do
    let base := Tool.lastPart name
    let run (caller : String) (missing : Nat) (environment : List (Text × Text)) :
        List Text → Act Nat
      | [] => return 0
      | name :: arguments => do
        match commandPath? (← state) name with
        | some _ => execute fuel name arguments environment
        | none =>
          grumble (caller.toList ++ ": ".toList ++ Tool.quote name ++
            ": No such file or directory".toList)
          return missing
    if isShell base then runShell evaluate name arguments environment
    else match String.ofList base with
      | "env" =>
        match envCall environment arguments with
        | .error message =>
          grumble ("env: ".toList ++ message)
          grumble "Try 'env --help' for more information.".toList
          return 125
        | .ok (environment, []) =>
          for (name, value) in environment do
            let _ ← write 1 (name ++ '=' :: value ++ ['\n'])
          return 0
        | .ok (environment, call) => run "env" 127 environment call
      | "nohup" | "setsid" => run (String.ofList base) 127 environment arguments
      | "nice" =>
        let rest := match arguments with
          | ['-', 'n'] :: _ :: rest => rest
          | rest => rest.dropWhile fun a => a.head? == some '-'
        run "nice" 127 environment rest
      | "stdbuf" =>
        run "stdbuf" 127 environment (arguments.dropWhile fun a => a.head? == some '-')
      | "timeout" =>
        let hint : Act Nat := do
          grumble "Try 'timeout --help' for more information.".toList
          return 125
        let rest := match arguments with
          | ['-', 's'] :: _ :: rest => rest
          | ['-', 'k'] :: _ :: rest => rest
          | rest => rest.dropWhile fun a => a.head? == some '-'
        match rest with
        | [] | [_] => hint
        | limit :: call =>
          match Tool.microseconds? limit with
          | none =>
            grumble ("timeout: invalid time interval ".toList ++ Tool.quote limit)
            hint
          | some n =>
            let process ← newProcess
            let before := (← world).deadlines
            if n ≠ 0 then
              modifyWorld fun w => { w with deadlines := (process, w.clock + n) :: before }
            let outer ← state
            let restore : Act Unit := do
              modifyState fun _ => outer
              modifyWorld fun w => { w with deadlines := before }
            let name := call.headD []
            let status ← tryCatch
              (do
                if (commandPath? (← state) name).isNone then
                  grumble ("timeout: failed to run command ".toList ++ Tool.quote name ++
                    ": No such file or directory".toList)
                  return 127
                run "timeout" 127 environment call)
              fun h => do
                restore
                match h with
                | .killed p signal => if p = process then return 124 else throw (.killed p signal)
                | h => throw h
            restore
            return status
      | "sleep" =>
        let status ← runTool Tool.sleep name arguments environment
        if status = 0 then passTime ((arguments.filterMap Tool.microseconds?).foldl (· + ·) 0)
        return status
      | "test" | "[" => outsideTest base arguments
      | "xargs" =>
        let b := Batching.read {} arguments
        if (b.command.head?.bind List.head?) = some '-' then
          let a := b.command.headD []
          grumble ("xargs: ".toList ++ (if Text.startsWith a "--".toList then
              "unrecognized option ".toList ++ Tool.quote a
            else "invalid option -- ".toList ++ Tool.quote ((a.drop 1).take 1)))
          grumble "Try 'xargs --help' for more information.".toList
          return 1
        let input ← match ← target? 0 with
          | some (.source n _) => do
            let s ← stream n
            setStream n []
            pure s
          | _ => pure []
        let command := if b.command.isEmpty then ["echo".toList] else b.command
        let words : List Text := match b.delimiter, b.mark with
          | some d, _ =>
            let pieces := Text.split d input
            if pieces.getLast? = some [] then pieces.dropLast else pieces
          | none, some _ => (Tool.bodies input).filterMap fun (line : Text) =>
            let line := line.dropWhile fun c => c == ' ' || c == '\t'
            if line = [] then none else some line
          | none, none => inputWords (input.length + 1) none none input
        let calls : List (List Text) := match b.mark with
          | some mark => words.map fun w =>
            command.map fun (a : Text) => replaceMark mark w (a.length + 1) a
          | none =>
            if words.isEmpty then (if b.skipsEmpty then [] else [command])
            else (chunks (b.most.getD words.length) (words.length + 1) words).map (command ++ ·)
        let before ← target? 0
        setTarget 0 (some .nowhere)
        let mut status := 0
        for call in calls do
          if b.isTraced then grumble (Text.join [' '] call)
          let n ← run "xargs" 127 environment call
          if n = 127 then status := 127
          else if n ≠ 0 ∧ status = 0 then status := 123
        setTarget 0 before
        return status
      | _ =>
        match Tool.ofName? base with
        | some job => runTool job name arguments environment
        | none => return 127

end Processes

def evaluate : (depth : Nat) → Command → (isTested : Bool) → Act Nat
  | 0, _, _ => return 2
  | depth + 1, c, isTested => step (evaluate depth) (execute (evaluate depth) 10) c isTested

end Act

end ProofDesk.Shell
