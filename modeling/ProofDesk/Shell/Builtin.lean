import ProofDesk.Shell.Condition
import ProofDesk.Shell.Format
import ProofDesk.Shell.Machine
import ProofDesk.Shell.Token
import ProofDesk.Tool.Table

namespace ProofDesk.Shell

/-- The commands that a function cannot replace, and whose failures end the shell. -/
def specialBuiltins : List Text :=
  [".", ":", "break", "continue", "eval", "exec", "exit", "export", "local", "readonly", "return",
    "set", "shift", "times", "trap", "unset"].map String.toList

def ordinaryBuiltins : List Text :=
  ["[", "alias", "bg", "cd", "chdir", "command", "echo", "false", "fg", "getopts", "hash", "jobs", "kill",
    "printf", "pwd", "read", "test", "true", "type", "ulimit", "umask", "unalias",
    "wait"].map String.toList

def signals : List (Text × Nat) :=
  [("HUP", 1), ("INT", 2), ("QUIT", 3), ("ILL", 4), ("TRAP", 5), ("ABRT", 6), ("BUS", 7),
    ("FPE", 8), ("KILL", 9), ("USR1", 10), ("SEGV", 11), ("USR2", 12), ("PIPE", 13), ("ALRM", 14),
    ("TERM", 15), ("STKFLT", 16), ("CHLD", 17), ("CONT", 18), ("STOP", 19), ("TSTP", 20),
    ("TTIN", 21), ("TTOU", 22), ("URG", 23), ("XCPU", 24), ("XFSZ", 25), ("VTALRM", 26),
    ("PROF", 27), ("WINCH", 28), ("IO", 29), ("PWR", 30), ("SYS", 31)].map
    fun e => (e.1.toList, e.2)

def signal? (s : Text) : Option Nat :=
  match Text.digits? s with
  | some n => if n ≤ 64 then some n else none
  | none =>
    let name := (Text.after? "SIG".toList (s.map Char.toUpper)).getD (s.map Char.toUpper)
    if name = "EXIT".toList then some 0
    else (signals.find? fun e => e.1 == name).map Prod.snd

def signalName (n : Nat) : Text :=
  if n = 0 then "EXIT".toList
  else ((signals.find? fun e => e.2 == n).map Prod.fst).getD (Text.ofNat n)

namespace Act

def say (s : Text) : Act Nat := do
  if s = [] then return 0
  if ← write 1 s then return 0
  complain "I/O error".toList
  return 1

def numberArgument (s : Text) : Act Nat := do
  match Text.digits? s with
  | some n => return n
  | none => fail ("Illegal number: ".toList ++ s)

/-- A text from a place on where a quote is open: a double one, in which single quotes stand, or a
single one, in which all else stands. -/
def quotedFrom : (isDouble : Bool) → Text → Text
  | false, [] => ['\'']
  | true, [] => ['"']
  | false, c :: s =>
    if c = '\'' then '\'' :: '"' :: c :: quotedFrom true s else c :: quotedFrom false s
  | true, c :: s =>
    if c = '\'' then c :: quotedFrom true s else '"' :: '\'' :: c :: quotedFrom false s

def quoted (s : Text) : Text :=
  '\'' :: quotedFrom false s

def assignmentOf (s : Text) : Text × Option Text :=
  match Text.cut? '=' s with
  | some (name, value) => (name, some value)
  | none => (s, none)

def mark (change : Variable → Variable) (arguments : List Text) : Act Nat := do
  for a in arguments do
    let (name, value) := assignmentOf a
    if !isName name then fail (name ++ ": bad variable name".toList)
    if let some v := value then setVariable name v
    putVariable name (some (change ((← binding? name).getD {})))
  return 0

def showMarked (label : String) (isMarked : Variable → Bool) : Act Nat := do
  let marked := ((← state).bindings.filter fun e => isMarked e.2).mergeSort
    fun a b => Text.inOrder a.1 b.1
  say (marked.flatMap fun e => label.toList ++ ' ' :: e.1 ++
    (match e.2.value with
    | some v => '=' :: quoted v
    | none => []) ++ ['\n'])

def exportCommand (arguments : List Text) : Act Nat :=
  match arguments with
  | [] | [['-', 'p']] => showMarked "export" Variable.isExported
  | names => mark (fun v => { v with isExported := true }) names

def readonlyCommand (arguments : List Text) : Act Nat :=
  match arguments with
  | [] | [['-', 'p']] => showMarked "readonly" Variable.isReadOnly
  | names => mark (fun v => { v with isReadOnly := true }) names

def unsetCommand (arguments : List Text) : Act Nat := do
  let (ofFunctions, names) : Bool × List Text := match arguments with
    | ['-', 'f'] :: rest => (true, rest)
    | ['-', 'v'] :: rest => (false, rest)
    | rest => (false, rest)
  for name in names do
    if ofFunctions then
      modifyState fun s => { s with functions := s.functions.filter fun f => f.1 != name }
    else
      if !isName name then fail (name ++ ": bad variable name".toList)
      if ((← binding? name).map Variable.isReadOnly).getD false then
        fail (name ++ ": is read only".toList)
      putVariable name none
  return 0

def localCommand (arguments : List Text) : Act Nat := do
  match (← state).frames with
  | [] => fail "not in a function".toList
  | frame :: others =>
    let mut saved := frame
    for a in arguments do
      let (name, value) := assignmentOf a
      if !isName name then fail (name ++ ": bad variable name".toList)
      if !saved.any fun e => e.1 == name then saved := (name, ← binding? name) :: saved
      if let some v := value then setVariable name v
    modifyState fun s => { s with frames := saved :: others }
    return 0

def optionNames : List (Text × Char) :=
  [("errexit", 'e'), ("noglob", 'f'), ("ignoreeof", 'I'), ("interactive", 'i'), ("monitor", 'm'),
    ("noexec", 'n'), ("stdin", 's'), ("xtrace", 'x'), ("verbose", 'v'), ("vi", 'V'), ("emacs", 'E'),
    ("noclobber", 'C'), ("allexport", 'a'), ("notify", 'b'), ("nounset", 'u'), ("privileged", 'p'),
    ("nolog", 'l'), ("debug", 'd')].map fun e => (e.1.toList, e.2)

def setOption (letter : Char) (isOn : Bool) : Act Unit :=
  modifyState fun s =>
    let others := s.options.filter (· != letter)
    { s with options := if isOn then others ++ [letter] else others }

def showOptions (inWords : Bool) : Act Unit := do
  let options := (← state).options
  let isOn (c : Char) : Bool := options.contains c
  let lines := optionNames.map fun (name, c) =>
    if inWords then
      name ++ List.replicate (16 - name.length) ' ' ++ (if isOn c then "on" else "off").toList
    else "set ".toList ++ (if isOn c then "-o " else "+o ").toList ++ name
  let heading := if inWords then ["Current option settings".toList] else []
  let _ ← say ((heading ++ lines).flatMap (· ++ ['\n']))

/-- Reads options of the shell, and gives the arguments after them; nothing if there are none, not
even an end of options. -/
def shellOptions : List Text → Act (Option (List Text))
  | [] => return none
  | a :: rest => do
    match a with
    | ['-', '-'] => return some rest
    | ['-'] => return some rest
    | sign :: letters =>
      if (sign = '-' ∨ sign = '+') ∧ letters ≠ [] then
        if letters.getLast? = some 'o' then
          match rest with
          | name :: rest =>
            match optionNames.find? fun e => e.1 == name with
            | some (_, c) => setOption c (sign == '-')
            | none => fail ("Illegal option -o ".toList ++ name)
            for c in letters.dropLast do setOption c (sign == '-')
            return ((← shellOptions rest).or (if rest = [] then none else some rest))
          | [] =>
            showOptions (sign == '-')
            return none
        for c in letters do
          if !(optionNames.any fun e => e.2 == c) then
            fail ("Illegal option -".toList ++ [c])
          setOption c (sign == '-')
        match ← shellOptions rest with
        | some more => return some more
        | none => return if rest = [] then none else some rest
      else return some (a :: rest)
    | [] => return some (a :: rest)

def setCommand (arguments : List Text) : Act Nat := do
  match arguments with
  | [] =>
    let all := ((← state).bindings.filter fun e => e.2.value.isSome).mergeSort
      fun a b => Text.inOrder a.1 b.1
    say (all.flatMap fun e => e.1 ++ '=' :: quoted (e.2.value.getD []) ++ ['\n'])
  | arguments =>
    if let some parameters := ← shellOptions arguments then
      modifyState fun s => { s with parameters, nextOption := 1, optionOffset := none }
    return 0

def shiftCommand (arguments : List Text) : Act Nat := do
  let n ← match arguments with
    | [] => pure 1
    | a :: _ => numberArgument a
  let parameters := (← state).parameters
  if parameters.length < n then fail "can't shift that many".toList
  modifyState fun s => { s with parameters := parameters.drop n }
  return 0

def leaveLoops (halt : Nat → Halt) (arguments : List Text) : Act Nat := do
  let n ← match arguments with
    | [] => pure 1
    | a :: _ => numberArgument a
  if n = 0 then fail ("Illegal number: ".toList ++ arguments.headD [])
  let loops := (← state).loops
  if loops = 0 then return 0
  throw (halt (min n loops))

def exitCommand (arguments : List Text) : Act Nat := do
  match arguments with
  | [] => throw (.exit (← state).status)
  | a :: _ => throw (.exit ((← numberArgument a) % 256))

def returnCommand (arguments : List Text) : Act Nat := do
  match arguments with
  | [] => throw (.leaveFunction (← state).status)
  | a :: _ => throw (.leaveFunction (← numberArgument a))

def isOutside (name : Text) : Bool :=
  (Tool.ofName? name).isSome || ["sh", "dash", "bash", "env", "xargs", "timeout", "nice", "nohup",
    "setsid", "stdbuf", "test", "["].any fun t => t.toList == name

def isOutsidePath (path : Text) : Bool :=
  isOutside (Tool.lastPart path) &&
    ["/bin", "/usr/bin"].any fun d => d.toList == Tool.directoryPart path

def entry (s : State) (w : World) (path : Text) : Option FileEntry :=
  if path = [] then none
  else
    let full := Text.joinPath s.directory path
    if isOutsidePath full then some (.file ['\x7f'])
    else match w.files.resolve full with
      | .ok (_, found) => found
      | .error _ => none

def testCommand (name : Text) (arguments : List Text) : Act Nat := do
  let arguments ← if name = ['['] then
      if arguments.getLast? = some [']'] then pure arguments.dropLast
      else fail "missing ]".toList
    else pure arguments
  let m ← get
  match Condition.evaluate (entry m.state m.world) isOutsidePath (fun _ => false) (arguments.length + 1)
    arguments with
  | .ok b => return if b then 0 else 1
  | .error e => fail e.message

def printfCommand (arguments : List Text) : Act Nat := do
  let arguments ← match arguments with
    | ['-', '-'] :: rest => pure rest
    | ('-' :: c :: _) :: _ => fail ("Illegal option -".toList ++ [c])
    | arguments => pure arguments
  match arguments with
  | [] => fail "usage: printf format [arg ...]".toList
  | format :: arguments =>
    let p := Printout.ofFormat format arguments
    for message in p.complaints do complain message
    let status ← say p.printed
    return if p.isBroken then 2 else if p.complaints.isEmpty then status else 1

def directoryArguments : List Text → Act (List Text)
  | ['-', '-'] :: rest => return rest
  | ('-' :: c :: letters) :: rest =>
    match (c :: letters).find? fun l => l != 'L' && l != 'P' with
    | some l => fail ("Illegal option -".toList ++ [l])
    | none => directoryArguments rest
  | arguments => return arguments

def cdCommand (arguments : List Text) : Act Nat := do
  let s ← state
  let (path, isBack) : Text × Bool ← match ← directoryArguments arguments with
    | [] => pure ((← value? "HOME".toList).getD [], false)
    | [['-']] => pure ((← value? "OLDPWD".toList).getD [], true)
    | a :: _ => pure (a, false)
  match (← world).files.resolve (Text.joinPath s.directory path) with
  | .ok (place, some .directory) =>
    let new := if place = [] then ['/'] else place.flatMap ('/' :: ·)
    setVariable "OLDPWD".toList s.directory
    setVariable "PWD".toList new
    modifyState fun s => { s with directory := new }
    if isBack then say (new ++ ['\n']) else return 0
  | _ => fail ("can't cd to ".toList ++ path)

/-- Reads a line from the input, byte by byte. A backslash keeps the next byte from separating
words, and joins lines, unless `isRaw`. The bytes come with a mark for those that a backslash kept;
the second result tells that the line has an end. -/
def readLine (isRaw : Bool) : (fuel : Nat) → Text → List (Char × Bool) × Bool × Text
  | 0, s => ([], false, s)
  | _, [] => ([], false, [])
  | fuel + 1, c :: s =>
    if c = '\n' then ([], true, s)
    else if c = '\\' ∧ ¬ isRaw then
      match s with
      | [] => ([], false, [])
      | d :: s =>
        if d = '\n' then readLine isRaw fuel s
        else
          let (line, isEnded, rest) := readLine isRaw fuel s
          ((d, true) :: line, isEnded, rest)
    else
      let (line, isEnded, rest) := readLine isRaw fuel s
      (if c = '\x00' then line else (c, false) :: line, isEnded, rest)

/-- The values for a number of variables: a word each, and what is left for the last one. -/
def readFields (separators : Text) : (fields : Nat) → List (Char × Bool) → List Text
  | 0, _ => []
  | fields + 1, line =>
    let separates (c : Char × Bool) : Bool := !c.2 && separators.any (· == c.1)
    let isSpace (c : Char × Bool) : Bool :=
      separates c && (c.1 == ' ' || c.1 == '\t' || c.1 == '\n')
    let line := line.dropWhile isSpace
    let word := line.takeWhile fun c => !separates c
    let rest := line.drop word.length
    let rest' := rest.dropWhile isSpace
    let rest'' := match rest' with
      | c :: r => if separates c then r.dropWhile isSpace else rest'
      | [] => []
    if fields = 0 then
      let trimmed := (line.reverse.dropWhile isSpace).reverse
      if rest''.isEmpty then [word.map Prod.fst] else [trimmed.map Prod.fst]
    else word.map Prod.fst :: readFields separators fields rest''

def readCommand (arguments : List Text) : Act Nat := do
  let rec options (isRaw : Bool) : List Text → Act (Bool × List Text)
    | ['-', 'r'] :: rest => options true rest
    | ['-', 'p'] :: prompt :: rest => do
      let _ ← write 2 prompt
      options isRaw rest
    | ['-', '-'] :: rest => return (isRaw, rest)
    | ('-' :: c :: more) :: rest => do
      if c = 'r' ∧ more = [] then options true rest
      else fail ("Illegal option -".toList ++ [c])
    | rest => return (isRaw, rest)
  let (isRaw, names) ← options false arguments
  if names = [] then fail "arg count".toList
  for name in names do
    if !isName name then fail (name ++ ": bad variable name".toList)
  let separators ← separators
  match ← target? 0 with
  | some (.source n _) =>
    let s ← stream n
    let (line, isEnded, rest) := readLine isRaw (s.length + 1) s
    setStream n rest
    for (name, value) in names.zip (readFields separators names.length line ++
        List.replicate names.length []) do
      setVariable name value
    return if isEnded then 0 else 1
  | _ =>
    for name in names do setVariable name []
    return 1

def commandPath? (s : State) (name : Text) : Option Text :=
  if name.any (· == '/') then if isOutsidePath name then some name else none
  else
    let path := ((s.bindings.find? fun e => e.1 == "PATH".toList).bind fun e => e.2.value).getD []
    let places := Text.split ':' path
    if isOutside name then
      (["/usr/bin", "/bin"].map String.toList).find? (fun d => places.contains d) |>.map
        fun d => d ++ '/' :: name
    else none

def umaskCommand (arguments : List Text) : Act Nat :=
  match arguments with
  | [] => say "0022\n".toList
  | _ => return 0

def aliasLine (e : Text × Text) : Text :=
  e.1 ++ '=' :: quoted e.2

def describe (isLong : Bool) (name : Text) : Act Nat := do
  let s ← state
  let tell (what : Text) (short : Text) : Act Nat := do
    let _ ← say ((if isLong then name ++ " is ".toList ++ what else short) ++ ['\n'])
    return 0
  if (Keyword.all.find? fun k => k.text == name).isSome then tell "a shell keyword".toList name
  else if let some e := s.aliases.find? fun e => e.1 == name then
    tell ("an alias for ".toList ++ e.2) ("alias ".toList ++ aliasLine e)
  else if s.functions.any fun f => f.1 == name then tell "a shell function".toList name
  else if specialBuiltins.contains name then tell "a special shell builtin".toList name
  else if ordinaryBuiltins.contains name then tell "a shell builtin".toList name
  else match commandPath? s name with
    | some path => tell path path
    | none =>
      if isLong then
        let _ ← say (name ++ ": not found\n".toList)
      return 127

def typeCommand (arguments : List Text) : Act Nat := do
  let mut status := 0
  for name in arguments do
    let n ← describe true name
    if n ≠ 0 then status := n
  return status

/-- What is found when the next option of a list of arguments is looked for. -/
structure FoundOption where
  /-- The letter of the option, or a sign of what is wrong with it; nothing behind the last one. -/
  letter : Option Char := none
  value : Option Text := none
  complaint : Option Text := none
  /-- The next argument to look at, counted from one. -/
  next : Nat
  /-- How much of the argument before it has been read, if options may follow in it. -/
  offset : Option Nat := none

/-- Looks for the next option. A letter of `letters` with a colon behind it takes a value. -/
def findOption (letters : Text) (given : List Text) (next : Nat) (offset : Option Nat) :
    FoundOption :=
  let isQuiet := letters.head? = some ':'
  let left : Text :=
    if next ≤ 1 then [] else match offset with
      | some n => ((given[next - 2]?).getD []).drop n
      | none => []
  let option (next start : Nat) : Text → FoundOption
    | [] => { next }
    | c :: more =>
      let isKnown := c != ':' && letters.any (· == c)
      let takesValue := (letters.dropWhile (· != c))[1]? == some ':'
      let offset := some (start + 1)
      if !isKnown then
        { letter := some '?', next, offset
          value := if isQuiet then some [c] else none
          complaint := if isQuiet then none else some ("Illegal option -".toList ++ [c]) }
      else if takesValue then
        if more ≠ [] then { letter := some c, value := some more, next }
        else match given[next - 1]? with
          | some value => { letter := some c, value := some value, next := next + 1 }
          | none =>
            if isQuiet then { letter := some ':', value := some [c], next, offset }
            else
              { letter := some '?', next, offset
                complaint := some ("No arg for -".toList ++ c :: " option".toList) }
      else { letter := some c, value := some [], next, offset }
  if left ≠ [] then option next (offset.getD 0) left
  else match given[next - 1]? with
    | some ('-' :: c :: more) =>
      if c = '-' ∧ more = [] then { next := next + 1 } else option (next + 1) 1 (c :: more)
    | _ => { next }

def getoptsCommand (arguments : List Text) : Act Nat := do
  match arguments with
  | letters :: name :: more =>
    let s ← state
    let given := if more.isEmpty then s.parameters else more
    let isPast := given.length + 1 < s.nextOption
    let found := findOption letters given (if isPast then 1 else s.nextOption)
      (if isPast then none else s.optionOffset)
    if let some complaint := found.complaint then
      let _ ← write 2 (complaint ++ ['\n'])
    if found.letter.isSome then
      match found.value with
      | some value => setVariable "OPTARG".toList value
      | none => putVariable "OPTARG".toList none
    setVariable "OPTIND".toList (Text.ofNat found.next)
    setVariable name [found.letter.getD '?']
    modifyState fun s => { s with nextOption := found.next, optionOffset := found.offset }
    return if found.letter.isSome then 0 else 1
  | _ => fail "Usage: getopts optstring var [arg]".toList

def trapCommand (arguments : List Text) : Act Nat := do
  let arguments := if arguments.head? = some "--".toList then arguments.drop 1 else arguments
  match arguments with
  | [] =>
    say ((← state).traps.flatMap fun t => "trap -- ".toList ++ quoted t.2 ++ ' ' :: t.1 ++ ['\n'])
  | action :: names =>
    let (action, names) : Option Text × List Text :=
      if action = ['-'] then (none, names)
      else if names = [] ∨ (Text.digits? action).isSome then (none, action :: names)
      else (some action, names)
    let mut status := 0
    for name in names do
      match signal? name with
      | none =>
        complain (name ++ ": bad trap".toList)
        status := 1
      | some n =>
        let key := signalName n
        modifyState fun s =>
          let others := s.traps.filter fun t => t.1 != key
          { s with traps := match action with
            | some a => others ++ [(key, a)]
            | none => others }
    return status

def aliasRank (name : Text) : Nat :=
  (name.foldl (fun n c => n + c.toNat) ((name.headD '\x00').toNat * 16)) % 39

def aliasCommand (arguments : List Text) : Act Nat := do
  if arguments.isEmpty then
    let all := (← state).aliases.mergeSort fun a b => decide (aliasRank a.1 ≤ aliasRank b.1)
    say (all.flatMap fun e => aliasLine e ++ ['\n'])
  else
    let mut status := 0
    for a in arguments do
      match Text.cut? '=' (a.drop 1) with
      | some (rest, text) =>
        let name := a.take 1 ++ rest
        modifyState fun s => { s with
          aliases := if s.aliases.any fun e => e.1 == name then
              s.aliases.map fun e => if e.1 = name then (name, text) else e
            else s.aliases ++ [(name, text)] }
      | none =>
        match (← state).aliases.find? fun e => e.1 == a with
        | some e =>
          let _ ← say (aliasLine e ++ ['\n'])
        | none =>
          let _ ← write 2 ("alias: ".toList ++ a ++ " not found\n".toList)
          status := 1
    return status

def unaliasCommand (arguments : List Text) : Act Nat := do
  let mut status := 0
  for a in arguments do
    if a = "-a".toList then
      modifyState fun s => { s with aliases := [] }
      return 0
    if !(← state).aliases.any fun e => e.1 == a then
      let _ ← write 2 ("unalias: ".toList ++ a ++ " not found\n".toList)
      status := 1
    modifyState fun s => { s with aliases := s.aliases.filter fun e => e.1 != a }
  return status

def builtin? (name : Text) : Option (List Text → Act Nat) :=
  match String.ofList name with
  | ":" | "true" => some fun _ => return 0
  | "false" => some fun _ => return 1
  | "echo" => some fun arguments => say (echoText arguments)
  | "printf" => some printfCommand
  | "test" | "[" => some (testCommand name)
  | "export" => some exportCommand
  | "readonly" => some readonlyCommand
  | "unset" => some unsetCommand
  | "local" => some localCommand
  | "set" => some setCommand
  | "shift" => some shiftCommand
  | "break" => some (leaveLoops .leaveLoop)
  | "continue" => some (leaveLoops .nextRound)
  | "exit" => some exitCommand
  | "return" => some returnCommand
  | "cd" | "chdir" => some cdCommand
  | "pwd" => some fun _ => do say ((← state).directory ++ ['\n'])
  | "read" => some readCommand
  | "type" => some typeCommand
  | "umask" => some umaskCommand
  | "getopts" => some getoptsCommand
  | "trap" => some trapCommand
  | "times" => some fun _ => say "0m0.000000s 0m0.000000s\n0m0.000000s 0m0.000000s\n".toList
  | "ulimit" => some fun _ => say "unlimited\n".toList
  | "alias" => some aliasCommand
  | "unalias" => some unaliasCommand
  | "hash" | "jobs" | "bg" | "fg" => some fun _ => return 0
  | _ => none

end Act

end ProofDesk.Shell
