import ProofDesk.Shell.Reader

namespace ProofDesk.Shell

namespace Reader

section Grammar

variable (list : Extent → Reader Command)

def documentLines (d : AwaitedDocument) : (fuel : Nat) → Text → Text × Text
  | 0, s => ([], s)
  | fuel + 1, s =>
    if s = [] then ([], [])
    else
      let line := s.takeWhile (· != '\n')
      let rest := s.drop (line.length + 1)
      let line' := if d.dropsTabs then line.dropWhile (· == '\t') else line
      if line' = d.delimiter then ([], rest)
      else
        let ended := if line.length < s.length then line' ++ ['\n'] else line'
        let (lines, after) := documentLines d fuel rest
        (ended ++ lines, after)

/-- Reads the texts that are awaited, which start on a new line. -/
def readDocuments : List AwaitedDocument → Reader Unit
  | [] => return
  | d :: others => do
    let s ← get
    let (body, rest) := documentLines d (s.rest.length + 1) s.rest
    let word : Word ←
      if d.isVerbatim then pure [.text body true]
      else inside do
        modify fun s => { s with rest := body, replaced := [] }
        return (← parts list (body.length + 1) .document 0 false []).reverse
    modify fun t => { t with
      rest, line := s.line + (s.rest.take (s.rest.length - rest.length)).count '\n'
      documents := t.documents ++ [(d.number, word)], replaced := s.replaced }
    readDocuments others

def settleDocuments : Reader Unit := do
  let awaited := (← get).awaited
  modify fun s => { s with awaited := [] }
  readDocuments list awaited

def skipNewlines : (fuel : Nat) → Token → Reader Token
  | fuel + 1, .newline => do
    settleDocuments list
    skipNewlines fuel (← rawToken list)
  | _, t => return t

def unalias (keywords : Bool) : (fuel : Nat) → Token → Reader Token
  | fuel + 1, .word [.text name false] => do
    let s ← get
    let replaced := s.replaced.filter fun r => r.restLength ≤ s.rest.length
    match s.aliases.find? fun e => e.1 == name && !replaced.any fun r => r.name == name with
    | some (_, text) =>
      let endsBlank := text.getLast? == some ' ' || text.getLast? == some '\t'
      set { s with
        rest := text ++ s.rest, replaced := ⟨name, s.rest.length, endsBlank⟩ :: replaced }
      let t ← rawToken list
      unalias keywords fuel (if keywords then t.promote else t)
    | none => return .word [.text name false]
  | _, t => return t

/-- The next token; `acrossLines` drops line ends before it, and `keywords` tells that a keyword may
stand there. -/
def next (acrossLines keywords : Bool) : Reader Token := do
  let s ← get
  let t ← if s.isHeld then pure s.last else rawToken list
  modify fun s => { s with isHeld := false }
  let t ← if acrossLines then skipNewlines list ((← get).rest.length + 2) t else pure t
  let t ← if keywords then
      let t := t.promote
      if s.isHeld then pure t else unalias list true (s.aliases.length + 1) t
    else pure t
  modify fun s => { s with last := t }
  return t

def hold : Reader Unit :=
  modify fun s => { s with isHeld := true }

def refuse {α : Type} (wanted : Option Token) : Reader α := do
  fail (.unexpected (← get).last.describe (wanted.map Token.describe))

def expectKeyword (acrossLines : Bool) (k : Keyword) : Reader Unit := do
  if !(← next list acrossLines true).isKeyword k then refuse (some (.keyword k))

def plainText (w : Word) : Text :=
  w.flatMap fun
    | .text s _ => s
    | .value name _ _ _ => '$' :: name
    | _ => []

def hasQuote (w : Word) : Bool :=
  w.any fun
    | .text _ q | .value _ _ _ q | .output _ q | .number _ q => q

def redirection (descriptor : Nat) (sign : RedirectionSign) : Reader Redirection := do
  match ← next list false false with
  | .word w =>
    match sign with
    | .file opening => return .file descriptor opening w
    | .copy => return .copy descriptor w
    | .document dropsTabs =>
      let number := (← get).nextDocument
      modify fun s => { s with
        nextDocument := number + 1
        awaited := s.awaited ++ [⟨number, plainText w, hasQuote w, dropsTabs⟩] }
      return .document descriptor number
  | _ => refuse none

def redirections : (fuel : Nat) → Reader (List Redirection)
  | 0 => return []
  | fuel + 1 => do
    match ← next list false true with
    | .redirection d sign =>
      let r ← redirection list d sign
      return r :: (← redirections fuel)
    | _ =>
      hold
      return []

def name? : Word → Option Text
  | [.text s false] => if isName s then some s else none
  | _ => none

def reserved : List Text :=
  [".", ":", "break", "continue", "eval", "exec", "exit", "export", "readonly", "return", "set",
    "shift", "times", "trap", "unset"].map String.toList

/-- A command in the making. -/
structure SimpleDraft where
  assignments : List (Text × Word) := []
  words : List Word := []
  redirections : List Redirection := []

/-- A simple command, or the definition of a function, whose body `command` reads. -/
def simple (command : Reader Command) (line : Nat) : (fuel : Nat) → SimpleDraft → Reader Command
  | 0, _ => fail .tooDeep
  | fuel + 1, d => do
    let finish : Reader Command := do
      hold
      return .simple line d.assignments d.words d.redirections
    let s ← get
    let t ← next list false false
    let left := (← get).rest.length
    let isBehindBlank := s.replaced.any fun r =>
      r.endsBlank && left < r.restLength && r.restLength ≤ s.rest.length
    let isFirst := d.words.isEmpty && !d.assignments.isEmpty
    let t ←
      if isBehindBlank || isFirst then unalias list false (s.aliases.length + 1) t else pure t
    modify fun s => { s with last := t }
    match t with
    | .word w =>
      match if d.words.isEmpty then assignment? w else none with
      | some a => simple command line fuel { d with assignments := d.assignments ++ [a] }
      | none => simple command line fuel { d with words := d.words ++ [w] }
    | .redirection n sign =>
      let r ← redirection list n sign
      simple command line fuel { d with redirections := d.redirections ++ [r] }
    | .opening =>
      match d with
      | ⟨[], [w], []⟩ =>
        match ← next list false false with
        | .closing =>
          match name? w with
          | some name =>
            if reserved.contains name then fail .badFunctionName
            let t ← next list true true
            modify fun s => { s with last := t, isHeld := true }
            return .definition name (← command)
          | none => fail .badFunctionName
        | _ => refuse (some .closing)
      | _ => finish
    | _ => finish

def loopWords : (fuel : Nat) → Reader (List Word)
  | 0 => fail .tooDeep
  | fuel + 1 => do
    match ← next list false false with
    | .word w => return w :: (← loopWords fuel)
    | .newline | .semicolon => return []
    | _ => refuse none

/-- The further tests of a condition, and what is left if none succeeds. -/
def branches : (fuel : Nat) → Reader Command
  | 0 => fail .tooDeep
  | fuel + 1 => do
    let t ← next list false false
    if t.isKeyword .elifWord then
      let test ← list .some
      expectKeyword list false .thenWord
      let success ← list .some
      return .branch test success (← branches fuel)
    else if t.isKeyword .elseWord then list .some
    else
      hold
      return .nothing

def tokenWord : Token → Word
  | .word w => w
  | .keyword k => [.text k.text false]
  | _ => []

/-- The patterns of a case; the first token of the first one has been read. -/
def patterns (first : Token) : (fuel : Nat) → Reader (List Word)
  | 0 => fail .tooDeep
  | fuel + 1 => do
    match ← next list false false with
    | .pipe =>
      let second ← next list false false
      return tokenWord first :: (← patterns second fuel)
    | .closing => return [tokenWord first]
    | _ => refuse (some .closing)

def cases : (fuel : Nat) → Reader (List (List Word × Command))
  | 0 => fail .tooDeep
  | fuel + 1 => do
    let t ← next list true true
    if t.isKeyword .esacWord then return []
    let first ← match t with
      | .opening => next list false false
      | t => pure t
    let patterns ← patterns list first ((← get).rest.length + 1)
    let body ← list .any
    let t ← next list true true
    if t.isKeyword .esacWord then return [(patterns, body)]
    match t with
    | .caseEnd => return (patterns, body) :: (← cases fuel)
    | _ => refuse (some .caseEnd)

def eachLoop (line : Nat) : Reader Command := do
  let name ← match ← next list false false with
    | .word w =>
      match name? w with
      | some name => pure name
      | none => fail .badLoopVariable
    | _ => fail .badLoopVariable
  let t ← next list true true
  let words ←
    if t.isKeyword .inWord then pure (some (← loopWords list ((← get).rest.length + 1)))
    else
      match t with
      | .semicolon => pure ()
      | _ => hold
      pure none
  expectKeyword list true .doWord
  return .each line name words (← list .some)

def choice (line : Nat) : Reader Command := do
  match ← next list false false with
  | .word w =>
    expectKeyword list true .inWord
    return .choice line w (← cases list ((← get).rest.length + 1))
  | _ => refuse (some (.word []))

def command : (fuel : Nat) → Reader Command
  | 0 => fail .tooDeep
  | fuel + 1 => do
    let line := (← get).line
    let ending (c : Command) (t : Token) : Reader Command := do
      match ← next list false true with
      | found =>
        if found.describe ≠ t.describe then refuse (some t)
        return c
    let compound : Option Command ← match ← next list false true with
      | .keyword .ifWord =>
        let test ← list .some
        expectKeyword list false .thenWord
        let success ← list .some
        let failure ← branches list ((← get).rest.length + 1)
        some <$> ending (.branch test success failure) (.keyword .fiWord)
      | .keyword .whileWord =>
        let test ← list .some
        expectKeyword list false .doWord
        some <$> ending (.loop false test (← list .some)) (.keyword .doneWord)
      | .keyword .untilWord =>
        let test ← list .some
        expectKeyword list false .doWord
        some <$> ending (.loop true test (← list .some)) (.keyword .doneWord)
      | .keyword .forWord =>
        some <$> ending (← eachLoop list line) (.keyword .doneWord)
      | .keyword .caseWord => some <$> choice list line
      | .opening =>
        let c ← list .some
        some <$> ending (.subshell line c []) .closing
      | .keyword .opening => some <$> ending (← list .some) (.keyword .closing)
      | .word _ | .redirection _ _ => hold; pure none
      | _ => refuse none
    match compound with
    | none => simple list (command fuel) (← get).line ((← get).rest.length + 2) {}
    | some c =>
      match ← redirections list ((← get).rest.length + 1) with
      | [] => return c
      | rs =>
        match c with
        | .subshell line c _ => return .subshell line c rs
        | c => return .redirected line c rs

def pipes : (fuel : Nat) → Reader (List Command)
  | 0 => fail .tooDeep
  | fuel + 1 => do
    match ← next list false false with
    | .pipe =>
      let t ← next list true true
      modify fun s => { s with last := t, isHeld := true }
      let c ← command list ((← get).rest.length + 1)
      return c :: (← pipes fuel)
    | _ =>
      hold
      return []

def pipeline : Reader Command := do
  let isNegated := (← next list false true).isKeyword .not
  if isNegated then
    let t ← next list false true
    modify fun s => { s with last := t }
  hold
  let first ← command list ((← get).rest.length + 1)
  let c ← match ← pipes list ((← get).rest.length + 1) with
    | [] => pure first
    | others => pure (Command.pipeline (first :: others))
  return if isNegated then .negation c else c

def conditions : (fuel : Nat) → Command → Reader Command
  | 0, _ => fail .tooDeep
  | fuel + 1, first => do
    let second : Reader Command := do
      let t ← next list true true
      modify fun s => { s with last := t, isHeld := true }
      pipeline list
    match ← next list false false with
    | .both => conditions fuel (.both first (← second))
    | .either => conditions fuel (.either first (← second))
    | _ =>
      hold
      return first

def after (done : Option Command) (c : Command) : Command :=
  match done with
  | none => c
  | some first => .sequence first c

def commands (extent : Extent) : (fuel : Nat) → (done : Option Command) → Reader Command
  | 0, _ => fail .tooDeep
  | fuel + 1, done => do
    let t ← next list (extent != .line) true
    match t with
    | .newline =>
      settleDocuments list
      return done.getD .nothing
    | .stop =>
      settleDocuments list
      hold
      return done.getD .nothing
    | _ =>
      hold
      if t.endsList && extent != .line && (extent == .any || done.isSome) then
        return done.getD .nothing
      let c ← conditions list ((← get).rest.length + 2) (← pipeline list)
      match ← next list false false with
      | .ampersand => commands extent fuel (some (after done (.background c)))
      | .semicolon => commands extent fuel (some (after done c))
      | .newline =>
        hold
        commands extent fuel (some (after done c))
      | .stop =>
        settleDocuments list
        hold
        return after done c
      | _ =>
        if extent == .line then refuse none
        hold
        return after done c

end Grammar

def list : (depth : Nat) → Extent → Reader Command
  | 0, _ => fail .tooDeep
  | depth + 1, .enclosed => do
    let c ← commands (list depth) .any ((← get).rest.length + 2) none
    match ← next (list depth) false false with
    | .closing => return c
    | _ => refuse (some .closing)
  | depth + 1, extent => do
    commands (list depth) extent ((← get).rest.length + 2) none

/-- The commands of the next line that has any; nothing at the end of the script. -/
def nextLine : (fuel : Nat) → Reader (Option Command)
  | 0 => return none
  | fuel + 1 => do
    let s ← get
    if s.rest = [] then return none
    set { s with isHeld := false, awaited := [] }
    match ← list (s.rest.length + 1) .line with
    | .nothing => nextLine fuel
    | c => return some c

end Reader

def Source.next (s : Source) : Except Fault (Option Command × Source) :=
  (Reader.nextLine (s.rest.length + 1)).run s

end ProofDesk.Shell
