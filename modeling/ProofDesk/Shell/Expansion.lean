import ProofDesk.Shell.Arithmetic
import ProofDesk.Shell.Machine
import ProofDesk.Shell.Pattern

namespace ProofDesk.Shell

/-- A piece of an expanded word. -/
inductive Piece where
  | glyph (g : Glyph) (splits : Bool)
  | border (joint : Text)
  | mark
deriving DecidableEq, Repr

namespace Piece

def ofText (s : Text) (quoted splits : Bool) : List Piece :=
  s.map fun c => .glyph ⟨c, quoted⟩ splits

def glyphs (pieces : List Piece) : List Glyph :=
  pieces.flatMap fun
    | .glyph g _ => [g]
    | .border joint => joint.map fun c => ⟨c, true⟩
    | .mark => []

def text (pieces : List Piece) : Text :=
  (glyphs pieces).map Glyph.char

/-- A state of cutting pieces into words. -/
inductive Cut where
  | outside
  | behind
  | inside (word : List Glyph)

/-- Cuts pieces into words. Blanks among the separators count once; each other separator ends a
word, which may be empty. -/
def cut (separators : Text) : Cut → List Piece → List (List Glyph)
  | .inside word, [] => [word.reverse]
  | _, [] => []
  | c, .glyph g splits :: rest =>
    let word := match c with
      | .inside word => word
      | _ => []
    if splits && separators.contains [g.char] then
      if g.char = ' ' ∨ g.char = '\t' ∨ g.char = '\n' then
        match c with
        | .inside word => word.reverse :: cut separators .behind rest
        | c => cut separators c rest
      else
        match c with
        | .behind => cut separators .outside rest
        | _ => word.reverse :: cut separators .outside rest
    else cut separators (.inside (g :: word)) rest
  | .inside word, .mark :: rest => cut separators (.inside word) rest
  | _, .mark :: rest => cut separators (.inside []) rest
  | .inside word, .border _ :: rest => word.reverse :: cut separators .outside rest
  | _, .border _ :: rest => cut separators .outside rest

end Piece

namespace Act

def everyParameter (isJoined quoted : Bool) : Act (List Piece) := do
  let parameters := (← state).parameters
  let firstSeparator := (← separators).take 1
  let joint := if isJoined then firstSeparator else [' ']
  if parameters.isEmpty then return if isJoined && quoted then [.mark] else []
  if isJoined && quoted then
    return .mark :: Piece.ofText (Text.join joint parameters) true false
  let each := parameters.map fun p =>
    (if quoted then [Piece.mark] else []) ++ Piece.ofText p quoted (!quoted)
  match each with
  | [] => return []
  | first :: others => return first ++ others.flatMap fun p => .border joint :: p

def parameter? (name : Text) : Act (Option Text) := do
  let s ← state
  let firstSeparator := (← separators).take 1
  match name with
  | ['#'] => return some (Text.ofNat s.parameters.length)
  | ['?'] => return some (Text.ofNat s.status)
  | ['$'] => return some (Text.ofNat s.process)
  | ['!'] => return s.background.map Text.ofNat
  | ['-'] => return some s.options
  | ['@'] | ['*'] =>
    return if s.parameters.isEmpty then none
    else some (Text.join (if name = ['@'] then [' '] else firstSeparator) s.parameters)
  | c :: _ =>
    if c.isDigit then
      let n := (Text.digits? name).getD 0
      return if n = 0 then some s.name else s.parameters[n - 1]?
    else value? name
  | [] => return none

def number (expression : Text) : Act Int := do
  let s ← state
  let lookup (name : Text) : Option Text :=
    ((s.bindings.find? fun e => e.1 == name).map Prod.snd).bind Variable.value
  match Arithmetic.evaluate lookup expression with
  | .error m => fail (m.message expression)
  | .ok (n, assigned) =>
    for (name, value) in assigned do
      setVariable name (Text.ofInt value)
    return n

def homeOf? (user : Text) : Act (Option Text) := do
  if user = [] then value? "HOME".toList
  else return if user = "root".toList then some "/root".toList else none

/-- A tilde at the start of a word stands for the home directory, up to the next of `ends`; nothing
that is quoted or put in may stand before that end. -/
def expandTilde (ends : Text) (w : Word) : Act Word := do
  match w with
  | .text ('~' :: s) false :: rest =>
    let user := s.takeWhile fun c => !ends.any (· == c)
    if user.length = s.length ∧ ¬ rest.isEmpty then return w
    match ← homeOf? user with
    | some home => return .text home true :: .text (s.drop user.length) false :: rest
    | none => return w
  | w => return w

def splitColons : Word → List Word
  | [] => [[]]
  | part :: rest =>
    let later := splitColons rest
    let (first, others) := (later.headD [], later.drop 1)
    match part with
    | .text s false =>
      let cut := Text.split ':' s
      (cut.dropLast.map fun t => [.text (t ++ [':']) false]) ++
        (.text (cut.getLastD []) false :: first) :: others
    | part => (part :: first) :: others

def wordEnds : Text := ['/']

def valueEnds : Text := ['/', ':']

def expandTildes (ends : Text) (w : Word) : Act Word := do
  if ends.any (· == ':') then
    return (← (splitColons w).mapM (expandTilde ends)).flatten
  expandTilde ends w

section Words

variable (output : Command → Act Text)

def tidyOutput (s : Text) : Text :=
  ((s.filter (· != '\x00')).reverse.dropWhile (· == '\n')).reverse

/-- The pieces of a word; `output` gives what a command writes. With `splitsText`, also text that
stands in the word may separate words; `ends` are the characters up to which a tilde has its meaning. -/
def pieces : (fuel : Nat) → (splitsText : Bool) → (ends : Text) → Word → Act (List Piece)
  | 0, _, _, _ => return []
  | _ + 1, _, _, [] => return []
  | fuel + 1, splitsText, ends, part :: rest => do
    let here ← match part with
      | .text s quoted =>
        pure ((if quoted then [Piece.mark] else []) ++ Piece.ofText s quoted (splitsText && !quoted))
      | .output c quoted =>
        let s := tidyOutput (← output c)
        pure ((if quoted then [Piece.mark] else []) ++ Piece.ofText s quoted (!quoted))
      | .number e quoted =>
        let n ← number (Piece.text (← pieces fuel false ends e))
        pure ((if quoted then [Piece.mark] else []) ++
          Piece.ofText (Text.ofInt n) quoted (!quoted))
      | .value name treatment argument quoted =>
        let shown (s : Text) : List Piece :=
          (if quoted then [Piece.mark] else []) ++ Piece.ofText s quoted (!quoted)
        let isEvery := name == ['@'] || name == ['*']
        let argument ← if quoted then pure argument else expandTildes ends argument
        let asIs (value : Option Text) : Act (List Piece) := do
          if isEvery then everyParameter (name == ['*']) quoted
          else return shown (value.getD [])
        match treatment with
        | .unknown => fail "Bad substitution".toList
        | .fallback kind orEmpty =>
          let value ← parameter? name
          let isThere := match value with
            | some s => !(orEmpty && s.isEmpty)
            | none => false
          match kind with
          | .default =>
            if isThere then asIs value else pieces fuel (!quoted) ends argument
          | .presence =>
            if isThere then pieces fuel (!quoted) ends argument
            else pure (if quoted then [Piece.mark] else [])
          | .assign =>
            if isThere then asIs value
            else
              if !isName name then fail (name ++ ": bad variable name".toList)
              let s := Piece.text (← pieces fuel false ends argument)
              setVariable name s
              pure (shown s)
          | .complain =>
            if isThere then asIs value
            else
              let s := Piece.text (← pieces fuel false ends argument)
              let message := if argument.isEmpty then
                  "parameter not set".toList ++ (if orEmpty then " or null".toList else [])
                else s
              fail (name ++ ": ".toList ++ message)
        | t =>
          let value ← parameter? name
          if value.isNone && !isEvery && (← hasOption 'u') then
            fail (name ++ ": parameter not set".toList)
          match t with
          | .length => pure (shown (Text.ofNat (value.getD []).length))
          | .trimmed atEnd longest =>
            let p := Pattern.ofWord (Piece.glyphs (← pieces fuel false ends argument))
            let trim (s : Text) : Text :=
              if atEnd then p.trimEnd longest s else p.trimStart longest s
            pure (shown (trim (value.getD [])))
          | _ => asIs value
    return here ++ (← pieces (fuel + 1) splitsText ends rest)
termination_by fuel _ _ w => (fuel, w)

def depth : Nat := 200

def wordPieces (ends : Text) (w : Word) : Act (List Piece) := do
  pieces output depth false ends (← expandTildes ends w)

def wordText (w : Word) : Act Text := do
  return Piece.text (← wordPieces output wordEnds w)

def assignedText (w : Word) : Act Text := do
  return Piece.text (← wordPieces output valueEnds w)

def wordPattern (w : Word) : Act Pattern := do
  return Pattern.ofWord (Piece.glyphs (← wordPieces output wordEnds w))

def fitting (f : Files) (place : Place) (segment : List Glyph) : List Text :=
  let p := Pattern.ofWord segment
  let isHidden := (segment.head?.map Glyph.char) == some '.'
  let names := f.entries.filterMap fun e =>
    if e.1.dropLast == place then e.1.getLast? else none
  (names.filter fun n => p.fitsAll n && (isHidden || n.head? != some '.')).mergeSort
    Text.inOrder

def matchingPaths (f : Files) : (segments : List (List Glyph)) → (written : Text) → Place → List Text
  | [], written, _ => [written]
  | [segment], written, place =>
    if isPattern segment then (fitting f place segment).map (written ++ ·)
    else
      let name := segment.map Glyph.char
      if name = [] then [written]
      else if (f.entry? (place ++ [name])).isSome then [written ++ name] else []
  | segment :: rest, written, place =>
    if isPattern segment then
      (fitting f place segment).flatMap fun n =>
        if f.entry? (place ++ [n]) = some .directory then
          matchingPaths f rest (written ++ n ++ ['/']) (place ++ [n])
        else []
    else
      let name := segment.map Glyph.char
      let place' := if name = [] then place else place ++ [name]
      matchingPaths f rest (written ++ name ++ ['/']) place'

def splitGlyphs : List Glyph → List (List Glyph)
  | [] => [[]]
  | g :: rest =>
    if g.char = '/' then [] :: splitGlyphs rest
    else match splitGlyphs rest with
      | [] => [[g]]
      | first :: others => (g :: first) :: others

def paths (w : List Glyph) : Act (List Text) := do
  let text := w.map Glyph.char
  if !isPattern w || (← hasOption 'f') then return [text]
  let f := (← world).files
  let directory := Files.place (← state).directory
  let segments := splitGlyphs w
  let found := match segments with
    | [] :: rest => matchingPaths f rest ['/'] []
    | segments => matchingPaths f segments [] directory
  return if found.isEmpty then [text] else found

def wordFields (w : Word) : Act (List Text) := do
  let mut all : List Text := []
  for glyphs in Piece.cut (← separators) .outside (← wordPieces output wordEnds w) do
    all := all ++ (← paths glyphs)
  return all

def fields (words : List Word) : Act (List Text) := do
  return (← words.mapM (wordFields output)).flatten

def declaring : List Text :=
  ["alias", "export", "local", "readonly"].map String.toList

/-- The texts that the words of a command stand for. After the name of a command whose arguments are
assignments, the value of an assignment is not cut. -/
def commandFields : (done : List Text) → List Word → Act (List Text)
  | done, [] => return done
  | done, w :: rest => do
    let declares := match done.dropWhile fun a => a == "command".toList || a == "-p".toList with
      | name :: _ => declaring.contains name
      | [] => false
    let found ← match if declares then assignment? w else none with
      | some (name, value) => do pure [name ++ '=' :: (← assignedText output value)]
      | none => wordFields output w
    commandFields (done ++ found) rest

end Words

end Act

end ProofDesk.Shell
