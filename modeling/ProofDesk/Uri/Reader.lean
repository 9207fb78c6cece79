import ProofDesk.Uri.Host
import ProofDesk.Uri.Path

namespace ProofDesk.Uri

/-- Without control characters and blanks at the ends, and without tabs and line ends inside. -/
def clean (s : Text) : Text :=
  let outer (c : Char) : Bool := c.toNat ≤ 0x20
  (((s.dropWhile outer).reverse.dropWhile outer).reverse).filter fun c =>
    c != '\t' && c != '\n' && c != '\r'

def scheme? (s : Text) : Option (Text × Text) :=
  match s with
  | [] => none
  | c :: _ =>
    if !isLetter c then none
    else
      let isPart (c : Char) : Bool :=
        isLetter c || c.isDigit || c == '+' || c == '-' || c == '.'
      match s.dropWhile isPart with
      | ':' :: rest => some ((s.takeWhile isPart).map Char.toLower, rest)
      | _ => none

/-- A text before its query or fragment, and these two. -/
structure Pieces where
  front : Text
  query : Option Text
  fragment : Option Text
deriving DecidableEq, Repr

def pieces (s : Text) : Pieces :=
  let (s, fragment) := match Text.cut? '#' s with
    | some (s, f) => (s, some f)
    | none => (s, none)
  match Text.cut? '?' s with
  | some (s, q) => ⟨s, some q, fragment⟩
  | none => ⟨s, none, fragment⟩

def Pieces.hasTail (p : Pieces) : Bool :=
  p.query.isSome || p.fragment.isSome

def withTail (u : Uri) (p : Pieces) : Uri :=
  { u with
    query := p.query.map (Percent.encode (Percent.inQuery (isSpecial u.scheme)))
    fragment := p.fragment.map (Percent.encode Percent.inFragment) }

def pathKind (scheme : Text) : Path.Kind :=
  ⟨isSpecial scheme, scheme == fileScheme⟩

/-- The service number at the start of a text, and the rest: none if there are no digits or it is
the scheme's own. -/
def service? (scheme s : Text) : Option (Option Nat × Text) :=
  let digits := s.takeWhile Char.isDigit
  let rest := s.dropWhile Char.isDigit
  if !(rest.head?).all (isSlash true) then none
  else if digits.isEmpty then some (none, rest)
  else
    match (Text.digits? digits).filter (· < 65536) with
    | none => none
    | some n => some (if usualService? scheme = some n then none else some n, rest)

/-- The host at the start of a text, up to a colon outside brackets, and the rest. -/
def cutHost (inBrackets : Bool) : Text → Text × Text
  | [] => ([], [])
  | c :: rest =>
    if c = ':' ∧ !inBrackets then ([], c :: rest)
    else
      let inBrackets := c == '[' || (inBrackets && c != ']')
      let (host, rest) := cutHost inBrackets rest
      (c :: host, rest)

def cutUser (s : Text) : Option Text × Text :=
  match Text.cut? '@' s.reverse with
  | none => (none, s)
  | some (server, user) => (some user.reverse, server.reverse)

/-- The authority at the start of a text, which ends with it or goes on with a slash, and the rest.
`hasTail` tells that a query or fragment follows the text. -/
def authority? (scheme : Text) (hasTail : Bool) (s : Text) : Option (Authority × Text) := do
  let special := isSpecial scheme
  let front := s.takeWhile fun c => !isSlash special c
  let behind := s.dropWhile fun c => !isSlash special c
  let (user, server) := cutUser front
  if user = some [] ∧ server.isEmpty ∧ (hasTail ∨ !behind.isEmpty) then none
  let user := user.getD []
  let (name, password) := (Text.cut? ':' user).getD (user, [])
  let (host, afterHost) := cutHost false server
  if host.isEmpty ∧ (special ∨ !afterHost.isEmpty ∨ !name.isEmpty ∨ !password.isEmpty) then none
  let host ← if special then Host.named? host else Host.opaque? host
  let (service, rest) ← match afterHost with
    | ':' :: s => service? scheme (s ++ behind)
    | s => some (none, s ++ behind)
  return (⟨Percent.encode Percent.inUserInfo name, Percent.encode Percent.inUserInfo password, host,
    service⟩, rest)

/-- The path of a URI with a host: a path of a special scheme is never empty. -/
def pathAfterHost (scheme s : Text) : Path.Reading :=
  let k := pathKind scheme
  match s with
  | [] => if k.special then Path.read k ['/'] [] else Path.read k [] []
  | c :: rest => if isSlash k.special c then Path.read k ['/'] rest else Path.read k ['/'] s

def ofAuthority? (scheme s : Text) : Option Uri := do
  let p := pieces s
  let (a, rest) ← authority? scheme p.hasTail p.front
  let u : Uri := { scheme, authority := some a, path := (pathAfterHost scheme rest).path }
  return u.withTail p

/-- The URI that a text without scheme names, seen from `base`, which is no file. Two slashes or
backslashes start an authority. -/
def relative? (base : Uri) (s : Text) : Option Uri :=
  let p := pieces s
  let k := pathKind base.scheme
  let ofPath (path s : Text) : Option Uri :=
    some ({ base with path := (Path.read k path s).path }.withTail p)
  match p.front with
  | [] => if p.query.isSome then some (base.withTail p)
    else some { base with fragment := p.fragment.map (Percent.encode Percent.inFragment) }
  | c :: rest =>
    if isSlash true c then
      match Text.after? "//".toList s with
      | some s => ofAuthority? base.scheme s
      | none =>
        if (rest.head?).any (isSlash true) then
          ofAuthority? base.scheme (s.dropWhile (isSlash true))
        else ofPath ['/'] rest
    else
      let path := Path.shorten k base.path
      ofPath (if path.isEmpty then ['/'] else path) p.front

/-- The URI of a file that a text with two slashes in front names. A drive is no host, and a drive at
the start of the path takes the place of the host. -/
def fileWithHost? (p : Pieces) (s : Text) : Option Uri :=
  let k := pathKind fileScheme
  let ofPath (host : Text) (r : Path.Reading) : Option Uri :=
    let authority : Authority := { host := if r.hasDrive then [] else host }
    some (({ scheme := fileScheme, authority, path := r.path } : Uri).withTail p)
  let name := s.takeWhile fun c => !isSlash true c
  let rest := s.dropWhile fun c => !isSlash true c
  if isDrive name then ofPath [] (Path.read k ['/'] s)
  else if name.isEmpty then ofPath [] (Path.read k ['/'] rest)
  else do
    let host ← Host.named? name
    if host = "localhost".toList then ofPath [] (Path.read k ['/'] rest)
    else ofPath host (pathAfterHost fileScheme rest)

/-- The URI of a file that a text with one slash in front names, seen from `base`: it keeps the drive
or else the host, unless it names a drive. -/
def fileFromRoot (base : Option Uri) (p : Pieces) : Uri :=
  let k := pathKind fileScheme
  let ofPath (a : Authority) (path : Text) : Uri :=
    let path := (Path.read k path p.front).path
    ({ scheme := fileScheme, authority := some a, path } : Uri).withTail p
  match base with
  | none => ofPath {} []
  | some u =>
    let first := Path.firstSegment u.path
    if startsWithDrive (p.front.drop 1) then ofPath {} []
    else if isNormalDrive first then ofPath {} ('/' :: first)
    else ofPath (u.authority.getD {}) []

def file? (base : Option Uri) (s : Text) : Option Uri :=
  let base := base.filter fun b => b.scheme == fileScheme
  let k := pathKind fileScheme
  let p := pieces s
  let ofPath (a : Authority) (path : Text) : Option Uri :=
    let path := (Path.read k path p.front).path
    some (({ scheme := fileScheme, authority := some a, path } : Uri).withTail p)
  match p.front with
  | [] =>
    match base with
    | none => ofPath {} ['/']
    | some u =>
      if p.query.isSome then some (u.withTail p)
      else some { u with fragment := p.fragment.map (Percent.encode Percent.inFragment) }
  | c :: rest =>
    if isSlash true c then
      match rest with
      | [] => some (fileFromRoot base p)
      | d :: s => if isSlash true d then fileWithHost? p s else some (fileFromRoot base p)
    else
      match base with
      | none => ofPath {} ['/']
      | some u =>
        if startsWithDrive p.front then ofPath {} ['/']
        else ofPath (u.authority.getD {}) (Path.shorten k u.path)

def absolute? (base : Option Uri) (scheme s : Text) : Option Uri :=
  if scheme = fileScheme then file? base s
  else if isSpecial scheme then
    let slashes := s.takeWhile (isSlash true)
    match base.filter fun b => b.scheme == scheme ∧ slashes.length < 2 with
    | some b => relative? b s
    | none => ofAuthority? scheme (s.dropWhile (isSlash true))
  else
    match Text.after? "//".toList s with
    | some s => ofAuthority? scheme s
    | none =>
      let p := pieces s
      match p.front with
      | '/' :: rest =>
        let path := (Path.read (pathKind scheme) ['/'] rest).path
        some (({ scheme, path } : Uri).withTail p)
      | front =>
        let path := Percent.encode Percent.inControl front
        some (({ scheme, path } : Uri).withTail p)

def readFrom? (base : Option Uri) (s : Text) : Option Uri :=
  let s := clean s
  match scheme? s with
  | some (scheme, rest) => absolute? base scheme rest
  | none =>
    match base with
    | none => none
    | some b =>
      match s with
      | '#' :: f => some { b with fragment := some (Percent.encode Percent.inFragment f) }
      | s =>
        if b.isOpaque then none
        else if b.scheme = fileScheme then file? (some b) s
        else relative? b s

def read? (s : Text) : Option Uri :=
  readFrom? none s

def join? (u : Uri) (s : Text) : Option Uri :=
  readFrom? (some u) s

end ProofDesk.Uri
