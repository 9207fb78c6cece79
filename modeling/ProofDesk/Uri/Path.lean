import ProofDesk.Uri.Encoding

namespace ProofDesk.Uri

def isLetter (c : Char) : Bool :=
  ('a' ≤ c && c ≤ 'z') || ('A' ≤ c && c ≤ 'Z')

def isSlash (special : Bool) (c : Char) : Bool :=
  c == '/' || (special && c == '\\')

def isSingleDot (s : Text) : Bool :=
  [".", "%2e"].any fun d => d.toList == s.map Char.toLower

def isDoubleDot (s : Text) : Bool :=
  ["..", ".%2e", "%2e.", "%2e%2e"].any fun d => d.toList == s.map Char.toLower

def isDrive (s : Text) : Bool :=
  match s with
  | [c, d] => isLetter c && (d == ':' || d == '|')
  | _ => false

def isNormalDrive (s : Text) : Bool :=
  isDrive s && s.getLast? == some ':'

def startsWithDrive (s : Text) : Bool :=
  isDrive (s.take 2) && (s[2]?).all (isSlash true)

namespace Path

/-- What a path belongs to: a URI of a special scheme, and among these a file. -/
structure Kind where
  special : Bool
  file : Bool

def lastSegment (path : Text) : Text :=
  (path.reverse.takeWhile (· != '/')).reverse

/-- The path without its last segment, up to and with the slash before it; the drive of a file
stays. -/
def shorten (k : Kind) (path : Text) : Text :=
  let last := lastSegment path
  if k.file && isNormalDrive last then path else path.take (path.length - last.length)

/-- The path without the segment above the slash at its end, which may be the segment's own end; the
segment stays if it is a drive or if there is none. -/
def up (k : Kind) (path : Text) : Text :=
  let path :=
    if path.getLast? = some '/' ∧ path.dropLast.contains '/'
        ∧ !startsWithDrive (lastSegment path.dropLast ++ ['/']) then path.dropLast
    else path
  shorten k path

def close (path : Text) : Text :=
  if path.getLast? = some '/' then path else path ++ ['/']

/-- A path in the making. A drive at its start takes the place of a host. -/
structure Reading where
  path : Text
  hasDrive : Bool := false
deriving DecidableEq, Repr

namespace Reading

def add (k : Kind) (r : Reading) (segment : Text) (isClosed : Bool) : Reading :=
  let path :=
    if k.file && !segment.isEmpty && isNormalDrive (r.path.drop 1) then r.path ++ ['/']
    else r.path
  let segment := Percent.encode Percent.inPath segment
  let slash := if isClosed then ['/'] else []
  if isDoubleDot segment then
    { r with path := if isClosed then close (up k path) else up k path }
  else if isSingleDot segment then { r with path := close path }
  else if k.file && path.length == 1 && isDrive segment then
    ⟨path ++ segment.take 1 ++ [':'] ++ slash, true⟩
  else { r with path := path ++ segment ++ slash }

/-- Adds the segments of a text; `segment` is the one in the making, last character first. -/
def addText (k : Kind) (r : Reading) (segment : Text) : Text → Reading
  | [] => r.add k segment.reverse false
  | c :: rest =>
    if isSlash k.special c then (r.add k segment.reverse true).addText k [] rest
    else r.addText k (c :: segment) rest

end Reading

def read (k : Kind) (path s : Text) : Reading :=
  let r := Reading.addText k ⟨path, false⟩ [] s
  if k.file then { r with path := '/' :: r.path.dropWhile (· == '/') } else r

def firstSegment (path : Text) : Text :=
  (path.drop 1).takeWhile (· != '/')

end Path

end ProofDesk.Uri
