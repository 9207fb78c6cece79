import ProofDesk.Files.Path
import ProofDesk.Text.Range

namespace ProofDesk

/-- Why a path does not lead to where it is wanted. -/
inductive FileFailure where
  | missing
  | taken
  | notDirectory
  | isDirectory
  | notEmpty
  | tooLong
  | nullCharacter
deriving DecidableEq, Repr

namespace FileFailure

def wording : FileFailure → String
  | missing => "No such file or directory"
  | taken => "File exists"
  | notDirectory => "Not a directory"
  | isDirectory => "Is a directory"
  | notEmpty => "Directory not empty"
  | tooLong => "File name too long"
  | nullCharacter => "file name contained an unexpected NUL byte"

def number? : FileFailure → Option Nat
  | missing => some 2
  | taken => some 17
  | notDirectory => some 20
  | isDirectory => some 21
  | notEmpty => some 39
  | tooLong => some 36
  | nullCharacter => none

def message (failure : FileFailure) : Text :=
  failure.wording.toList ++ match failure.number? with
    | some n => " (os error ".toList ++ Text.ofNat n ++ [')']
    | none => []

end FileFailure

inductive FileEntry where
  | directory
  | file (text : Text)
  | sink
deriving DecidableEq, Repr

abbrev Place := List Text

structure Files where
  entries : List (Place × FileEntry) := []
deriving DecidableEq, Repr

namespace Files

def nameLimit : Nat := 255

def pathLimit : Nat := 4096

def place (path : Text) : Place :=
  Text.pathNames path

def usual : Files :=
  ⟨(["bin", "dev", "etc", "home", "lib", "mnt", "opt", "proc", "root", "run", "sbin", "srv", "sys",
    "tmp", "usr", "var"].map fun name => ([name.toList], .directory)) ++
    (["bin", "games", "include", "lib", "local", "sbin", "share", "src"].map fun name =>
      (["usr".toList, name.toList], .directory)) ++
    (["backups", "cache", "lib", "local", "log", "mail", "opt", "spool", "tmp"].map fun name =>
      (["var".toList, name.toList], .directory)) ++
    [(["dev".toList, "null".toList], .sink)] ++
    (["passwd", "group", "hosts", "hostname"].map fun name =>
      (["etc".toList, name.toList], .file []))⟩

def entry? (f : Files) (place : Place) : Option FileEntry :=
  if place = [] then some .directory
  else (f.entries.find? fun e => e.1 == place).map Prod.snd

def put (f : Files) (place : Place) (entry : FileEntry) : Files :=
  ⟨(f.entries.filter fun e => e.1 != place) ++ [(place, entry)]⟩

def addDirectory (f : Files) (place : Place) : Files :=
  (List.range place.length).foldl (fun f n =>
    let above := place.take (n + 1)
    if (f.entry? above).isSome then f else f.put above .directory) f

def erase (f : Files) (place : Place) : Files :=
  ⟨f.entries.filter fun e => e.1 != place⟩

def segments (path : Text) : List Text :=
  (Text.split '/' path).filter (· != [])

/-- Where a path leads to that starts at a directory: the place, which may be free if it is the last
one on the way. -/
def follow (f : Files) : Place → List Text → Except FileFailure (Place × Option FileEntry)
  | base, [] => .ok (base, some .directory)
  | base, segment :: rest =>
    if segment = ['.'] then follow f base rest
    else if segment = ['.', '.'] then follow f base.dropLast rest
    else if nameLimit < Text.bytes segment then .error .tooLong
    else
      let place := base ++ [segment]
      match f.entry? place with
      | some .directory => follow f place rest
      | some entry => if rest = [] then .ok (place, some entry) else .error .notDirectory
      | none => if rest = [] then .ok (place, none) else .error .missing

def vet (path : Text) : Except FileFailure Unit :=
  if path.any (· == '\x00') then .error .nullCharacter
  else if path = [] then .error .missing
  else if pathLimit ≤ Text.bytes path then .error .tooLong
  else .ok ()

def resolve (f : Files) (path : Text) : Except FileFailure (Place × Option FileEntry) := do
  vet path
  let found ← f.follow [] (segments path)
  if path.getLast? = some '/' then
    match found.2 with
    | some .directory => return found
    | some _ => throw .notDirectory
    | none => throw .missing
  return found

def isDirectory (f : Files) (path : Text) : Bool :=
  match f.resolve path with
  | .ok (_, some .directory) => true
  | _ => false

def makeDirectory (f : Files) (path : Text) : Except FileFailure Files := do
  vet path
  match ← f.follow [] (segments path) with
  | (_, some _) => throw .taken
  | (place, none) => return f.put place .directory

/-- Makes a directory and those above it that are missing, the topmost first; directories that have
been made stay also when a later one cannot be made. The path is given with all the paths above it,
the longest first. -/
def makeDirectories (f : Files) : List Text → Option FileFailure × Files
  | [] => (none, f)
  | path :: above =>
    match f.makeDirectory path with
    | .ok f => (none, f)
    | .error .missing =>
      match makeDirectories f above with
      | (some failure, f) => (some failure, f)
      | (none, f) =>
        match f.makeDirectory path with
        | .ok f => (none, f)
        | .error failure => (if f.isDirectory path then none else some failure, f)
    | .error failure => (if f.isDirectory path then none else some failure, f)

def lineage : (parts : Nat) → Text → List Text
  | 0, path => [path]
  | parts + 1, path =>
    path :: match Text.parentPath? path with
      | some above => lineage parts above
      | none => []

/-- The place at which a file can be written, in a directory that is there. A path that ends in a
slash names no file. -/
def vacancy (f : Files) (path : Text) : Except FileFailure (Place × Option FileEntry) := do
  vet path
  let steps := segments path
  match steps.getLast? with
  | none => throw .isDirectory
  | some last =>
    let (base, entry) ← f.follow [] steps.dropLast
    if entry.isNone then throw .missing
    if entry ≠ some .directory then throw .notDirectory
    if last = ['.'] ∨ last = ['.', '.'] ∨ path.getLast? = some '/' then throw .isDirectory
    match ← f.follow base [last] with
    | (_, some .directory) => throw .isDirectory
    | found => return found

def write (f : Files) (path text : Text) : Except FileFailure Files := do
  match ← f.vacancy path with
  | (_, some .sink) => return f
  | (place, _) => return f.put place (.file text)

def save (f : Files) (path text : Text) : Option FileFailure × Files :=
  let made := match Text.parentPath? path with
    | some above => f.makeDirectories (lineage (Text.pathParts above).length above)
    | none => (none, f)
  match made with
  | (some failure, f) => (some failure, f)
  | (none, f) =>
    match f.write path text with
    | .ok f => (none, f)
    | .error failure => (some failure, f)

def read (f : Files) (path : Text) : Except FileFailure Text := do
  match ← f.resolve path with
  | (_, some (.file text)) => return text
  | (_, some .sink) => return []
  | (_, some .directory) => throw .isDirectory
  | (_, none) => throw .missing

def below (f : Files) (directory : Place) : List (Text × Text) :=
  f.entries.filterMap fun
    | (place, .file text) =>
      if directory.isPrefixOf place then
        some (Text.join ['/'] (place.drop directory.length), text)
      else none
    | _ => none

end Files

end ProofDesk
