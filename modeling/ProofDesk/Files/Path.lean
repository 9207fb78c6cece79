import ProofDesk.Text.Basic

namespace ProofDesk

/-- A part of a path: a name, or a step to the directory above. -/
inductive PathPart where
  | name (s : Text)
  | parent
deriving DecidableEq, Repr

namespace Text

def pathParts (s : Text) : List PathPart :=
  (split '/' s).filterMap fun part =>
    if part = [] ∨ part = ['.'] then none
    else if part = ['.', '.'] then some .parent
    else some (.name part)

def isAbsolutePath (s : Text) : Bool :=
  s.head? == some '/'

def pathNames (s : Text) : List Text :=
  (pathParts s).filterMap fun
    | .name part => some part
    | .parent => none

def joinPath (directory path : Text) : Text :=
  if isAbsolutePath path then path
  else if directory = [] ∨ directory.getLast? = some '/' then directory ++ path
  else directory ++ '/' :: path

/-- Drops slashes, and single dots after slashes, from the end of a path that is read backwards. -/
def dropIdleEnd : Text → Text
  | '/' :: rest => dropIdleEnd rest
  | '.' :: '/' :: rest => dropIdleEnd ('/' :: rest)
  | s => s

def parentPath? (s : Text) : Option Text :=
  if pathParts s = [] then none
  else match dropIdleEnd ((dropIdleEnd s.reverse).dropWhile (· != '/')) with
    | [] => if isAbsolutePath s then some ['/'] else none
    | above => some above.reverse

end Text

end ProofDesk
