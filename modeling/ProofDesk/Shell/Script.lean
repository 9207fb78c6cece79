import ProofDesk.Text.Basic

namespace ProofDesk.Shell

/-- What stands in for the value of a parameter, or happens, where it has none. -/
inductive Fallback where
  | default
  | assign
  | complain
  | presence
deriving DecidableEq, Repr

inductive Treatment where
  | plain
  | length
  | fallback (kind : Fallback) (orEmpty : Bool)
  | trimmed (atEnd longest : Bool)
  | unknown
deriving DecidableEq, Repr

inductive Opening where
  | read
  | write
  | overwrite
  | append
  | readWrite
deriving DecidableEq, Repr

mutual

/-- A part of a word. Parts that are quoted are neither split into words nor read as patterns. -/
inductive Part where
  | text (s : Text) (quoted : Bool)
  | value (name : Text) (treatment : Treatment) (argument : List Part) (quoted : Bool)
  | output (c : Command) (quoted : Bool)
  | number (expression : List Part) (quoted : Bool)

inductive Redirection where
  | file (descriptor : Nat) (opening : Opening) (path : List Part)
  | copy (descriptor : Nat) (source : List Part)
  | document (descriptor : Nat) (number : Nat)

inductive Command where
  | nothing
  | simple (line : Nat) (assignments : List (Text × List Part)) (words : List (List Part))
      (redirections : List Redirection)
  | pipeline (commands : List Command)
  | negation (c : Command)
  | both (first second : Command)
  | either (first second : Command)
  | sequence (first second : Command)
  | background (c : Command)
  | subshell (line : Nat) (c : Command) (redirections : List Redirection)
  | redirected (line : Nat) (c : Command) (redirections : List Redirection)
  | branch (test success failure : Command)
  | loop (untilSuccess : Bool) (test body : Command)
  | each (line : Nat) (name : Text) (words : Option (List (List Part))) (body : Command)
  | choice (line : Nat) (word : List Part) (cases : List (List (List Part) × Command))
  | definition (name : Text) (body : Command)

end

instance : Inhabited Command := ⟨.nothing⟩

abbrev Word := List Part

def isNameStart (c : Char) : Bool :=
  c.isAlpha || c == '_'

def isNameChar (c : Char) : Bool :=
  c.isAlphanum || c == '_'

def isName : Text → Bool
  | [] => false
  | c :: rest => isNameStart c && rest.all isNameChar

def isSpecial (c : Char) : Bool :=
  c.isDigit || "@*#?-$!".toList.any (· == c)

def assignment? : Word → Option (Text × Word)
  | .text s false :: rest =>
    match Text.cut? '=' s with
    | some (name, value) =>
      if isName name then some (name, if value = [] then rest else .text value false :: rest)
      else none
    | none => none
  | _ => none

end ProofDesk.Shell
