import ProofDesk.Checker.Launch
import ProofDesk.Json.Basic

namespace ProofDesk

structure Settings where
  launch : Launch := {}
  maxProblems : Nat := 1000
  indentSize : Nat := 4
  /-- The line terminator for a client that does not name one. -/
  terminator : Option Text := none
deriving DecidableEq, Repr

namespace Settings

def terminatorOf? (name : Text) : Option Text :=
  if name = ['\n'] ∨ name = "lf".toList ∨ name = "LF".toList then some ['\n']
  else if name = ['\r', '\n'] ∨ name = "crlf".toList ∨ name = "CRLF".toList then some ['\r', '\n']
  else none

def count64? (j : Json) : Option Nat :=
  j.nat?.filter (· < Nat.pow 2 64)

def indent? (j : Json) : Option Nat :=
  (count64? j).map fun n => min n (Nat.pow 2 32 - 1)

/-- Applies what a client sends: its settings as a whole or only the section of this server. A
setting that is missing or has no sensible value stays as it is, except that a terminator's name
without a meaning clears the terminator. -/
def apply (s : Settings) (sent : Json) : Settings :=
  let own := (sent.get? "sasylf").getD sent
  { maxProblems := ((own.get? "maxNumberOfProblems").bind count64?).getD s.maxProblems
    launch := (((own.get? "checkerCommand").bind Json.text?).bind Launch.ofLine?).getD s.launch
    indentSize := ((own.get? "indentSize").bind indent?).getD s.indentSize
    terminator :=
      match (own.get? "eol").bind Json.text? with
      | some name => terminatorOf? name
      | none => s.terminator }

end Settings

end ProofDesk
