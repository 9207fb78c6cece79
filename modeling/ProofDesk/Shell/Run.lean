import ProofDesk.Checker.Launch
import ProofDesk.Shell.Execute
import ProofDesk.Text.Utf8

namespace ProofDesk.Shell

def encode (s : Text) : Text :=
  (Text.toUtf8 s).map Char.ofNat

def decode (s : Text) : Text :=
  Text.ofUtf8 (s.map Char.toNat)

def argumentLimit : Nat := 131071

/-- The deepest nesting of commands that is followed. -/
def nesting : Nat := 2000

def workplace : Text := "/work".toList

def environment : List (Text × Text) :=
  [("PATH", "/usr/local/sbin:/usr/local/bin:/usr/sbin:/usr/bin:/sbin:/bin"), ("HOME", "/root")].map
    (fun e => (e.1.toList, e.2.toList)) ++ [("PWD".toList, workplace)]

def initial (input : Text) : Machine where
  state := {
    name := "sh".toList
    directory := workplace
    bindings := environment.map fun e => (e.1, { value := some e.2, isExported := true })
    descriptors := [(0, .source 0 false), (1, .sink 1), (2, .sink 2)] }
  world := { streams := [input, [], []], files := Files.usual.addDirectory (Files.place workplace) }

def obstacle? (m : Machine) (command : Text) (arguments : List Text) : Option Text :=
  let missing := "No such file or directory (os error 2)".toList
  let denied := "Permission denied (os error 13)".toList
  if (command :: arguments).any fun a => a.any (· == '\x00') then
    some "nul byte found in provided data".toList
  else if arguments.any fun a => argumentLimit < a.length then
    some "Argument list too long (os error 7)".toList
  else match Act.commandPath? m.state command with
    | some _ => none
    | none =>
      if command = ['.'] ∨ command = ['.', '.'] then some denied
      else if command.any (· == '/') then
        match m.world.files.resolve (Text.joinPath m.state.directory command) with
        | .ok (_, some _) => some denied
        | .ok (_, none) => some missing
        | .error f => some f.message
      else some missing

/-- Runs a command line with more arguments and an input. -/
def run (l : Launch) (more : List Text) (input : Text) : Run :=
  let m := initial (encode input)
  let command := encode l.command
  let arguments := (l.arguments ++ more).map encode
  match obstacle? m command arguments with
  | some cause => .notStarted cause
  | none =>
    let all : Act Nat := do
      let status ← Act.execute (Act.evaluate nesting) 10 command arguments environment
      Act.runAllWaiting (Act.evaluate nesting)
      return status
    let (_, m) := all.run.run m
    let written (n : Nat) : Text := decode ((m.world.streams[n]?).getD []).reverse
    .finished (written 1) (written 2)

end ProofDesk.Shell
