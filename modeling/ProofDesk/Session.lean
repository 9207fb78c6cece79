import ProofDesk.Bank
import ProofDesk.Canvas.Command
import ProofDesk.Checker.Query
import ProofDesk.Files.Basic

namespace ProofDesk

/-- An open proof file with the proofs being built for it, the texts that wait to be shown, and the
questions asked so far. -/
structure Session where
  file : Text
  unit : CompilationUnit
  bench : Workbench := {}
  modals : List Text := []
  asked : List Query := []

namespace Session

def canvas (s : Session) : Canvas :=
  s.bench.canvas

def bank (s : Session) : Bank :=
  .ofUnit s.unit

/-- The session with another unit, after its file was checked again. -/
def reload (s : Session) (unit : CompilationUnit) : Session :=
  { s with unit }

def conclude {α : Type} (s : Session) (answer : Except Refusal α) : Except Refusal α × Session :=
  match answer with
  | .ok a => (.ok a, s)
  | .error cause => (.error cause, { s with modals := s.modals ++ [cause.modalText] })

def settle {α : Type} (s : Session) (o : Outcome α) : Except Refusal α × Session :=
  { s with bench := { s.bench with canvas := o.canvas } }.conclude o.answer

def ask (s : Session) (q : Query) : Session :=
  { s with asked := s.asked ++ [q] }

def takeModals (s : Session) : List Text × Session :=
  (s.modals, { s with modals := [] })

/-- Drops a rule on a target. A node that has a conclusion gets the premises from the checker, a
node that gathers premises gets the conclusion, once it has as many as the rule takes. -/
def dropRule (b : Bridge) (s : Session) (target : Nat) (rule : Text) :
    Except Refusal Unit × Session :=
  match s.canvas.resolve? target with
  | none => s.conclude (.error (.unknownTarget target))
  | some (t, _) =>
    if t.value.isTopDown then
      match s.canvas.requestTopDown target rule (s.unit.arity? rule) with
      | .error cause => s.conclude (.error cause)
      | .ok q =>
        let s' := s.ask (.topDown q.premises q.rule)
        match b.conclusion s.asked q.premises q.rule with
        | .error cause => s'.conclude (.error cause)
        | .ok conclusion => s'.settle (s.canvas.promote q conclusion)
    else
      match s.canvas.requestRule target rule with
      | .error cause => s.conclude (.error cause)
      | .ok q =>
        let s' := s.ask (.parse q.conclusion q.rule)
        match b.premises s.asked q.conclusion q.rule with
        | .error cause => s'.conclude (.error cause)
        | .ok premises => s'.settle (s.canvas.attachRule q premises)

def dropCopy (s : Session) (target source : Nat) : Except Refusal Unit × Session :=
  s.settle (s.canvas.dropCopy target source)

def dropPremise (s : Session) (target : Nat) (premise : Text) : Except Refusal Unit × Session :=
  s.settle (s.canvas.dropPremise target premise)

def deleteRule (s : Session) (target : Nat) : Except Refusal Unit × Session :=
  s.settle (s.canvas.deleteRule target)

def substituteAll (b : Bridge) (s : Session) (old new : Text) :
    List Text → Except Refusal (List (Option Text)) × Session
  | [] => (.ok [], s)
  | text :: rest =>
    let s' := s.ask (.substitute text old new)
    match b.substitution s.asked text old new with
    | .error cause => (.error cause, s')
    | .ok result =>
      match substituteAll b s' old new rest with
      | (.error cause, s'') => (.error cause, s'')
      | (.ok results, s'') => (.ok (result :: results), s'')

/-- Replaces a variable in a node and its neighbours. All conclusions are computed before any is
changed. -/
def replaceVariable (b : Bridge) (s : Session) (target : Nat) (old new : Text) (d : Direction) :
    Except Refusal Unit × Session :=
  match s.canvas.requestSubstitution target old new d with
  | .error cause => s.conclude (.error cause)
  | .ok q =>
    match s.substituteAll b q.old q.new q.conclusions with
    | (.error cause, s') => s'.conclude (.error cause)
    | (.ok results, s') => s'.settle (s'.canvas.substitute q results)

def exportTheorems (s : Session) (theorems : List TheoremRequest) : Except Refusal Text × Session :=
  s.conclude (s.canvas.exportRoots theorems)

/-- Writes the theorems of the given roots to a file, with the directories above it. -/
def save (s : Session) (files : Files) (path : Text) (theorems : List TheoremRequest) :
    Except Refusal Text × Session × Files :=
  match s.canvas.exportRoots theorems with
  | .error cause =>
    let (answer, s') := s.conclude (.error cause)
    (answer, s', files)
  | .ok content =>
    match files.save path content with
    | (some failure, files) =>
      let (answer, s') := s.conclude (.error (.notWritten failure.message))
      (answer, s', files)
    | (none, files) => (.ok content, s, files)

end Session

end ProofDesk
