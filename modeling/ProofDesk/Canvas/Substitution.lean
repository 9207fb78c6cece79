import ProofDesk.Canvas.Edit

namespace ProofDesk

inductive Direction where
  | up
  | down
  | both
deriving DecidableEq, Repr

namespace Direction

def reachesUp : Direction → Bool
  | down => false
  | _ => true

def reachesDown : Direction → Bool
  | up => false
  | _ => true

end Direction

/-- The nodes that a replacement touches, by key, with their conclusions. -/
structure SubstitutionRequest where
  targets : List (Nat × Text)
  old : Text
  new : Text
deriving DecidableEq, Repr

namespace SubstitutionRequest

def conclusions (q : SubstitutionRequest) : List Text :=
  q.targets.map Prod.snd

end SubstitutionRequest

namespace Canvas

/-- The nodes that a replacement at a node reaches: the node itself, the nodes above it, nearest
first, and the nodes below it, the last child first. -/
def reached (c : Canvas) (t : Tree Node) (d : Direction) : List Node :=
  t.value :: (if d.reachesUp then (c.lineage t.value.key).drop 1 else [])
    ++ (if d.reachesDown then t.below.fromLast else [])

/-- Captures the conclusions that a replacement touches. Nodes without a conclusion are left
out. -/
def requestSubstitution (c : Canvas) (id : Nat) (old new : Text) (d : Direction) :
    Except Refusal SubstitutionRequest :=
  match c.resolve? id with
  | none => .error (.unknownTarget id)
  | some (t, _) =>
    if !t.value.free then .error (.notFree t.value.conclusion)
    else
      let targets := (c.reached t d).filter fun n => n.conclusion ≠ []
      .ok ⟨targets.map fun n => (n.key, n.conclusion), old, new⟩

def isFresh (c : Canvas) (q : SubstitutionRequest) : Bool :=
  q.targets.all fun (key, conclusion) =>
    (c.node? key).any fun n => n.conclusion == conclusion

def setConclusion (c : Canvas) (key : Nat) (conclusion : Text) : Canvas :=
  match c.node? key with
  | none => c
  | some n =>
    if n.conclusion = conclusion then c
    else (c.changeNode key fun n => { n with conclusion }).note (.substituted n.id conclusion)

/-- Puts the results in the place of the captured conclusions, in order; a conclusion without a
result stays. -/
def substitute (c : Canvas) (q : SubstitutionRequest) (results : List (Option Text)) :
    Outcome Unit :=
  if results.length ≠ q.targets.length ∨ !c.isFresh q then c.refuse .stale
  else
    ⟨.ok (), (q.targets.zip results).foldl
      (fun c ((key, _), result) =>
        match result with
        | some conclusion => c.setConclusion key conclusion
        | none => c) c⟩

end Canvas

end ProofDesk
