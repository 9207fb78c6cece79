import ProofDesk.Canvas.Basic
import ProofDesk.Derivation.Script

namespace ProofDesk

/-- A root that is to be written as a theorem. -/
structure TheoremRequest where
  root : Nat
  name : Text
  quantifiers : Text
deriving DecidableEq, Repr

namespace Canvas

def exportRoot (c : Canvas) (q : TheoremRequest) : Except Refusal Text :=
  match c.resolve? q.root with
  | none => .error (.unknownTarget q.root)
  | some (t, _) =>
    if !c.forest.tops.any fun n => n.key == t.value.key then .error (.misfit (.notRoot q.root))
    else
      match t.derivation? with
      | none => .error (.incomplete t.value.conclusion)
      | some d => .ok (Script.render q.name q.quantifiers d)

/-- The theorems of the given roots, in order; the first one that cannot be written decides. -/
def exportRoots (c : Canvas) : List TheoremRequest → Except Refusal Text
  | [] => .ok []
  | q :: rest => do
    let first ← c.exportRoot q
    let others ← c.exportRoots rest
    return first ++ others

end Canvas

end ProofDesk
