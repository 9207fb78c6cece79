import ProofDesk.Canvas.Basic

namespace ProofDesk

namespace Progress

/-- The word for how far a node has come. -/
def word : Progress → Text
  | empty => "empty".toList
  | argumentsPending => "args-pending".toList
  | hasSubtree => "has-subtree".toList

end Progress

namespace Forest

/-- The nodes in preorder, each with the ids of the nodes below it. -/
def encodeNodes : Forest Node → List Json
  | nil => []
  | cons n below rest =>
    .record [
      ("id", .nat n.id),
      ("rule_target", .nat (n.id + 1)),
      ("conclusion", .text n.conclusion),
      ("name", .text n.name),
      ("rule", .option .text n.rule?),
      ("state", .text n.progress.word),
      ("free", .bool n.free),
      ("open", .bool n.expanded),
      ("top_down", .bool n.isTopDown),
      ("premises", .list .text n.premises),
      ("children", .list (fun m => .nat m.id) below.tops)]
    :: (below.encodeNodes ++ rest.encodeNodes)

end Forest

def Tree.encodeNode (t : Tree Node) : Json :=
  (Forest.encodeNodes (.cons t.value t.below .nil)).headD .null

namespace Event

/-- An event with its kind and what it tells. -/
def encode (e : Event) : Json :=
  let (kind, members) : String × List (String × Json) := match e with
    | rootAdded node => ("root_added", [("node", .nat node)])
    | rootRemoved conclusion => ("root_removed", [("conclusion", .text conclusion)])
    | ruleAttached node rule premises =>
      ("rule_attached",
        [("node", .nat node), ("rule", .text rule), ("premises", .list .nat premises)])
    | ruleRemoved node => ("rule_removed", [("node", .nat node)])
    | subtreeDelivered node proof =>
      ("subtree_delivered", [("node", .nat node), ("tree", Derivation.encode proof)])
    | seeded node conclusion =>
      ("seeded", [("node", .nat node), ("conclusion", .text conclusion)])
    | premiseAdded node premise =>
      ("premise_added", [("node", .nat node), ("premise", .text premise)])
    | promoted node conclusion rule =>
      ("promoted", [("node", .nat node), ("conclusion", .text conclusion), ("rule", .text rule)])
    | substituted node conclusion =>
      ("substituted", [("node", .nat node), ("conclusion", .text conclusion)])
    | derivationChanged node complete =>
      ("derivation_changed", [("node", .nat node), ("complete", .bool complete)])
  .record (("kind", .str kind) :: members)

end Event

namespace Canvas

def encode (c : Canvas) : Json :=
  .record [
    ("roots", .list .nat c.rootIds),
    ("nodes", .array c.forest.encodeNodes)]

end Canvas

end ProofDesk
