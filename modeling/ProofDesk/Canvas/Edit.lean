import ProofDesk.Canvas.Basic

namespace ProofDesk

/-- What an edit answers, and the canvas that it leaves. -/
structure Outcome (α : Type) where
  answer : Except Refusal α
  canvas : Canvas

/-- A rule dropped on a node, waiting for the premises that it needs. -/
structure RuleRequest where
  key : Nat
  conclusion : Text
  rule : Text
deriving DecidableEq, Repr

/-- A rule dropped on gathered premises, waiting for the conclusion that it gives. -/
structure TopDownRequest where
  key : Nat
  premises : List Text
  rule : Text
deriving DecidableEq, Repr

namespace Canvas

def refuse {α : Type} (c : Canvas) (cause : Refusal) : Outcome α :=
  ⟨.error cause, c⟩

def addRoot (c : Canvas) (conclusion : Text) (free : Bool) (body : Body) : Nat × Canvas :=
  let node : Node := { key := c.nextKey, conclusion, free, body }
  let c' := { c with
    forest := c.forest.append (.cons node .nil .nil), nextKey := c.nextKey + 1 }.renumber
  let id := c'.idOf node.key
  (id, c'.note (.rootAdded id))

def addConclusion (c : Canvas) (conclusion : Text) (free : Bool) : Nat × Canvas :=
  c.addRoot conclusion free .hole

def addPremises (c : Canvas) (premises : List Text) (free : Bool) : Nat × Canvas :=
  c.addRoot [] free (.gathering (premises.filter fun p => !Text.isBlankText p))

def removeRoot (c : Canvas) (id : Nat) : Outcome Unit :=
  match c.resolve? id with
  | none => c.refuse (.unknownTarget id)
  | some (t, _) =>
    if c.forest.tops.any fun n => n.key == t.value.key then
      let c' := { c with forest := c.forest.eraseTops fun n => n.key == t.value.key }.renumber
      ⟨.ok (), c'.note (.rootRemoved t.value.conclusion)⟩
    else c.refuse (.misfit .notWholeProof)

def setName (c : Canvas) (id : Nat) (name : Text) : Outcome Unit :=
  match c.resolve? id with
  | none => c.refuse (.unknownTarget id)
  | some (t, _) => ⟨.ok (), c.changeNode t.value.key fun n => { n with name }⟩

def toggle (c : Canvas) (id : Nat) : Outcome Bool :=
  match c.resolve? id with
  | none => c.refuse (.unknownTarget id)
  | some (t, _) =>
    ⟨.ok (!t.value.expanded),
      c.changeNode t.value.key fun n => { n with expanded := !t.value.expanded }⟩

def requestRule (c : Canvas) (id : Nat) (rule : Text) : Except Refusal RuleRequest :=
  match c.resolve? id with
  | none => .error (.unknownTarget id)
  | some (_, .copy) => .error (.misfit .notRuleTarget)
  | some (t, .rule) =>
    if t.value.isTopDown then .error (.misfit .builtTopDown)
    else .ok ⟨t.value.key, t.value.conclusion, rule⟩

/-- Attaches the rule of a request, with a hole for every premise. What the node held before, nodes
below it or a delivered derivation, is dropped. -/
def attachRule (c : Canvas) (q : RuleRequest) (premises : List Text) : Outcome Unit :=
  match c.node? q.key with
  | none => c.refuse .stale
  | some n =>
    if n.isTopDown ∨ n.conclusion ≠ q.conclusion then c.refuse .stale
    else
      let below := c.holes n.free premises
      let c' := { c.change q.key fun t =>
          ⟨{ t.value with body := .ruled q.rule, expanded := true }, below⟩ with
        nextKey := c.nextKey + premises.length }.renumber
      let children := ((c'.tree? q.key).map fun t => t.below.tops.map Node.id).getD []
      ⟨.ok (), (c'.note (.ruleAttached (c'.idOf q.key) q.rule children)).noteLineage q.key⟩

/-- Validates a rule dropped on the rule target of a node that gathers premises. The rule's number
of premises, if it is known, has to be the number gathered. -/
def requestTopDown (c : Canvas) (id : Nat) (rule : Text) (arity : Option Nat) :
    Except Refusal TopDownRequest :=
  match c.resolve? id with
  | none => .error (.unknownTarget id)
  | some (_, .copy) => .error (.misfit .notRuleTarget)
  | some (t, .rule) =>
    match t.value.body with
    | .gathering premises =>
      match arity with
      | none => .error (.unknownRule rule)
      | some expected =>
        if expected = premises.length then .ok ⟨t.value.key, premises, rule⟩
        else .error (.arityMismatch rule expected premises.length)
    | _ => .error (.misfit .hasConclusion)

/-- Makes a node that gathered premises one that has the given conclusion, with a hole for every
premise. -/
def promote (c : Canvas) (q : TopDownRequest) (conclusion : Text) : Outcome Unit :=
  match c.node? q.key with
  | none => c.refuse .stale
  | some n =>
    if n.body ≠ .gathering q.premises then c.refuse .stale
    else
      let below := c.holes n.free q.premises
      let c' := { c.change q.key fun t =>
          ⟨{ t.value with conclusion, body := .ruled q.rule }, below⟩ with
        nextKey := c.nextKey + q.premises.length }.renumber
      ⟨.ok (), (c'.note (.promoted (c'.idOf q.key) conclusion q.rule)).noteLineage q.key⟩

def deleteRule (c : Canvas) (id : Nat) : Outcome Unit :=
  match c.resolve? id with
  | none => c.refuse (.unknownTarget id)
  | some (t, _) =>
    match t.value.progress with
    | .empty => ⟨.ok (), c⟩
    | _ =>
      let c' := (c.change t.value.key fun t => ⟨{ t.value with body := .hole }, .nil⟩).renumber
      ⟨.ok (), (c'.note (.ruleRemoved (c'.idOf t.value.key))).noteLineage t.value.key⟩

def pushPremise (c : Canvas) (n : Node) (premise : Text) : Canvas :=
  (c.changeNode n.key fun n =>
    match n.body with
    | .gathering premises => { n with body := .gathering (premises ++ [premise]) }
    | _ => n).note (.premiseAdded n.id premise)

def deliver (c : Canvas) (n : Node) (proof : Derivation) : Canvas :=
  ((c.changeNode n.key fun n => { n with body := .delivered proof }).note
    (.subtreeDelivered n.id proof)).noteLineage n.key

/-- Drags the node `source` onto the copy target `target`. A node that gathers premises takes the
conclusion as one more. A hole takes a node with the same conclusion: its derivation if that is
finished, and nothing but the notice if not. -/
def dropCopy (c : Canvas) (target source : Nat) : Outcome Unit :=
  match c.resolve? target with
  | none => c.refuse (.unknownTarget target)
  | some (_, .rule) => c.refuse (.misfit .notCopyTarget)
  | some (t, .copy) =>
    match c.resolve? source with
    | none => c.refuse (.unknownTarget source)
    | some (s, _) =>
      if s.value.key = t.value.key then c.refuse (.misfit .ontoItself)
      else if t.value.isTopDown then
        if Text.isBlankText s.value.conclusion then c.refuse (.misfit .sourceWithoutConclusion)
        else ⟨.ok (), c.pushPremise t.value s.value.conclusion⟩
      else if t.value.progress ≠ .empty then c.refuse (.misfit .hasRule)
      else if s.value.conclusion.trim ≠ t.value.conclusion.trim then
        c.refuse (.conclusionMismatch t.value.conclusion s.value.conclusion)
      else
        match s.derivation? with
        | some proof => ⟨.ok (), c.deliver t.value proof⟩
        | none => ⟨.ok (), c.note (.seeded t.value.id t.value.conclusion)⟩

def dropPremise (c : Canvas) (target : Nat) (premise : Text) : Outcome Unit :=
  match c.resolve? target with
  | none => c.refuse (.unknownTarget target)
  | some (t, _) =>
    if !t.value.isTopDown then c.refuse (.misfit .notTopDown)
    else if Text.isBlankText premise then c.refuse (.misfit .blankPremise)
    else ⟨.ok (), c.pushPremise t.value premise.trim⟩

end Canvas

end ProofDesk
