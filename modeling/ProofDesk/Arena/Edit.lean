import ProofDesk.Arena.Basic
import ProofDesk.Canvas.Substitution
import ProofDesk.Canvas.Export

namespace ProofDesk

namespace Arena

/-- What an edit answers and the arena that it leaves. An edit with a walk gives none if that does
not end. -/
abbrev Reply (α : Type) :=
  Except Refusal α × Arena

def refuse {α : Type} (a : Arena) (cause : Refusal) : Option (Reply α) :=
  some (.error cause, a)

/-- Mounts anew, tells of a change at a node, and of the derivations from there up. -/
def announce (a : Arena) (w : Walk) (key : Nat) (own : Arena → Event) : Option (Reply Unit) := do
  let a ← a.mount
  let a ← (a.note (own a)).notifyAncestors w key
  return (.ok (), a)

def addRoot (a : Arena) (key : Nat) : Option (Nat × Arena) := do
  let a ← { a with roots := a.roots ++ [key] }.mount
  let id := a.mountId key
  return (id, a.note (.rootAdded id))

def addConclusion (a : Arena) (conclusion : Text) (free : Bool) : Option (Nat × Arena) :=
  let (key, a) := a.insert { conclusion, free }
  a.addRoot key

def addPremises (a : Arena) (premises : List Text) (free : Bool) : Option (Nat × Arena) :=
  let gathered? := some (premises.filter fun p => !Text.isBlankText p)
  let (key, a) := a.insert { conclusion := [], free, gathered? }
  a.addRoot key

def removeRoot (a : Arena) (id : Nat) : Option (Reply Unit) :=
  match a.resolve? id with
  | none => a.refuse (.unknownTarget id)
  | some (key, _) =>
    match a.roots.findIdx? (· == key) with
    | none => a.refuse (.misfit .notWholeProof)
    | some index => do
      let a := { a with roots := a.roots.eraseIdx index }
      let conclusion := (a.nodes[key]?.map fun s => s.conclusion).getD []
      let a ← (a.release [key]).mount
      return (.ok (), a.note (.rootRemoved conclusion))

def setName (a : Arena) (id : Nat) (name : Text) : Reply Unit :=
  match a.resolve? id with
  | none => (.error (.unknownTarget id), a)
  | some (key, _) => (.ok (), a.edit key fun s => { s with name })

def toggle (a : Arena) (id : Nat) : Reply Bool :=
  match a.resolve? id with
  | none => (.error (.unknownTarget id), a)
  | some (key, _) =>
    match a.nodes[key]? with
    | none => (.error (.unknownTarget id), a)
    | some s => (.ok (!s.expanded), a.edit key fun s => { s with expanded := !s.expanded })

def requestRule (a : Arena) (id : Nat) (rule : Text) : Except Refusal RuleRequest :=
  match a.resolve? id with
  | none => .error (.unknownTarget id)
  | some (_, .copy) => .error (.misfit .notRuleTarget)
  | some (key, .rule) =>
    match a.nodes[key]? with
    | none => .error (.unknownTarget id)
    | some s =>
      if s.isTopDown then .error (.misfit .builtTopDown) else .ok ⟨key, s.conclusion, rule⟩

def attachRule (a : Arena) (w : Walk) (q : RuleRequest) (premises : List Text) :
    Option (Reply Unit) :=
  let fresh := a.nodes[q.key]?.any fun s => !s.isTopDown && s.conclusion == q.conclusion
  if !fresh then a.refuse .stale
  else
    match a.nodes[q.key]? with
    | none => a.refuse .stale
    | some old =>
      let a := a.edit q.key fun s =>
        { s with subtree? := none, rule? := some q.rule, expanded := true, children := [] }
      let a := a.release old.children
      let (children, a) := a.plant old.free premises
      (a.edit q.key fun s => { s with children }).announce w q.key fun a =>
        .ruleAttached (a.mountId q.key) q.rule (children.map a.mountId)

def requestTopDown (a : Arena) (id : Nat) (rule : Text) (arity : Option Nat) :
    Except Refusal TopDownRequest :=
  match a.resolve? id with
  | none => .error (.unknownTarget id)
  | some (_, .copy) => .error (.misfit .notRuleTarget)
  | some (key, .rule) =>
    match a.nodes[key]? with
    | none => .error (.unknownTarget id)
    | some s =>
      match s.gathered?, arity with
      | none, _ => .error (.misfit .hasConclusion)
      | some _, none => .error (.unknownRule rule)
      | some premises, some expected =>
        if expected ≠ premises.length then
          .error (.arityMismatch rule expected premises.length)
        else .ok ⟨key, premises, rule⟩

def promote (a : Arena) (w : Walk) (q : TopDownRequest) (conclusion : Text) : Option (Reply Unit) :=
  let fresh := a.nodes[q.key]?.any fun s => s.gathered? == some q.premises
  if !fresh then a.refuse .stale
  else
    let free := (a.nodes[q.key]?.map fun s => s.free).getD false
    let (children, a) := a.plant free q.premises
    let a := a.edit q.key fun s =>
      { s with gathered? := none, conclusion, rule? := some q.rule, subtree? := none, children }
    a.announce w q.key fun a => .promoted (a.mountId q.key) conclusion q.rule

def deleteRule (a : Arena) (w : Walk) (id : Nat) : Option (Reply Unit) :=
  match a.resolve? id with
  | none => a.refuse (.unknownTarget id)
  | some (key, _) =>
    match a.nodes[key]? with
    | none => some (.ok (), a)
    | some old =>
      if old.progress = .empty then some (.ok (), a)
      else
        let a := a.edit key fun s => { s with rule? := none, subtree? := none, children := [] }
        (a.release old.children).announce w key fun a => .ruleRemoved (a.mountId key)

def pushPremise (a : Arena) (key : Nat) (premise : Text) : Option (Reply Unit) :=
  match a.nodes[key]?.bind fun s => s.gathered? with
  | none => a.refuse .stale
  | some premises =>
    let a := a.edit key fun s => { s with gathered? := some (premises ++ [premise]) }
    some (.ok (), a.note (.premiseAdded (a.mountId key) premise))

def deliver (a : Arena) (w : Walk) (key : Nat) (proof : Derivation) : Option Arena :=
  let a := a.edit key fun s => { s with rule? := none, subtree? := some proof }
  (a.note (.subtreeDelivered (a.mountId key) proof)).notifyAncestors w key

def dropCopy (a : Arena) (w : Walk) (target source : Nat) : Option (Reply Unit) :=
  match a.resolve? target with
  | none => a.refuse (.unknownTarget target)
  | some (_, .rule) => a.refuse (.misfit .notCopyTarget)
  | some (key, .copy) =>
    match a.resolve? source with
    | none => a.refuse (.unknownTarget source)
    | some (sourceKey, _) =>
      if sourceKey = key then a.refuse (.misfit .ontoItself)
      else
        match a.nodes[sourceKey]?, a.nodes[key]? with
        | none, _ => a.refuse (.unknownTarget source)
        | some _, none => a.refuse (.unknownTarget target)
        | some s, some t =>
          if t.isTopDown then
            if Text.isBlankText s.conclusion then a.refuse (.misfit .sourceWithoutConclusion)
            else a.pushPremise key s.conclusion
          else if t.progress ≠ .empty then a.refuse (.misfit .hasRule)
          else if s.conclusion.trim ≠ t.conclusion.trim then
            a.refuse (.conclusionMismatch t.conclusion s.conclusion)
          else do
            match ← a.derivationOf? sourceKey with
            | some proof =>
              let a ← a.deliver w key proof
              return (.ok (), a)
            | none => return (.ok (), a.note (.seeded (a.mountId key) t.conclusion))

def dropPremise (a : Arena) (target : Nat) (premise : Text) : Option (Reply Unit) :=
  match a.resolve? target with
  | none => a.refuse (.unknownTarget target)
  | some (key, _) =>
    let topDown := a.nodes[key]?.any Slot.isTopDown
    if !topDown then a.refuse (.misfit .notTopDown)
    else if Text.isBlankText premise then a.refuse (.misfit .blankPremise)
    else a.pushPremise key premise.trim

/-- The nodes above one, nearest first. -/
def ancestors (a : Arena) (w : Walk) (key : Nat) : Option (List Nat) :=
  match a.parentOf? w key with
  | none => some []
  | some parent => do
    let above ← a |>.ancestors w parent
    return parent :: above
partial_fixpoint

/-- The nodes on a stack and below them; the last child is met first. -/
def descendants (a : Arena) : List Nat → Option (List Nat)
  | [] => some []
  | key :: stack => do
    let below ← a |>.descendants ((a.childrenOf key).reverse ++ stack)
    return key :: below
partial_fixpoint

def requestSubstitution (a : Arena) (w : Walk) (id : Nat) (old new : Text) (d : Direction) :
    Option (Except Refusal SubstitutionRequest) :=
  match a.resolve? id with
  | none => some (.error (.unknownTarget id))
  | some (key, _) =>
    match a.nodes[key]? with
    | none => some (.error (.unknownTarget id))
    | some s =>
      if !s.free then some (.error (.notFree s.conclusion))
      else do
        let above ← (if d.reachesUp then a.ancestors w key else some [])
        let below ← (if d.reachesDown then a.descendants s.children.reverse else some [])
        let targets := (key :: above ++ below).filterMap fun k =>
          (a.nodes[k]?.filter fun s => !s.conclusion.isEmpty).map fun s => (k, s.conclusion)
        return .ok ⟨targets, old, new⟩

/-- Writes the results, and lists the nodes whose conclusion became another one. -/
def rewrite (a : Arena) : List ((Nat × Text) × Option Text) → List (Nat × Text) × Arena
  | [] => ([], a)
  | (_, none) :: rest => a.rewrite rest
  | ((key, _), some conclusion) :: rest =>
    match a.nodes[key]? with
    | none => a.rewrite rest
    | some s =>
      if s.conclusion = conclusion then a.rewrite rest
      else
        let (changed, a) := (a.edit key fun s => { s with conclusion }).rewrite rest
        ((key, conclusion) :: changed, a)

def substitute (a : Arena) (q : SubstitutionRequest) (results : List (Option Text)) :
    Except Refusal Unit × Arena :=
  if results.length ≠ q.targets.length then (.error .stale, a)
  else if !q.targets.all fun (key, conclusion) =>
      a.nodes[key]?.any fun s => s.conclusion == conclusion then (.error .stale, a)
  else
    let (changed, a) := a.rewrite (q.targets.zip results)
    (.ok (), changed.foldl (fun a (key, conclusion) =>
      a.note (.substituted (a.mountId key) conclusion)) a)

def exportRoots (a : Arena) : List TheoremRequest → Option (Except Refusal Text)
  | [] => some (.ok [])
  | q :: rest =>
    match a.resolve? q.root with
    | none => some (.error (.unknownTarget q.root))
    | some (key, _) =>
      if !a.roots.contains key then some (.error (.misfit (.notRoot q.root)))
      else do
        match ← a.derivationOf? key with
        | none =>
          let conclusion := (a.nodes[key]?.map fun s => s.conclusion).getD []
          return .error (.incomplete conclusion)
        | some d =>
          let others ← a.exportRoots rest
          return others.map fun text => Script.render q.name q.quantifiers d ++ text

end Arena

end ProofDesk
