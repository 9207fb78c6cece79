import ProofDesk.Report.Basic

namespace ProofDesk

def inferenceWidth (premises : List Text) (conclusion : Text) : Nat :=
  (premises.map List.length).foldl max conclusion.length

/-- The lines of an inference: its premises, a bar as wide as the widest line and then the name, its
conclusion. -/
def inferenceLines (premises : List Text) (name conclusion : Text) : List Text :=
  premises ++
    [List.replicate (inferenceWidth premises conclusion) '-' ++ ' ' :: name, conclusion]

namespace TheoremDecl

def isLemma (t : TheoremDecl) : Bool :=
  t.kind != "theorem".toList

def lines (t : TheoremDecl) : List Text :=
  inferenceLines t.foralls t.name t.conclusion

end TheoremDecl

namespace Rule

def barWidth (r : Rule) : Nat :=
  inferenceWidth r.premises r.conclusion

def lines (r : Rule) : List Text :=
  inferenceLines r.premises r.name r.conclusion

end Rule

namespace ImportedModule

variable {U : Type}

def shortName (m : ImportedModule U) : Text :=
  match Text.cut? ':' m.name with
  | some (name, _) => name.trim
  | none => m.name.trim

def path (m : ImportedModule U) : Text :=
  match Text.cut? ':' m.name with
  | some (_, path) => if path.trim.isEmpty then m.file else path.trim
  | none => m.file

end ImportedModule

namespace CompilationUnit

def rules (u : CompilationUnit) : List Rule :=
  u.judgments.flatMap Judgment.rules

def inFileRules (u : CompilationUnit) : List Rule :=
  u.rules.filter Rule.inFile

def findTheorem? (u : CompilationUnit) (name : Text) : Option TheoremDecl :=
  u.theorems.find? fun t => t.name == name

def findModule? (u : CompilationUnit) (name : Text) : Option Module :=
  u.modules.find? fun m => m.shortName == name

/-- The rule named by the parts of a name between dots: the first rule with the only part as its
name; else, in the module that the first part names, a rule that the unit lists for that module's
file, or a rule of the unit inside that module. -/
def findRuleAt? (u : CompilationUnit) : List Text → Option Rule
  | [] => none
  | [name] => u.rules.find? fun r => r.name == name
  | first :: second :: rest => do
    let m ← u.findModule? first
    let name := Text.join ['.'] (second :: rest)
    match u.rules.find? fun r => r.name == name && r.file == m.file with
    | some r => some r
    | none => (← m.unit).findRuleAt? (second :: rest)

/-- The rule of that name, which a module name and a dot may precede. -/
def findRule? (u : CompilationUnit) (name : Text) : Option Rule :=
  u.findRuleAt? (Text.split '.' name)

/-- The number of premises that the theorem or else the rule of that name takes. -/
def arity? (u : CompilationUnit) (name : Text) : Option Nat :=
  match u.findTheorem? name with
  | some t => some t.foralls.length
  | none => (u.findRule? name).map fun r => r.premises.length

end CompilationUnit

end ProofDesk
