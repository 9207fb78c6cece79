import ProofDesk.Report.Lookup
import ProofDesk.Json.Basic

namespace ProofDesk

/-- A theorem or rule that can be dragged. -/
structure BankEntry where
  name : Text
  lines : List Text
  arity : Nat
deriving DecidableEq, Repr

/-- The rules of a judgment under its header. -/
structure BankGroup where
  header : Text
  rules : List BankEntry
deriving DecidableEq, Repr

structure Bank where
  theorems : List BankEntry
  judgments : List BankGroup
deriving DecidableEq, Repr

namespace BankEntry

def ofTheorem (t : TheoremDecl) : BankEntry :=
  ⟨t.name, t.lines, t.foralls.length⟩

def ofRule (r : Rule) : BankEntry :=
  ⟨r.name, r.lines, r.premises.length⟩

/-- The lines of an entry in one text. -/
def text (e : BankEntry) : Text :=
  Text.join ['\n'] e.lines

def encode (e : BankEntry) : Json :=
  .record [("name", .text e.name), ("lines", .list .text e.lines), ("arity", .nat e.arity)]

end BankEntry

namespace Bank

def ofUnit (u : CompilationUnit) : Bank where
  theorems := u.theorems.map .ofTheorem
  judgments := u.judgments.map fun j =>
    ⟨"judgment ".toList ++ j.name ++ ": ".toList ++ j.form, j.rules.map .ofRule⟩

def entries (b : Bank) : List BankEntry :=
  b.theorems ++ b.judgments.flatMap BankGroup.rules

def find? (b : Bank) (name : Text) : Option BankEntry :=
  b.entries.find? fun e => e.name == name

def isEmpty (b : Bank) : Bool :=
  b.entries.isEmpty

def encode (b : Bank) : Json :=
  .record [
    ("theorems", .list BankEntry.encode b.theorems),
    ("judgments", .list (fun g => .record [
      ("header", .text g.header), ("rules", .list BankEntry.encode g.rules)]) b.judgments)]

end Bank

end ProofDesk
