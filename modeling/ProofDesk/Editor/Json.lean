import ProofDesk.Report.Diagnostic
import ProofDesk.Report.Outline
import ProofDesk.Json.Settled
import ProofDesk.Uri.Reader

namespace ProofDesk

namespace Json

/-- An object without the members that have no value. -/
def present (members : List (String × Option Json)) : Json :=
  record (members.filterMap fun m => m.2.map fun value => (m.1, value))

/-- The value of an integer without point or exponent. -/
def int? : Json → Option Int
  | number n =>
    if n.fraction.isEmpty && n.exponent.isNone && !(n.negative && n.whole == 0) then
      some (if n.negative then -Int.ofNat n.whole else Int.ofNat n.whole)
    else none
  | _ => none

end Json

namespace Position

def encode (p : Position) : Json :=
  .record [("line", .nat p.line), ("character", .nat p.character)]

def decode? (j : Json) : Option Position := do
  let line ← (← j.get? "line").nat?
  let character ← (← j.get? "character").nat?
  return ⟨line, character⟩

end Position

namespace Range

def encode (r : Range) : Json :=
  .record [("start", r.start.encode), ("end", r.stop.encode)]

def decode? (j : Json) : Option Range := do
  let start ← Position.decode? (← j.get? "start")
  let stop ← Position.decode? (← j.get? "end")
  return ⟨start, stop⟩

end Range

namespace DiagnosticCode

def encode : DiagnosticCode → Json
  | number n => .int n
  | text s => .text s

def decode? : Json → Option DiagnosticCode
  | .text s => some (text s)
  | j => j.int?.map number

end DiagnosticCode

namespace RelatedPlace

def encode (r : RelatedPlace) : Json :=
  .record [
    ("location", .record [("uri", .text r.uri.render), ("range", r.range.encode)]),
    ("message", .text r.message)]

def decode? (j : Json) : Option RelatedPlace := do
  let location ← j.get? "location"
  let uri ← Uri.read? (← (← location.get? "uri").text?)
  let range ← Range.decode? (← location.get? "range")
  let message ← (← j.get? "message").text?
  return ⟨uri, range, message⟩

end RelatedPlace

namespace Diagnostic

def encode (d : Diagnostic) : Json :=
  .present [
    ("range", some d.range.encode),
    ("severity", d.severity.map Json.int),
    ("code", d.code.map DiagnosticCode.encode),
    ("codeDescription", d.explanation.map fun uri => .record [("href", .text uri.render)]),
    ("source", d.source.map Json.text),
    ("message", some (.text d.message)),
    ("relatedInformation", d.related.map (Json.list RelatedPlace.encode)),
    ("tags", d.tags.map (Json.list Json.int)),
    ("data", d.data)]

/-- The value of a member, unless it is missing or null. -/
def member? (j : Json) (name : String) : Option Json :=
  match j.get? name with
  | some .null => none
  | value => value

def decode? (j : Json) : Option Diagnostic := do
  let range ← Range.decode? (← j.get? "range")
  let message ← (← j.get? "message").text?
  let explanation ← (member? j "codeDescription").mapM fun d => do
    Uri.read? (← (← d.get? "href").text?)
  let related ← (member? j "relatedInformation").mapM fun r => do
    (← r.array?).mapM RelatedPlace.decode?
  let tags ← (member? j "tags").mapM fun t => do (← t.array?).mapM Json.int?
  return {
    range, message, explanation, related, tags
    severity := (member? j "severity").bind Json.int?
    code := (member? j "code").bind DiagnosticCode.decode?
    source := (member? j "source").bind Json.text?
    data := (member? j "data").map Json.ordered }

end Diagnostic

namespace Symbol

def members (s : Symbol) : List (String × Option Json) := [
  ("name", some (.text s.name)),
  ("detail", s.detail.map Json.text),
  ("kind", some (.nat s.kind.code)),
  ("range", some s.range.encode),
  ("selectionRange", some s.range.encode)]

end Symbol

namespace OutlineItem

def encode (i : OutlineItem) : Json :=
  .present (i.symbol.members ++ [("children",
    if i.children.isEmpty then none
    else some (.list (fun s => .present s.members) i.children))])

end OutlineItem

namespace Edit

def encode (e : Edit) : Json :=
  .record [("range", e.range.encode), ("newText", .text e.newText)]

end Edit

end ProofDesk
