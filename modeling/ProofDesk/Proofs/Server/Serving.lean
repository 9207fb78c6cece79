import ProofDesk.Proofs.Server.Run
import ProofDesk.Server.Feature

namespace ProofDesk

/-- What a client asks. The answer comes from what the server holds. -/
inductive Request where
  | capabilities
  | ast
  | outline (uri : Uri)
  | definition (scratch : Text) (uri : Uri) (p : Position)
  | codeActions (client : Option (List Json)) (uri : Uri) (diagnostics : List Diagnostic)

inductive Message where
  | notice (n : Notice)
  | request (q : Request)

/-- One deed of a notice, or the answer to a request. -/
inductive Turn where
  | deed (x : Deed)
  | answer (q : Request)

def Message.turns : Message → List Turn
  | .notice n => n.deeds.map .deed
  | .request q => [.answer q]

namespace Server

variable {k : Checker} {s s' : Server} {uri : Uri} {d : OpenDocument} {x : Turn}

def answer (s : Server) : Request → Server
  | .definition scratch uri p => (s.definition? scratch uri p).2
  | .codeActions client uri diagnostics => (s.codeActions client uri diagnostics).2
  | .capabilities => s
  | .ast => s
  | .outline _ => s

section Runs

variable [Reader]

def handle (k : Checker) (s : Server) : Message → Server
  | .notice n => s.receive k n
  | .request q => s.answer q

def serve (k : Checker) (s : Server) (messages : List Message) : Server :=
  messages.foldl (handle k) s

def turn (k : Checker) (s : Server) : Turn → Server
  | .deed x => s.perform k x
  | .answer q => s.answer q

theorem handle_eq_foldl (k : Checker) (s : Server) (m : Message) :
    s.handle k m = m.turns.foldl (turn k) s := by
  cases m with
  | notice n =>
    rw [handle, receive_eq_foldl, Message.turns, List.foldl_map]
    rfl
  | request q => rfl

theorem serve_eq_foldl (k : Checker) (s : Server) (messages : List Message) :
    s.serve k messages = (messages.flatMap Message.turns).foldl (turn k) s := by
  induction messages generalizing s with
  | nil => rfl
  | cons m messages ih =>
    rw [List.flatMap_cons, List.foldl_append, ← handle_eq_foldl, ← ih]
    rfl

end Runs

/-- The server holds what it held, but for files and for questions about the format settings. -/
structure Unmoved (s s' : Server) : Prop where
  documents : s'.documents = s.documents
  settings : s'.settings = s.settings
  lastValidated : s'.lastValidated = s.lastValidated
  outageShown : s'.outageShown = s.outageShown
  log : ∃ asked : List Uri, s'.log = s.log ++ asked.map .askedFormat

theorem Unmoved.refl (s : Server) : Unmoved s s :=
  ⟨rfl, rfl, rfl, rfl, [], by simp⟩

theorem unmoved_definition? (s : Server) (scratch : Text) (uri : Uri) (p : Position) :
    Unmoved s (s.definition? scratch uri p).2 := by
  unfold definition?
  split
  next => exact Unmoved.refl s
  next d =>
    split
    next a word =>
      split
      next => exact Unmoved.refl s
      next target =>
        split
        next => exact Unmoved.refl s
        next => exact ⟨rfl, rfl, rfl, rfl, [], by simp⟩
    next => exact Unmoved.refl s

theorem unmoved_codeActions (s : Server) (client : Option (List Json)) (uri : Uri)
    (diagnostics : List Diagnostic) : Unmoved s (s.codeActions client uri diagnostics).2 := by
  have hasked : Unmoved s (s.note (.askedFormat uri)) := ⟨rfl, rfl, rfl, rfl, [uri], rfl⟩
  unfold codeActions
  split
  next => exact Unmoved.refl s
  next d =>
    split
    next => exact Unmoved.refl s
    next a =>
      dsimp only
      split
      next => exact Unmoved.refl s
      next => exact hasked

theorem unmoved_answer (s : Server) (q : Request) : Unmoved s (s.answer q) := by
  cases q with
  | definition scratch uri p => exact unmoved_definition? s scratch uri p
  | codeActions client uri diagnostics => exact unmoved_codeActions s client uri diagnostics
  | _ => exact Unmoved.refl s

end Server

end ProofDesk
