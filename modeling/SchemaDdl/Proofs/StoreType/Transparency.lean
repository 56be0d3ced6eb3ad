import SchemaDdl.Proofs.StoreType.Resolution

/-!
# What was asked before does not show

A memo can be asked whether there is a type, or for a type that has to exist.
It derives and keeps types on the way, but its answers are those of a memo
that was never asked anything.
-/

namespace SchemaDdl

inductive TypeRequest where
  | find (q : TypeQuery)
  | require (q : TypeQuery)

def TypeRequest.query : TypeRequest → TypeQuery
  | find q => q
  | require q => q

/-- The answer that does not need a memo. -/
def TypeRequest.answer : TypeRequest → Result (Option Descriptor)
  | find q => .ok q.resolve
  | require q => (q.required q.resolve).map some

theorem TypeRequest.answer_eq_ok_some_iff {request : TypeRequest} {d : Descriptor} :
    request.answer = .ok (some d) ↔ request.query.resolve = some d := by
  cases request with
  | find q =>
    rw [answer, query]
    exact ⟨Except.ok.inj, congrArg _⟩
  | require q =>
    rw [answer, query]
    cases q.resolve with
    | none => exact ⟨nofun, nofun⟩
    | some e => exact ⟨Except.ok.inj, congrArg _⟩

namespace Memo

def serve (memo : Memo) : TypeRequest → Result (Option Descriptor) × Memo
  | .find q =>
    let (found, memo) := memo.find q
    (.ok found, memo)
  | .require q =>
    let (found, memo) := memo.require q
    (found.map some, memo)

def serveAll (memo : Memo) (requests : List TypeRequest) : Memo :=
  requests.foldl (fun memo request => (memo.serve request).2) memo

theorem serve_eq_answer {memo : Memo} (h : memo.Sound) (request : TypeRequest) :
    (memo.serve request).1 = request.answer := by
  cases request with
  | find q =>
    obtain ⟨hfound, -⟩ := answers_find h q
    rw [serve, TypeRequest.answer, ← hfound]
  | require q =>
    obtain ⟨hfound, -⟩ := answers_find h q
    rw [serve, require, TypeRequest.answer, ← hfound]

theorem Sound.serve {memo : Memo} (h : memo.Sound) (request : TypeRequest) :
    (memo.serve request).2.Sound := by
  cases request with
  | find q => exact (answers_find h q).2
  | require q => exact (answers_find h q).2

theorem Sound.serveAll {memo : Memo} (h : memo.Sound) (requests : List TypeRequest) :
    (memo.serveAll requests).Sound := by
  induction requests generalizing memo with
  | nil => exact h
  | cons request requests ih => exact ih (h.serve request)

/-- Whatever was asked before, a request has the answer that it has when nothing was asked. -/
theorem serve_serveAll (asked : List TypeRequest) (request : TypeRequest) :
    ((empty.serveAll asked).serve request).1 = (empty.serve request).1 := by
  rw [serve_eq_answer (sound_empty.serveAll asked), serve_eq_answer sound_empty]

end Memo

end SchemaDdl
