import SchemaDdl.Proofs.StoreType.Resolution
import SchemaDdl.Script.Render

/-!
# What a rendering does

With a memo that is sound, the edits of a rendering and its result are those
that it has when every question is answered by resolution. They follow the
parts of the rendering.
-/

namespace SchemaDdl.Render

variable {α β : Type}

/-- The edits when every question is answered by resolution. -/
def edits : Render α → List Edit
  | done _ => []
  | write e next => e :: next.edits
  | ask q next => (next q.resolve).edits

def result : Render α → Result α
  | done result => result
  | write _ next => next.result
  | ask q next => (next q.resolve).result

theorem result_pure (a : α) : (pure a : Render α).result = .ok a := rfl

theorem result_find (q : TypeQuery) : (find q).result = .ok q.resolve := rfl

theorem result_require (q : TypeQuery) : (require q).result = q.required q.resolve := rfl

theorem ofResult_ok_bind (a : α) (f : α → Render β) :
    (ofResult (.ok a) >>= f) = f a := rfl

/-- A sound memo changes neither what is written nor the result, and stays sound. -/
theorem run_eq (r : Render α) {memo : Memo} (h : memo.Sound) :
    (r memo).edits = r.edits ∧ (r memo).result = r.result ∧ (r memo).memo.Sound := by
  induction r generalizing memo with
  | done result => exact ⟨rfl, rfl, h⟩
  | write e next ih =>
    obtain ⟨hedits, hresult, hsound⟩ := ih h
    exact ⟨congrArg (e :: ·) hedits, hresult, hsound⟩
  | ask q next ih =>
    obtain ⟨hfound, hsound⟩ := Memo.answers_find h q
    rw [edits, result, run, ← hfound]
    exact ih _ hsound

theorem edits_bind {r : Render α} {f : α → Render β} {a : α} (h : r.result = .ok a) :
    (r >>= f).edits = r.edits ++ (f a).edits := by
  induction r with
  | done result =>
    cases h
    rfl
  | write e next ih => exact congrArg (e :: ·) (ih h)
  | ask q next ih => exact ih _ h

theorem result_bind (r : Render α) (f : α → Render β) :
    (r >>= f).result = r.result >>= fun a => (f a).result := by
  induction r with
  | done result => cases result <;> rfl
  | write e next ih => exact ih
  | ask q next ih => exact ih _

end SchemaDdl.Render
