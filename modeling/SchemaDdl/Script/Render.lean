import SchemaDdl.Identifier
import SchemaDdl.Script.Builder
import SchemaDdl.StoreType.Memo

/-!
# Rendering

A rendering writes to a script without ever reading it: what it does is a
list of edits, which stands even if it fails half way. It may ask for store
types, so it takes a memo and hands it on.
-/

namespace SchemaDdl

structure Rendered (α : Type) where
  edits : List Edit
  result : Result α
  memo : Memo

/-- A part of a script that is still to be written: edits one after the other, with questions for
store types between them, up to a result. -/
inductive Render (α : Type) where
  | done (result : Result α)
  | write (e : Edit) (next : Render α)
  | ask (q : TypeQuery) (next : Option Descriptor → Render α)

namespace Render

variable {α β : Type}

instance : Inhabited (Render α) := ⟨done (.error default)⟩

/-- Makes the edits and answers the questions from the memo. -/
def run : Render α → Memo → Rendered α
  | done result, memo => ⟨[], result, memo⟩
  | write e next, memo =>
    let after := next.run memo
    { after with edits := e :: after.edits }
  | ask q next, memo =>
    let (found, memo) := memo.find q
    (next found).run memo

instance : CoeFun (Render α) fun _ => Memo → Rendered α := ⟨run⟩

/-- Goes on after a rendering that has succeeded; the edits of both stand in order. -/
def bind : Render α → (α → Render β) → Render β
  | done (.ok a), next => next a
  | done (.error e), _ => done (.error e)
  | write e rest, next => write e (rest.bind next)
  | ask q rest, next => ask q fun found => (rest found).bind next

instance : Monad Render where
  pure a := done (.ok a)
  bind := bind

def edit (e : Edit) : Render Unit := write e (pure ())

def ofResult (result : Result α) : Render α := done result

def append (text : String) : Render Unit := edit (.append text)

def breakLine : Render Unit := edit .breakLine

def indent : Render Unit := edit .indent

def dedent : Render Unit := edit .dedent

def close (suppressed : Bool) : Render Unit := edit (.close suppressed)

def appendLine (text : String) : Render Unit := do
  append text
  breakLine

def find (q : TypeQuery) : Render (Option Descriptor) := ask q pure

def require (q : TypeQuery) : Render Descriptor := ask q fun found => ofResult (q.required found)

def appendName (object : ObjectName) : Render Unit := do
  let name ← ofResult object.delimit
  append name

def onlyIf (condition : Prop) [Decidable condition] (part : Render Unit) : Render Unit :=
  if condition then part else pure ()

def optionally (about : Option α) (part : α → Render Unit) : Render Unit :=
  match about with
  | some a => part a
  | none => pure ()

/-- Parts with a comma and a line end between each two of them. -/
def commaLines : List (Render Unit) → Render Unit
  | [] => pure ()
  | [part] => part
  | part :: parts => do
    part
    appendLine ","
    commaLines parts

end Render

end SchemaDdl
