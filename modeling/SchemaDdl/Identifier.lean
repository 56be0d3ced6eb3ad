import SchemaDdl.Error
import SchemaDdl.Text.Doubled
import SchemaDdl.Text.Shown

/-!
# Identifiers

The names of schemas, tables, columns and other objects. A name is checked
before it is written between double quotes, because a server would cut a
longer name silently and cannot hold a NUL character.
-/

namespace SchemaDdl

namespace Identifier

/-- The number of bytes that the server keeps of a name. -/
def maxBytes : Nat := 63

inductive Fault where
  | empty
  | holdsNul (name : String)
  | tooLong (name : String)
  deriving DecidableEq, Repr

def Fault.text : Fault → String
  | empty => "Identifier cannot be empty"
  | holdsNul name =>
    "SECURITY: Identifier contains null byte (possible injection attempt): " ++ Text.shown name
  | tooLong name =>
    "Identifier exceeds maximum length of " ++ Numeral.ofNat maxBytes ++ " bytes (got " ++
      Numeral.ofNat name.utf8ByteSize ++ " bytes): " ++ Text.shown name

/-- The first fault of a name: empty, then a NUL character, then its length. -/
def fault? (name : String) : Option Fault :=
  if name = "" then some .empty
  else if Char.ofNat 0 ∈ name.toList then some (.holdsNul name)
  else if maxBytes < name.utf8ByteSize then some (.tooLong name)
  else none

def Valid (name : String) : Prop := fault? name = none

instance (name : String) : Decidable (Valid name) := inferInstanceAs (Decidable (_ = none))

def check (name : String) : Result Unit :=
  match fault? name with
  | none => .ok ()
  | some fault => .error (.config fault.text)

def quote (name : String) : String := Text.enclose '"' name

theorem check_eq_ok_iff {name : String} : check name = .ok () ↔ Valid name := by
  rw [check, Valid]
  split <;> simp_all

theorem valid_iff {name : String} :
    Valid name ↔ name ≠ "" ∧ Char.ofNat 0 ∉ name.toList ∧ name.utf8ByteSize ≤ maxBytes := by
  rw [Valid, fault?]
  split
  · next h => simp [h]
  · next hne =>
    split
    · next hnul => simp [hnul]
    · next hnul =>
      split
      · next hlong => simp [Nat.not_le.2 hlong]
      · next hlong => simp [hne, hnul, Nat.not_lt.1 hlong]

end Identifier

structure ObjectName where
  schema : Option String := none
  name : String := ""
  deriving DecidableEq, Repr, Inhabited

namespace ObjectName

/-- The name is checked before the schema; both are quoted and joined by a point. -/
def delimit (object : ObjectName) : Result String := do
  Identifier.check object.name
  match object.schema with
  | none => pure (Identifier.quote object.name)
  | some schema => do
    Identifier.check schema
    pure (Identifier.quote schema ++ "." ++ Identifier.quote object.name)

end ObjectName

namespace Identifier

def delimit (name : String) : Result String := ({ name } : ObjectName).delimit

def delimitList (names : List String) : Result String := do
  let quoted ← names.mapM delimit
  pure (String.intercalate ", " quoted)

end Identifier

end SchemaDdl
