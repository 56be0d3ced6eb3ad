import SchemaDdl.Binary

/-!
# Documents

The tree that operation files, models and settings are read from. Maps keep
the order of their entries and may repeat a key; whoever reads an entry by
name refuses a repeated one. A `word` is a scalar whose type was left open,
and an `unreadable` part does no harm as long as nobody reads it.
-/

namespace SchemaDdl

inductive Document where
  | null
  | bool (b : Bool)
  | integer (n : Int)
  | real (x : Binary .binary64)
  | text (s : String)
  | word (s : String)
  | list (items : List Document)
  | map (entries : List (Document × Document))
  | unreadable
  deriving Inhabited

abbrev Fields := List (String × Document)

namespace Document

def ofFields (fields : Fields) : Document := map (fields.map fun (name, d) => (text name, d))

mutual

/-- How many containers are open around the innermost part. -/
def depth : Document → Nat
  | list items => depthOfItems items + 1
  | map entries => depthOfEntries entries + 1
  | _ => 0

def depthOfItems : List Document → Nat
  | [] => 0
  | item :: items => max item.depth (depthOfItems items)

def depthOfEntries : List (Document × Document) → Nat
  | [] => 0
  | (key, d) :: entries => max (max key.depth d.depth) (depthOfEntries entries)

end

mutual

def readable : Document → Bool
  | list items => readableItems items
  | map entries => readableEntries entries
  | unreadable => false
  | _ => true

def readableItems : List Document → Bool
  | [] => true
  | item :: items => item.readable && readableItems items

def readableEntries : List (Document × Document) → Bool
  | [] => true
  | (key, d) :: entries => key.readable && d.readable && readableEntries entries

end

def isNullWord (s : String) : Bool := ["", "~", "null", "Null", "NULL"].contains s

def text? : Document → Option String
  | text s => some s
  | word s => some s
  | _ => none

def bool? : Document → Option Bool
  | bool b => some b
  | _ => none

def integerBetween? (low high : Int) : Document → Option Int
  | integer n => if low ≤ n ∧ n ≤ high then some n else none
  | _ => none

def word32? (d : Document) : Option Nat :=
  (d.integerBetween? 0 Numeral.word32Limit).map Int.toNat

def int64? (d : Document) : Option Int64 :=
  (d.integerBetween? (-9223372036854775808) 9223372036854775807).map Int64.ofInt

/-- The items of a list; an empty word is an empty list. -/
def list? : Document → Option (List Document)
  | list items => some items
  | word "" => some []
  | _ => none

def listOf? (read : Document → Option α) (d : Document) : Option (List α) := do
  (← d.list?).mapM read

/-- The entries of a map; an empty word is an empty map. -/
def entries? : Document → Option (List (Document × Document))
  | map entries => some entries
  | word "" => some []
  | _ => none

/-- The name that a key stands for. A number counts the names that are expected; one that is too
large stands for nothing. -/
def keyName? (names : List String) : Document → Option (Option String)
  | text s => some (some s)
  | word s => some (some s)
  | integer n => if 0 ≤ n then some names[n.toNat]? else none
  | _ => none

def namedField? (names : List String) (entry : Document × Document) :
    Option (Option (String × Document)) :=
  (keyName? names entry.1).map fun found => found.map fun name => (name, entry.2)

def named? (names : List String) (entries : List (Document × Document)) : Option Fields :=
  (entries.mapM (namedField? names)).map fun fields => fields.filterMap id

def fields? (names : List String) (d : Document) : Option Fields := do named? names (← d.entries?)

def optional? (read : Document → Option α) : Document → Option (Option α)
  | null => some none
  | word s => if isNullWord s then some none else (read (word s)).map some
  | d => (read d).map some

/-- The value of an entry, if there is one; an entry that is repeated is refused. -/
def entry? (fields : Fields) (name : String) : Option (Option Document) :=
  match fields.filter fun (key, _) => key = name with
  | [] => some none
  | [(_, d)] => some (some d)
  | _ => none

/-- Reads an entry; `default` stands in for a missing one. -/
def field? (fields : Fields) (name : String) (read : Document → Option α) (default : α) :
    Option α := do
  match ← entry? fields name with
  | none => some default
  | some d => read d

def optionalField? (fields : Fields) (name : String) (read : Document → Option α) :
    Option (Option α) :=
  field? fields name (optional? read) none

end Document

end SchemaDdl
