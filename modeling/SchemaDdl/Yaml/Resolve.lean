import SchemaDdl.Document
import SchemaDdl.Yaml.Node

/-!
# Values of YAML nodes

A plain scalar has no quotes to mark it as a text. Where types matter it
stands for a null, a truth value or a number if it is written like one;
otherwise its type is left open. An alias has the value of its anchored node.
-/

namespace SchemaDdl.Yaml

section Scalars

def baseDigit? (base : Nat) (c : Char) : Option Nat :=
  (Numeral.hexValue? c).filter (· < base)

def readBased? (base : Nat) (cs : List Char) : Option Nat :=
  if cs = [] then none
  else cs.foldlM (fun n c => (baseDigit? base c).map (base * n + ·)) 0

def readMarked? : List Char → Option Nat
  | '0' :: 'x' :: cs => readBased? 16 cs
  | '0' :: 'o' :: cs => readBased? 8 cs
  | '0' :: 'b' :: cs => readBased? 2 cs
  | _ => none

/-- Whether digits start with a zero that has no meaning. -/
def zeroFilled (cs : List Char) : Bool :=
  match cs with
  | '0' :: c :: rest => (c :: rest).all Numeral.isDigit
  | _ => false

def readMagnitude? (cs : List Char) : Option Nat :=
  (readMarked? cs).orElse fun _ => if zeroFilled cs then none else Numeral.readNat? cs

def readInteger? : List Char → Option Int
  | '-' :: cs => (readMagnitude? cs).map fun n => -(n : Int)
  | '+' :: cs => (readMagnitude? cs).map Int.ofNat
  | cs => (readMagnitude? cs).map Int.ofNat

def special? : List Char → Option (Binary .binary64)
  | '-' :: cs => if isInfinity cs then some (.infinite true) else none
  | '+' :: cs => if isInfinity cs then some (.infinite false) else none
  | cs =>
    if isInfinity cs then some (.infinite false)
    else if [".nan", ".NaN", ".NAN"].contains (String.ofList cs) then some .nan
    else none
where
  isInfinity (cs : List Char) : Bool := [".inf", ".Inf", ".INF"].contains (String.ofList cs)

def finite? (cs : List Char) : Option (Binary .binary64) :=
  match Binary.read? .binary64 cs with
  | some (.finite x) => some (.finite x)
  | _ => none

def readReal? (cs : List Char) : Option (Binary .binary64) :=
  (special? cs).orElse fun _ => finite? cs

def readBool? (s : String) : Option Bool :=
  if ["true", "True", "TRUE"].contains s then some true
  else if ["false", "False", "FALSE"].contains s then some false
  else none

/-- Whether digits after an optional sign are a text because of their leading zero. -/
def isZeroFilled : List Char → Bool
  | '-' :: cs => zeroFilled cs
  | '+' :: cs => zeroFilled cs
  | cs => zeroFilled cs

def isInteger64 (n : Int) : Bool := -9223372036854775808 ≤ n ∧ n ≤ 18446744073709551615

def isInteger128 (n : Int) : Bool :=
  -170141183460469231731687303715884105728 ≤ n ∧ n ≤ 340282366920938463463374607431768211455

def number? (cs : List Char) : Option Document :=
  let real := if isZeroFilled cs then none else (readReal? cs).map Document.real
  match readInteger? cs with
  | none => real
  | some n =>
    -- Integers beyond 128 bits are floating-point numbers, and those between are unreadable.
    if isInteger64 n then some (.integer n)
    else if isInteger128 n then some .unreadable
    else real

def plainValue (s : String) : Document :=
  if Document.isNullWord s then .null
  else
    match readBool? s with
    | some b => .bool b
    | none => (number? s.toList).getD (.text s)

/-- What a scalar with a tag stands for where types matter. Only some tags have a meaning. -/
def taggedValue (tag s : String) : Document :=
  if tag.startsWith "!" then .unreadable
  else
    match tag with
    | "tag:yaml.org,2002:null" => if s ≠ "" ∧ Document.isNullWord s then .null else .unreadable
    | "tag:yaml.org,2002:bool" => ((readBool? s).map Document.bool).getD .unreadable
    | "tag:yaml.org,2002:float" => ((readReal? s.toList).map Document.real).getD .unreadable
    | "tag:yaml.org,2002:int" =>
      match readInteger? s.toList with
      | some n => if isInteger64 n then .integer n else .unreadable
      | none => .unreadable
    | _ => .text s

/-- A scalar whose type is left open if it is a plain one. -/
def openValue (tag : Option String) (plain : Bool) (s : String) : Document :=
  if plain ∧ (tag.all (· = "tag:yaml.org,2002:null")) then .word s else .text s

end Scalars

namespace Node

mutual

def openDocument (aliased : Nat → Document) : Node → Document
  | scalar tag plain s => openValue tag plain s
  | list _ items => .list (openItems aliased items)
  | map _ entries => .map (openEntries aliased entries)
  | reference number => aliased number

def openItems (aliased : Nat → Document) : List Node → List Document
  | [] => []
  | item :: items => openDocument aliased item :: openItems aliased items

def openEntries (aliased : Nat → Document) : List (Node × Node) → List (Document × Document)
  | [] => []
  | (key, value) :: entries =>
    (openDocument aliased key, openDocument aliased value) :: openEntries aliased entries

end

/-- Whether a collection's tag leaves it what it is. -/
def ordinary (tag : Option String) : Bool := tag.all fun s => !s.startsWith "!"

mutual

def typedDocument (aliased : Nat → Document) : Node → Document
  | scalar none true s => plainValue s
  | scalar none false s => .text s
  | scalar (some tag) _ s => taggedValue tag s
  | list tag items => if ordinary tag then .list (typedItems aliased items) else .unreadable
  | map tag entries => if ordinary tag then .map (typedEntries aliased entries) else .unreadable
  | reference number => aliased number

def typedItems (aliased : Nat → Document) : List Node → List Document
  | [] => []
  | item :: items => typedDocument aliased item :: typedItems aliased items

def typedEntries (aliased : Nat → Document) : List (Node × Node) → List (Document × Document)
  | [] => []
  | (key, value) :: entries =>
    (typedDocument aliased key, typedDocument aliased value) :: typedEntries aliased entries

end

mutual

def size : Node → Nat
  | list _ items => sizeOfItems items + 2
  | map _ entries => sizeOfEntries entries + 2
  | _ => 1

def sizeOfItems : List Node → Nat
  | [] => 0
  | item :: items => item.size + sizeOfItems items

def sizeOfEntries : List (Node × Node) → Nat
  | [] => 0
  | (key, value) :: entries => key.size + value.size + sizeOfEntries entries

end

mutual

def follows (aliased : Nat → Nat) : Node → Nat
  | list _ items => followsOfItems aliased items
  | map _ entries => followsOfEntries aliased entries
  | reference number => aliased number + 1
  | scalar _ _ _ => 0

def followsOfItems (aliased : Nat → Nat) : List Node → Nat
  | [] => 0
  | item :: items => follows aliased item + followsOfItems aliased items

def followsOfEntries (aliased : Nat → Nat) : List (Node × Node) → Nat
  | [] => 0
  | (key, value) :: entries =>
    follows aliased key + follows aliased value + followsOfEntries aliased entries

end

end Node

namespace Graph

/-- How often a node that holds an alias of itself is entered at least. -/
def reentries : Nat := 8

/-- How many aliases may be followed for each part of the text. -/
def followLimit : Nat := 100

def nodes (g : Graph) : Array Node :=
  ((List.range g.bound).map fun n => (g.anchored.lookup n).getD (.reference n)).toArray

/-- The values of anchored nodes. Each round uses those of the round before, so that chains of
aliases are followed to their ends. -/
def valuesOf (nodes : Array Node) (read : (Nat → β) → Node → β) (unknown : β) : Nat → Array β
  | 0 => #[]
  | rounds + 1 =>
    let values := valuesOf nodes read unknown rounds
    nodes.map (read fun n => values[n]?.getD unknown)

def value (g : Graph) (read : (Nat → β) → Node → β) (unknown : β) : β :=
  let values := valuesOf g.nodes read unknown (g.bound + reentries)
  read (fun n => values[n]?.getD unknown) g.root

def openDocument (g : Graph) : Document := g.value Node.openDocument .unreadable

/-- The document where types matter, unless it follows too many aliases. -/
def typedDocument? (g : Graph) : Option Document :=
  if g.value Node.follows 0 ≤ followLimit * g.root.size then
    some (g.value Node.typedDocument .unreadable)
  else none

end Graph

def parse? (s : String) : Option (Option Graph) := do
  Graph.ofTokens? (← tokens? (← characters? s))

end SchemaDdl.Yaml
