import SchemaDdl.Yaml.Layout

/-!
# YAML nodes

The tokens of a text describe a tree of scalars, lists and maps. Any node can
be the key of a map. An anchored node has a number, by which aliases refer to
it.
-/

namespace SchemaDdl.Yaml

inductive Node where
  | scalar (tag : Option String) (plain : Bool) (text : String)
  | list (tag : Option String) (items : List Node)
  | map (tag : Option String) (entries : List (Node × Node))
  | reference (number : Nat)
  deriving Inhabited

/-- The node of something that is left out. -/
def Node.absent : Node := .scalar none true ""

structure Graph where
  root : Node
  anchored : List (Nat × Node) := []
  /-- More than the number of any anchor. -/
  bound : Nat := 0

structure Reading where
  tokens : List Token
  numbers : List (String × Nat) := []
  anchored : List (Nat × Node) := []

namespace Reading

def at? (r : Reading) (p : Token → Bool) : Bool := (r.tokens.head?.map p).getD false

def drop (r : Reading) : Reading := { r with tokens := r.tokens.drop 1 }

/-- Gives an anchor its number, which is the number of names before it. -/
def number (r : Reading) (name : String) : Nat × Reading :=
  let n := r.numbers.length
  (n, { r with numbers := (name, n) :: r.numbers.filter (·.1 ≠ name) })

def keep (r : Reading) (number : Option Nat) (node : Node) : Reading :=
  match number with
  | none => r
  | some n => { r with anchored := (n, node) :: r.anchored }

end Reading

structure Properties where
  number : Option Nat := none
  tag : Option (String × String) := none

namespace Properties

/-- An anchor and a tag, in either order; each may be missing. -/
def read (r : Reading) : Properties × Reading :=
  match r.tokens with
  | .anchor name :: .tag handle suffix :: rest =>
    let (n, r) := { r with tokens := rest }.number name
    (⟨some n, some (handle, suffix)⟩, r)
  | .tag handle suffix :: .anchor name :: rest =>
    let (n, r) := { r with tokens := rest }.number name
    (⟨some n, some (handle, suffix)⟩, r)
  | .anchor name :: rest =>
    let (n, r) := { r with tokens := rest }.number name
    (⟨some n, none⟩, r)
  | .tag handle suffix :: rest => (⟨none, some (handle, suffix)⟩, { r with tokens := rest })
  | _ => ({}, r)

def isEmpty (p : Properties) : Bool := p.number.isNone && p.tag.isNone

def tag? (handles : List (String × String)) (p : Properties) : Option (Option String) :=
  match p.tag with
  | none => some none
  | some ("", suffix) => some (some suffix)
  | some (handle, suffix) => (handles.lookup handle).map fun lead => some (lead ++ suffix)

end Properties

namespace Token

def endsItem : Token → Bool
  | dash | blockEnd => true
  | _ => false

def endsEntry : Token → Bool
  | key | value | blockEnd => true
  | _ => false

def endsFlowItem : Token → Bool
  | comma | flowListEnd => true
  | _ => false

def endsFlowEntry : Token → Bool
  | comma | flowMapEnd => true
  | _ => false

def startsDocument : Token → Bool
  | version _ | handle _ _ | documentStart => true
  | _ => false

end Token

namespace Node

section

variable (handles : List (String × String))

mutual

/-- Reads a node. `listHere` holds where the items of a list may follow without a start of
their own. -/
def read? (fuel : Nat) (listHere : Bool) (start : Reading) : Option (Node × Reading) :=
  match fuel with
  | 0 => none
  | fuel + 1 =>
    match start.tokens with
    | .reference name :: _ => (start.numbers.lookup name).map fun n => (.reference n, start.drop)
    | _ => do
      let (properties, r) := Properties.read start
      let tag ← properties.tag? handles
      let (node, r) ←
        match r.tokens with
        | .scalar plain text :: _ => some (.scalar (tag.filter (· ≠ "!")) plain text, r.drop)
        | .flowListStart :: _ => do
          let (items, r) ← readFlowItems? fuel [] r.drop
          some (.list tag items, r)
        | .flowMapStart :: _ => do
          let (entries, r) ← readFlowEntries? fuel [] r.drop
          some (.map tag entries, r)
        | .blockListStart :: _ => do
          let (items, r) ← readItems? fuel [] r.drop
          some (.list tag items, r)
        | .blockMapStart :: _ => do
          let (entries, r) ← readEntries? fuel [] r.drop
          some (.map tag entries, r)
        | _ =>
          if listHere ∧ r.at? (· = .dash) then do
            let (items, r) ← readListHere? fuel [] r
            some (.list tag items, r)
          else if properties.isEmpty then none
          else some (.scalar tag true "", r)
      some (node, r.keep properties.number node)
termination_by structural fuel

/-- Reads a node unless the next token shows that it is left out. -/
def readUnless? (fuel : Nat) (ends : Token → Bool) (listHere : Bool) (r : Reading) :
    Option (Node × Reading) :=
  match fuel with
  | 0 => none
  | fuel + 1 => if r.at? ends then some (absent, r) else read? fuel listHere r
termination_by structural fuel

def readItems? (fuel : Nat) (items : List Node) (r : Reading) : Option (List Node × Reading) :=
  match fuel with
  | 0 => none
  | fuel + 1 =>
    match r.tokens with
    | .dash :: _ => do
      let (item, r) ← readUnless? fuel Token.endsItem false r.drop
      readItems? fuel (item :: items) r
    | .blockEnd :: _ => some (items.reverse, r.drop)
    | _ => none
termination_by structural fuel

/-- The items of a list right under its key, up to what is no item. -/
def readListHere? (fuel : Nat) (items : List Node) (r : Reading) :
    Option (List Node × Reading) :=
  match fuel with
  | 0 => none
  | fuel + 1 =>
    match r.tokens with
    | .dash :: _ => do
      let ends (t : Token) : Bool := t.endsItem || t.endsEntry
      let (item, r) ← readUnless? fuel ends false r.drop
      readListHere? fuel (item :: items) r
    | _ => some (items.reverse, r)
termination_by structural fuel

def readValue? (fuel : Nat) (ends : Token → Bool) (listHere : Bool) (r : Reading) :
    Option (Node × Reading) :=
  match fuel with
  | 0 => none
  | fuel + 1 =>
    match r.tokens with
    | .value :: _ => readUnless? fuel ends listHere r.drop
    | _ => some (absent, r)
termination_by structural fuel

def readEntries? (fuel : Nat) (entries : List (Node × Node)) (r : Reading) :
    Option (List (Node × Node) × Reading) :=
  match fuel with
  | 0 => none
  | fuel + 1 =>
    match r.tokens with
    | .key :: _ => do
      let (key, r) ← readUnless? fuel Token.endsEntry true r.drop
      let (value, r) ← readValue? fuel Token.endsEntry true r
      readEntries? fuel ((key, value) :: entries) r
    | .blockEnd :: _ => some (entries.reverse, r.drop)
    | _ => none
termination_by structural fuel

/-- A part of a list between brackets, which may be a single entry. -/
def readFlowItem? (fuel : Nat) (r : Reading) : Option (Node × Reading) :=
  match fuel with
  | 0 => none
  | fuel + 1 =>
    match r.tokens with
    | .key :: t :: _ => do
      let (key, r) ←
        if t = .value ∨ t.endsFlowItem then some (absent, r.drop.drop) else read? fuel false r.drop
      let (value, r) ← readValue? fuel Token.endsFlowItem false r
      some (.map none [(key, value)], r)
    | _ => read? fuel false r
termination_by structural fuel

def readFlowItems? (fuel : Nat) (items : List Node) (r : Reading) :
    Option (List Node × Reading) :=
  match fuel with
  | 0 => none
  | fuel + 1 =>
    if r.at? (· = .flowListEnd) then some (items.reverse, r.drop)
    else do
      let (item, r) ← readFlowItem? fuel r
      if r.at? (· = .comma) then readFlowItems? fuel (item :: items) r.drop
      else if r.at? (· = .flowListEnd) then some ((item :: items).reverse, r.drop)
      else none
termination_by structural fuel

/-- An entry of a map between braces; the value may be left out with its colon. -/
def readFlowEntry? (fuel : Nat) (r : Reading) : Option ((Node × Node) × Reading) :=
  match fuel with
  | 0 => none
  | fuel + 1 =>
    match r.tokens with
    | .key :: _ => do
      let ends (t : Token) : Bool := t = .value || t.endsFlowEntry
      let (key, r) ← readUnless? fuel ends false r.drop
      let (value, r) ← readValue? fuel Token.endsFlowEntry false r
      some ((key, value), r)
    | _ => (read? fuel false r).map fun (key, r) => ((key, absent), r)
termination_by structural fuel

def readFlowEntries? (fuel : Nat) (entries : List (Node × Node)) (r : Reading) :
    Option (List (Node × Node) × Reading) :=
  match fuel with
  | 0 => none
  | fuel + 1 =>
    if r.at? (· = .flowMapEnd) then some (entries.reverse, r.drop)
    else do
      let (entry, r) ← readFlowEntry? fuel r
      if r.at? (· = .comma) then readFlowEntries? fuel (entry :: entries) r.drop
      else if r.at? (· = .flowMapEnd) then some ((entry :: entries).reverse, r.drop)
      else none
termination_by structural fuel

end

end

end Node

def standardHandles : List (String × String) := [("!", "!"), ("!!", "tag:yaml.org,2002:")]

/-- The meanings of tag handles that directives give, and what follows the directives. Only one
of them can be about the version, and each handle can have one. -/
def readHandles? (versioned : Bool) (handles : List (String × String)) :
    List Token → Option (List (String × String) × List Token)
  | .version known :: rest =>
    if known ∧ ¬ versioned then readHandles? true handles rest else none
  | .handle name lead :: rest =>
    if (handles.lookup name).isNone then readHandles? versioned ((name, lead) :: handles) rest
    else none
  | rest => some (handles, rest)

namespace Graph

def ofRoot? (handles : List (String × String)) (tokens : List Token) : Option Graph := do
  let (root, r) ← Node.read? handles (4 * tokens.length + 8) false { tokens }
  if r.tokens.all (· = .documentEnd) then some ⟨root, r.anchored, r.numbers.length + 1⟩ else none

/-- Reads the one document of a text, if there is one. Only directives and a mark at the start
can be followed by nothing. -/
def ofTokens? (tokens : List Token) : Option (Option Graph) :=
  match tokens with
  | [] => some none
  | first :: _ =>
    if first.startsDocument then
      match readHandles? false [] tokens with
      | some (handles, .documentStart :: rest) =>
        if rest.all (· = .documentEnd) then some (some { root := .absent })
        else (ofRoot? (handles ++ standardHandles) rest).map some
      | _ => none
    else (ofRoot? standardHandles tokens).map some

end Graph

end SchemaDdl.Yaml
