import SchemaDdl.Numeral
import SchemaDdl.Yaml.Cursor

/-!
# YAML tokens

A text is a list of tokens: scalars and their properties, the marks between
the parts of a collection, and the places where a block starts or ends.
-/

namespace SchemaDdl.Yaml

inductive Token where
  | version (known : Bool)
  /-- A directive that says what a tag handle stands for. -/
  | handle (name lead : String)
  | documentStart
  | documentEnd
  | blockListStart
  | blockMapStart
  | blockEnd
  | flowListStart
  | flowListEnd
  | flowMapStart
  | flowMapEnd
  | comma
  | dash
  | key
  | value
  | anchor (name : String)
  | reference (name : String)
  | tag (handle suffix : String)
  | scalar (plain : Bool) (text : String)
  deriving DecidableEq, Repr

def isNameChar (c : Char) : Bool := c.isAlphanum || c == '_' || c == '-'

def isTagChar (c : Char) : Bool := isNameChar c || ";/?:@&=+$.%!~*'()".contains c

def isVerbatimChar (c : Char) : Bool := isTagChar c || [',', '[', ']'].contains c

/-- The text of a tag, in which a character may be written by its code. -/
def unescapeTag? : List Char → Option (List Char)
  | [] => some []
  | '%' :: a :: b :: cs => do
    let high ← Numeral.hexValue? a
    let low ← Numeral.hexValue? b
    (unescapeTag? cs).map (Char.ofNat (16 * high + low) :: ·)
  | c :: cs => if c = '%' then none else (unescapeTag? cs).map (c :: ·)

def readTagText? (p : Char → Bool) (here : Cursor) : Option (String × Cursor) := do
  let (written, next) := here.span p
  some (String.ofList (← unescapeTag? written), next)

def endsName (cs : List Char) : Bool :=
  blankNext cs || (cs.head?.map ['?', ':', ',', ']', '\x7d', '%', '@', '\x60'].contains).getD false

def readName? (here : Cursor) : Option (String × Cursor) :=
  let (name, next) := here.span isNameChar
  if name ≠ [] ∧ endsName next.rest then some (String.ofList name, next) else none

def readHandle? (here : Cursor) : Option (String × Cursor) :=
  match here.rest with
  | '!' :: _ =>
    let (name, next) := (here.advance 1).span isNameChar
    match next.rest with
    | '!' :: _ => some ("!" ++ String.ofList name ++ "!", next.advance 1)
    | _ => none
  | _ => none

/-- A tag without the check of what follows it. A lone exclamation mark has no handle. -/
def readTagForm? (here : Cursor) : Option (Token × Cursor) :=
  match here.rest with
  | '!' :: '<' :: _ => do
    let (suffix, next) ← readTagText? isVerbatimChar (here.advance 2)
    if suffix ≠ "" ∧ next.rest.head? = some '>' then some (.tag "" suffix, next.advance 1) else none
  | _ =>
    match readHandle? here with
    | some (name, next) => do
      let (suffix, next) ← readTagText? isTagChar next
      if suffix ≠ "" then some (.tag name suffix, next) else none
    | none => do
      let (suffix, next) ← readTagText? isTagChar (here.advance 1)
      some (if suffix = "" then .tag "" "!" else .tag "!" suffix, next)

/-- A tag. A comma can follow it only in a flow. -/
def readTag? (flow : Bool) (here : Cursor) : Option (Token × Cursor) := do
  let (tag, next) ← readTagForm? here
  if blankNext next.rest ∨ (flow ∧ next.rest.head? = some ',') then some (tag, next) else none

def readVersionPart? (here : Cursor) : Option (Nat × Cursor) := do
  let (digits, next) := here.span Numeral.isDigit
  if digits.length ≤ 9 then some (← Numeral.readNat? digits, next) else none

def readVersion? (here : Cursor) : Option (Token × Cursor) := do
  let (major, next) ← readVersionPart? here
  if next.rest.head? = some '.' then do
    let (minor, next) ← readVersionPart? (next.advance 1)
    some (.version (major = 1 ∧ (minor = 1 ∨ minor = 2)), next)
  else none

def readHandleMeaning? (here : Cursor) : Option (Token × Cursor) := do
  let (name, next) ←
    match readHandle? here with
    | some found => some found
    | none => if here.rest.head? = some '!' then some ("!", here.advance 1) else none
  let (blanks, next) := next.span isBlank
  let (lead, next) ← readTagText? isVerbatimChar next
  if blanks ≠ [] ∧ lead ≠ "" ∧ blankNext next.rest then some (.handle name lead, next) else none

def readDirective? (here : Cursor) : Option (Token × Cursor) := do
  let (name, next) := (here.advance 1).span isNameChar
  let (blanks, next) := next.span isBlank
  let (directive, next) ←
    if blanks = [] then none
    else
      match String.ofList name with
      | "YAML" => readVersion? next
      | "TAG" => readHandleMeaning? next
      | _ => none
  let next := (next.span isBlank).2
  let next := if next.rest.head? = some '#' then (next.span (!isBreak ·)).2 else next
  match next.rest with
  | [] => some (directive, next)
  | c :: _ => if isBreak c then some (directive, next.advance 1) else none

end SchemaDdl.Yaml
