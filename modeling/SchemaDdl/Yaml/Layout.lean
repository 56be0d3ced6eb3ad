import SchemaDdl.Yaml.BlockText
import SchemaDdl.Yaml.Scalar
import SchemaDdl.Yaml.Token

/-!
# The layout of YAML text

Columns become tokens here: a part that starts right of the block around it
starts a block of its own, and one that starts left of it ends that block.
Whether something is a key is only known at the colon behind it, so the place
of a possible key is kept until then.
-/

namespace SchemaDdl.Yaml

/-- How many bytes there may be between the start of a key and its colon. -/
def maxKeyLength : Nat := 1024

structure PossibleKey where
  /-- Whether nothing but a key can stand there. -/
  required : Bool
  index : Nat
  start : Position
  deriving Repr

namespace PossibleKey

def isStale (key : PossibleKey) (p : Position) : Bool :=
  key.start.line < p.line || key.start.offset + maxKeyLength < p.offset

end PossibleKey

/-- The tokens read so far, and what has to be known to read on. -/
structure Layout where
  here : Cursor
  /-- The tokens, last one first. -/
  tokens : List Token := []
  count : Nat := 0
  /-- The first columns right of the open blocks, the innermost block first. -/
  margins : List Nat := []
  keyAllowed : Bool := true
  /-- The possible key between the innermost brackets. -/
  possible : Option PossibleKey := none
  /-- The possible keys around each pair of open brackets, the innermost pair first. -/
  outer : List (Option PossibleKey) := []
  deriving Repr

namespace Layout

def column (l : Layout) : Nat := l.here.position.column

def inFlow (l : Layout) : Bool := !l.outer.isEmpty

def margin (l : Layout) : Nat := l.margins.headD 0

def push (l : Layout) (token : Token) : Layout :=
  { l with tokens := token :: l.tokens, count := l.count + 1 }

def take (l : Layout) (token : Token) (length : Nat) : Layout :=
  { l.push token with here := l.here.advance length }

def insert (l : Layout) (index : Nat) (token : Token) : Layout :=
  let (later, earlier) := l.tokens.splitAt (l.count - index)
  { l with tokens := later ++ token :: earlier, count := l.count + 1 }

/-- Ends the blocks whose margins are beyond `bound`. -/
def endBlocks (l : Layout) (bound : Nat) : Layout :=
  -- Brackets end before the blocks around them.
  if l.inFlow then l
  else
    let (ended, margins) := l.margins.span (bound < ·)
    { l with
      margins
      tokens := List.replicate ended.length .blockEnd ++ l.tokens
      count := l.count + ended.length }

/-- Starts a block at a column in front of the tokens from `index` on, unless the innermost one
stands there. -/
def startBlock (l : Layout) (column index : Nat) (token : Token) : Layout :=
  if l.inFlow ∨ column < l.margin then l
  else { l.insert index token with margins := (column + 1) :: l.margins }

def dropKey? (l : Layout) : Option Layout :=
  if (l.possible.map PossibleKey.required).getD false then none
  else some { l with possible := none }

def noteKey? (l : Layout) : Option Layout :=
  if l.keyAllowed then do
    let required := !l.inFlow && l.margin == l.column + 1
    some { ← l.dropKey? with possible := some ⟨required, l.count, l.here.position⟩ }
  else some l

/-- Gives up the possible key if a colon here would come too late. -/
def dropStale? (l : Layout) : Option Layout :=
  if l.possible.any (·.isStale l.here.position) then l.dropKey? else some l

def next? (l : Layout) : Option Layout := do
  let (here, keyAllowed) := l.here.gap l.inFlow l.keyAllowed
  let l ← { l with here, keyAllowed }.dropStale?
  some (l.endBlocks (l.column + 1))

def addMark? (l : Layout) (token : Token) (here : Cursor) : Option Layout := do
  let l ← (l.endBlocks 0).dropKey?
  some { l.push token with here, keyAllowed := false }

def openFlow? (l : Layout) (token : Token) : Option Layout := do
  let l ← l.noteKey?
  some { l.take token 1 with outer := l.possible :: l.outer, possible := none, keyAllowed := true }

def closeFlow? (l : Layout) (token : Token) : Option Layout := do
  let l ← l.dropKey?
  let l := l.take token 1
  match l.outer with
  | [] => some { l with keyAllowed := false }
  | possible :: outer => some { l with outer, possible, keyAllowed := false }

def addComma? (l : Layout) : Option Layout := do
  some { (← l.dropKey?).take .comma 1 with keyAllowed := true }

def addDash? (l : Layout) : Option Layout :=
  if l.inFlow ∨ l.keyAllowed then do
    let l ← (l.startBlock l.column l.count .blockListStart).dropKey?
    some { l.take .dash 1 with keyAllowed := true }
  else none

def addQuestion? (l : Layout) : Option Layout :=
  if l.inFlow ∨ l.keyAllowed then do
    let l ← (l.startBlock l.column l.count .blockMapStart).dropKey?
    some { l.take .key 1 with keyAllowed := !l.inFlow }
  else none

def addColon? (l : Layout) : Option Layout :=
  match l.possible with
  -- What may have been a key before the colon is one.
  | some key =>
    let l := l.insert key.index .key
    let l := l.startBlock key.start.column key.index .blockMapStart
    some { l.take .value 1 with possible := none, keyAllowed := false }
  | none =>
    if l.inFlow ∨ l.keyAllowed then
      let l := l.startBlock l.column l.count .blockMapStart
      some { l.take .value 1 with keyAllowed := !l.inFlow }
    else none

def addContent? (l : Layout) (read : Option (Token × Cursor)) : Option Layout := do
  let l ← l.noteKey?
  let (token, here) ← read
  some { l.push token with here, keyAllowed := false }

def addBlockText? (l : Layout) (folded : Bool) (fuel : Nat) : Option Layout := do
  let l ← l.dropKey?
  let (text, here) ← readBlockText? folded l.margin fuel (l.here.advance 1)
  some { l.push (.scalar false text) with here, keyAllowed := true }

/-- Adds a plain text. Where it ends at a line break a key can follow. -/
def addPlain? (l : Layout) : Option Layout := do
  if startsPlain l.inFlow l.here.rest then
    let l ← l.noteKey?
    let p ← readPlain? l.inFlow l.margin l.here.position {} [] l.here.rest
    some { l.push (.scalar true p.text) with here := p.next, keyAllowed := p.crossed }
  else none

/-- Adds the token that starts with `c`. `fuel` bounds the number of characters. -/
def add? (l : Layout) (fuel : Nat) (c : Char) (cs : List Char) : Option Layout :=
  let name (make : String → Token) : Option (Token × Cursor) :=
    (readName? (l.here.advance 1)).map fun (s, here) => (make s, here)
  let quoted : Option (Token × Cursor) :=
    (readQuoted? fuel l.here).map fun (s, here) => (.scalar false s, here)
  if l.column = 0 ∧ c = '%' then do
    let (token, here) ← readDirective? l.here
    l.addMark? token here
  else if l.here.atMark then
    l.addMark? (if c = '-' then .documentStart else .documentEnd) (l.here.advance 3)
  else if c = '-' ∧ blankNext cs then l.addDash?
  else if c = '?' ∧ (l.inFlow ∨ blankNext cs) then l.addQuestion?
  else if c = ':' ∧ (l.inFlow ∨ blankNext cs) then l.addColon?
  else
    match c with
    | '[' => l.openFlow? .flowListStart
    | ']' => l.closeFlow? .flowListEnd
    | '\x7b' => l.openFlow? .flowMapStart
    | '\x7d' => l.closeFlow? .flowMapEnd
    | ',' => l.addComma?
    | '*' => l.addContent? (name .reference)
    | '&' => l.addContent? (name .anchor)
    | '!' => l.addContent? (readTag? l.inFlow l.here)
    | '|' => if l.inFlow then none else l.addBlockText? false fuel
    | '>' => if l.inFlow then none else l.addBlockText? true fuel
    | '"' => l.addContent? quoted
    | '\'' => l.addContent? quoted
    | _ => l.addPlain?

def run? (fuel : Nat) (l : Layout) : Option (List Token) :=
  match fuel with
  | 0 => none
  | fuel + 1 => do
    let l ← l.next?
    match l.here.rest with
    | [] =>
      let l ← (l.endBlocks 0).dropKey?
      some l.tokens.reverse
    | c :: cs => run? fuel (← l.add? fuel c cs)

end Layout

def tokens? (cs : List Char) : Option (List Token) :=
  Layout.run? (cs.length + 2) { here := .ofChars cs }

end SchemaDdl.Yaml
