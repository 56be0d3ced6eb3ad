/-!
# Positions in YAML text

The structure of a YAML text rests on columns and lines, so a reader carries
the position of what it has not read yet. Line breaks are normalised before
reading starts; afterwards a break is `\n` or one of the separators of
Unicode.
-/

namespace SchemaDdl.Yaml

def isAllowed (c : Char) : Bool :=
  let n := c.toNat
  n == 0x9 || n == 0xA || n == 0xD || n == 0x85 || (0x20 ≤ n && n ≤ 0x7E) ||
    (0xA0 ≤ n && n ≤ 0xFFFD) || 0x10000 ≤ n

/-- The line breaks of ASCII and the next-line character become `\n`. -/
def normalizeBreaks : List Char → List Char
  | [] => []
  | '\r' :: '\n' :: cs => '\n' :: normalizeBreaks cs
  | c :: cs => (if c = '\r' ∨ c.toNat = 0x85 then '\n' else c) :: normalizeBreaks cs

def characters? (s : String) : Option (List Char) :=
  if s.toList.all isAllowed then some (normalizeBreaks s.toList) else none

def isBlank (c : Char) : Bool := c == ' ' || c == '\t'

def isBreak (c : Char) : Bool := c == '\n' || c.toNat == 0x2028 || c.toNat == 0x2029

def blankNext : List Char → Bool
  | [] => true
  | c :: _ => isBlank c || isBreak c

def startsMark : List Char → Bool
  | '-' :: '-' :: '-' :: rest => blankNext rest
  | '.' :: '.' :: '.' :: rest => blankNext rest
  | _ => false

structure Position where
  offset : Nat := 0
  line : Nat := 0
  column : Nat := 0
  deriving DecidableEq, Repr

namespace Position

def after (p : Position) (c : Char) : Position :=
  if isBreak c then ⟨p.offset + c.utf8Size, p.line + 1, 0⟩
  else ⟨p.offset + c.utf8Size, p.line, p.column + 1⟩

end Position

structure Cursor where
  rest : List Char
  position : Position := {}
  deriving Repr

namespace Cursor

/-- The start of a text. A byte order mark there is passed over, but takes up a column. -/
def ofChars : List Char → Cursor
  | [] => ⟨[], {}⟩
  | c :: cs => if c.toNat = 0xFEFF then ⟨cs, Position.after {} c⟩ else ⟨c :: cs, {}⟩

def advance (here : Cursor) : Nat → Cursor
  | 0 => here
  | n + 1 =>
    match here.rest with
    | [] => here
    | c :: cs => advance ⟨cs, here.position.after c⟩ n

def span (here : Cursor) (p : Char → Bool) : List Char × Cursor :=
  let taken := here.rest.takeWhile p
  (taken, here.advance taken.length)

def atMark (here : Cursor) : Bool := here.position.column == 0 && startsMark here.rest

/-- Passes over spaces, comments and line breaks. Tabs belong to them in a flow and where no key
can start; outside of flows a key can start on every new line. -/
def skipGap (flow keyAllowed comment : Bool) (p : Position) : List Char → Cursor × Bool
  | [] => (⟨[], p⟩, keyAllowed)
  | c :: cs =>
    if isBreak c then skipGap flow (keyAllowed || !flow) false (p.after c) cs
    else if comment ∨ c = '#' then skipGap flow keyAllowed true (p.after c) cs
    else if c = ' ' ∨ (c = '\t' ∧ (flow ∨ ¬ keyAllowed)) then
      skipGap flow keyAllowed false (p.after c) cs
    else (⟨c :: cs, p⟩, keyAllowed)

def gap (here : Cursor) (flow keyAllowed : Bool) : Cursor × Bool :=
  skipGap flow keyAllowed false here.position here.rest

end Cursor

end SchemaDdl.Yaml
