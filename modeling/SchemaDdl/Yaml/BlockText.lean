import SchemaDdl.Numeral
import SchemaDdl.Yaml.Cursor

/-!
# YAML text in blocks

Lines that are indented alike form a text, either kept as they are or folded
into one line for each paragraph. The header says what becomes of the line
breaks at the end.
-/

namespace SchemaDdl.Yaml

inductive Chomp where
  /-- All are dropped. -/
  | strip
  /-- One is kept. -/
  | clip
  /-- All are kept. -/
  | keep
  deriving DecidableEq, Repr

namespace Chomp

def ofChar? : Char → Option Chomp
  | '-' => some strip
  | '+' => some keep
  | _ => none

end Chomp

structure BlockHeader where
  chomp : Chomp := .clip
  /-- The columns by which the block is indented, if the header says so. -/
  shift : Option Nat := none
  deriving DecidableEq, Repr

namespace BlockHeader

def shiftOfChar? (c : Char) : Option Nat :=
  if Numeral.isDigit c ∧ c ≠ '0' then some (Numeral.digitValue c) else none

def add? (header : BlockHeader) (c : Char) : Option BlockHeader :=
  match Chomp.ofChar? c, shiftOfChar? c with
  | some chomp, _ => if header.chomp = .clip then some { header with chomp } else none
  | none, some n => if header.shift = none then some { header with shift := some n } else none
  | none, none => none

def readIndicators (header : BlockHeader) (p : Position) : List Char → BlockHeader × Cursor
  | [] => (header, ⟨[], p⟩)
  | c :: cs =>
    match header.add? c with
    | some header => readIndicators header (p.after c) cs
    | none => (header, ⟨c :: cs, p⟩)

def endLine? (here : Cursor) : Option Cursor :=
  let here := (here.span isBlank).2
  let here := if here.rest.head? = some '#' then (here.span (!isBreak ·)).2 else here
  match here.rest with
  | [] => some here
  | c :: _ => if isBreak c then some (here.advance 1) else none

def read? (here : Cursor) : Option (BlockHeader × Cursor) :=
  let (header, here) := readIndicators {} here.position here.rest
  (endLine? here).map (header, ·)

end BlockHeader

structure BlockGap where
  breaks : List Char
  widest : Nat
  next : Cursor

/-- Passes over empty lines and the indentation of the next line. The block is indented by
`indent` columns; zero means that this is not known yet. -/
def readBlockGap? (indent : Nat) (breaks : List Char) (widest : Nat) (p : Position) :
    List Char → Option BlockGap
  | [] => some ⟨breaks, max widest p.column, ⟨[], p⟩⟩
  | c :: cs =>
    if isBreak c then
      readBlockGap? indent (c :: breaks) (max widest p.column) (p.after c) cs
    else if (indent = 0 ∨ p.column < indent) ∧ c = ' ' then
      readBlockGap? indent breaks widest (p.after c) cs
    else if (indent = 0 ∨ p.column < indent) ∧ c = '\t' then none
    else some ⟨breaks, max widest p.column, ⟨c :: cs, p⟩⟩

structure BlockLines where
  /-- The text, last character first. -/
  read : List Char := []
  ending : Option Char := none
  empty : List Char := []
  /-- Whether the last line starts with a blank. -/
  indented : Bool := false

namespace BlockLines

/-- Adds a line. Folding joins two lines that are not indented further. -/
def add (folded : Bool) (b : BlockLines) (line : List Char) (ending : Option Char)
    (empty : List Char) : BlockLines :=
  let indented := (line.head?.map isBlank).getD false
  let read :=
    if folded && b.ending == some '\n' && !b.indented && !indented then
      if b.empty = [] then ' ' :: b.read else b.read
    else b.ending.toList ++ b.read
  { read := line.reverse ++ (b.empty ++ read), ending, empty, indented }

def finish (chomp : Chomp) (b : BlockLines) : String :=
  let read := if chomp = .strip then b.read else b.ending.toList ++ b.read
  let read := if chomp = .keep then b.empty ++ read else read
  String.ofList read.reverse

end BlockLines

def readBlockLines? (folded : Bool) (indent fuel : Nat) (b : BlockLines) (here : Cursor) :
    Option (BlockLines × Cursor) :=
  match fuel with
  | 0 => none
  | fuel + 1 =>
    if here.position.column ≠ indent ∨ here.rest = [] then some (b, here)
    else do
      let (line, stop) := here.span (!isBreak ·)
      let next := stop.advance 1
      let gap ← readBlockGap? indent [] 0 next.position next.rest
      readBlockLines? folded indent fuel (b.add folded line stop.rest.head? gap.breaks) gap.next

/-- Reads a block from its header on. Its lines start at column `least` or later, and `fuel`
bounds their number. -/
def readBlockText? (folded : Bool) (least fuel : Nat) (here : Cursor) :
    Option (String × Cursor) := do
  let (header, here) ← BlockHeader.read? here
  let stated := (header.shift.map (least - 1 + ·)).getD 0
  let gap ← readBlockGap? stated [] 0 here.position here.rest
  let indent := if stated = 0 then max (max gap.widest least) 1 else stated
  let (b, next) ← readBlockLines? folded indent fuel { empty := gap.breaks } gap.next
  some (b.finish header.chomp, next)

end SchemaDdl.Yaml
