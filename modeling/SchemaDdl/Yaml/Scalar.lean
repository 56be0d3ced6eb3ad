import SchemaDdl.Numeral
import SchemaDdl.Yaml.Cursor

/-!
# Plain and quoted YAML text

A scalar may run over several lines. Blanks around line breaks are dropped,
a single `\n` counts as a space, and of several breaks all but a first `\n`
are kept.
-/

namespace SchemaDdl.Yaml

/-- Blanks and line breaks after a part of a scalar. They count only if another part follows. -/
structure Fold where
  /-- Blanks before the first line break, last one first. -/
  blanks : List Char := []
  breaks : List Char := []
  /-- An escaped line break joins two lines without a space. -/
  joined : Bool := false

namespace Fold

def crossed (f : Fold) : Bool := !f.breaks.isEmpty || f.joined

def isEmpty (f : Fold) : Bool := f.blanks.isEmpty && !f.crossed

def addBlank (f : Fold) (c : Char) : Fold :=
  if f.crossed then f else { f with blanks := c :: f.blanks }

def addBreak (f : Fold) (c : Char) : Fold := { f with breaks := c :: f.breaks }

/-- The text read so far, last character first, with what the fold stands for. -/
def onto (f : Fold) (read : List Char) : List Char :=
  if f.joined then f.breaks ++ read
  else
    match f.breaks.getLast? with
    | none => f.blanks ++ read
    | some '\n' => if f.breaks = ['\n'] then ' ' :: read else f.breaks.dropLast ++ read
    | some _ => f.breaks ++ read

end Fold

section Quoted

/-- The rest of a text in single quotes, where a quote is written twice. -/
def readSingle? (p : Position) (fold : Fold) (read : List Char) :
    List Char → Option (String × Cursor)
  | [] => none
  | '\'' :: '\'' :: cs =>
    readSingle? ((p.after '\'').after '\'') {} ('\'' :: fold.onto read) cs
  | c :: cs =>
    if p.column = 0 ∧ startsMark (c :: cs) then none
    else if c = '\'' then some (String.ofList (fold.onto read).reverse, ⟨cs, p.after c⟩)
    else if isBreak c then readSingle? (p.after c) (fold.addBreak c) read cs
    else if isBlank c then readSingle? (p.after c) (fold.addBlank c) read cs
    else readSingle? (p.after c) {} (c :: fold.onto read) cs

def readCoded? (digits : Nat) (here : Cursor) : Option (Char × Cursor) := do
  let written := here.rest.take digits
  let code ← written.foldlM (fun n c => (Numeral.hexValue? c).map (16 * n + ·)) 0
  if written.length = digits ∧ code.isValidChar then
    some (Char.ofNat code, here.advance digits)
  else none

def shortEscape? : Char → Option Nat
  | '0' => some 0
  | 'a' => some 7
  | 'b' => some 8
  | 't' => some 9
  | '\t' => some 9
  | 'n' => some 10
  | 'v' => some 11
  | 'f' => some 12
  | 'r' => some 13
  | 'e' => some 27
  | ' ' => some 0x20
  | '"' => some 0x22
  | '/' => some 0x2F
  | '\\' => some 0x5C
  | 'N' => some 0x85
  | '_' => some 0xA0
  | 'L' => some 0x2028
  | 'P' => some 0x2029
  | _ => none

def readEscape? (here : Cursor) : Option (Char × Cursor) :=
  match here.rest with
  | [] => none
  | 'x' :: _ => readCoded? 2 (here.advance 1)
  | 'u' :: _ => readCoded? 4 (here.advance 1)
  | 'U' :: _ => readCoded? 8 (here.advance 1)
  | c :: _ => (shortEscape? c).map fun code => (Char.ofNat code, here.advance 1)

def readDouble? (fuel : Nat) (fold : Fold) (read : List Char) (here : Cursor) :
    Option (String × Cursor) :=
  match fuel with
  | 0 => none
  | fuel + 1 =>
    if here.atMark then none
    else
      match here.rest with
      | [] => none
      | '"' :: _ => some (String.ofList (fold.onto read).reverse, here.advance 1)
      | '\\' :: c :: _ =>
        if isBreak c then
          readDouble? fuel { joined := true } (fold.onto read) (here.advance 2)
        else do
          let (c, next) ← readEscape? (here.advance 1)
          readDouble? fuel {} (c :: fold.onto read) next
      | c :: _ =>
        if isBreak c then readDouble? fuel (fold.addBreak c) read (here.advance 1)
        else if isBlank c then readDouble? fuel (fold.addBlank c) read (here.advance 1)
        else readDouble? fuel {} (c :: fold.onto read) (here.advance 1)

/-- A text between quotes, from its opening quote on. `fuel` bounds the number of characters. -/
def readQuoted? (fuel : Nat) (here : Cursor) : Option (String × Cursor) :=
  match here.rest with
  | '"' :: _ => readDouble? fuel {} [] (here.advance 1)
  | '\'' :: rest => readSingle? (here.position.after '\'') {} [] rest
  | _ => none

end Quoted

section Plain

def isFlowIndicator (c : Char) : Bool := [',', '[', ']', '\x7b', '\x7d'].contains c

def isIndicator (c : Char) : Bool :=
  isFlowIndicator c ||
    ['-', '?', ':', '#', '&', '*', '!', '|', '>', '\'', '"', '%', '@', '\x60'].contains c

def startsPlain (flow : Bool) : List Char → Bool
  | [] => false
  | c :: cs =>
    !(isIndicator c || blankNext (c :: cs)) || (c == '-' && !blankNext cs) ||
      (!flow && (c == '?' || c == ':') && !blankNext cs)

/-- Whether a colon in a flow stands where neither a text nor a value can go on. -/
def strayColon (flow : Bool) : List Char → Bool
  | ':' :: c :: _ => flow && (isFlowIndicator c || c == '?')
  | _ => false

def endsPlain (flow : Bool) : List Char → Bool
  | [] => true
  | c :: cs => (c == ':' && blankNext cs) || (flow && isFlowIndicator c)

/-- Whether a plain text ends before a part that blanks or line breaks set apart. -/
def endsAfterGap (flow : Bool) (least column : Nat) (fold : Fold) (cs : List Char) : Bool :=
  (!flow && fold.crossed && column < least) || (column == 0 && startsMark cs) ||
    cs.head? == some '#'

structure PlainText where
  text : String
  crossed : Bool
  next : Cursor

def PlainText.ofRead (read : List Char) (fold : Fold) (next : Cursor) : PlainText :=
  ⟨String.ofList read.reverse, fold.crossed, next⟩

/-- Reads a plain text whose further lines start at column `least` or later. -/
def readPlain? (flow : Bool) (least : Nat) (p : Position) (fold : Fold) (read : List Char) :
    List Char → Option PlainText
  | [] => some (.ofRead read fold ⟨[], p⟩)
  | c :: cs =>
    if isBreak c then readPlain? flow least (p.after c) (fold.addBreak c) read cs
    else if isBlank c then
      if c = '\t' ∧ fold.crossed ∧ p.column < least then none
      else readPlain? flow least (p.after c) (fold.addBlank c) read cs
    else if !fold.isEmpty && endsAfterGap flow least p.column fold (c :: cs) then
      some (.ofRead read fold ⟨c :: cs, p⟩)
    else if strayColon flow (c :: cs) then none
    else if endsPlain flow (c :: cs) then some (.ofRead read fold ⟨c :: cs, p⟩)
    else readPlain? flow least (p.after c) {} (c :: fold.onto read) cs

end Plain

end SchemaDdl.Yaml
