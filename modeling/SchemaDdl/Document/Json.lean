import SchemaDdl.Document

/-!
# Reading JSON

The text of a JSON value becomes a document. An integer of 64 bits, with or
without a sign, stays an integer; every other number is the nearest floating
point number. A number that is too large for that is unreadable, and so is a
string with half of a character in it.
-/

namespace SchemaDdl.Json

def maxDepth : Nat := 127

def bounded? (d : Document) : Option Document := if d.depth ≤ maxDepth then some d else none

def skip (cs : List Char) : List Char :=
  cs.dropWhile fun c => c == ' ' || c == '\n' || c == '\t' || c == '\r'

def readUnit? : List Char → Option (Nat × List Char)
  | a :: b :: c :: d :: rest => do
    let a ← Numeral.hexValue? a
    let b ← Numeral.hexValue? b
    let c ← Numeral.hexValue? c
    let d ← Numeral.hexValue? d
    some (((a * 16 + b) * 16 + c) * 16 + d, rest)
  | _ => none

/-- The character that an escape by number stands for; beyond the first plane it takes two units,
and one without the other stands for none. -/
def readNumbered? (cs : List Char) : Option (Option Char × List Char) := do
  let (unit, rest) ← readUnit? cs
  if 0xD800 ≤ unit ∧ unit < 0xDC00 then
    match rest with
    | '\\' :: 'u' :: after => do
      let (low, after) ← readUnit? after
      if 0xDC00 ≤ low ∧ low < 0xE000 then
        some (some (Char.ofNat (0x10000 + (unit - 0xD800) * 0x400 + (low - 0xDC00))), after)
      else some (none, rest)
    | _ => some (none, rest)
  else if 0xDC00 ≤ unit ∧ unit < 0xE000 then some (none, rest)
  else some (some (Char.ofNat unit), rest)

def shortEscape? : Char → Option Char
  | '"' => some '"'
  | '\\' => some '\\'
  | '/' => some '/'
  | 'b' => some (Char.ofNat 8)
  | 'f' => some (Char.ofNat 12)
  | 'n' => some '\n'
  | 'r' => some '\r'
  | 't' => some '\t'
  | _ => none

/-- The characters of a string read so far, last one first; none if one of them is only half. -/
abbrev ReadText := Option (List Char)

def ReadText.document : ReadText → Document
  | some read => .text (String.ofList read.reverse)
  | none => .unreadable

/-- The rest of a string up to its closing quote. `fuel` bounds the number of characters. -/
def readString? (fuel : Nat) (read : ReadText) (cs : List Char) : Option (Document × List Char) :=
  match fuel with
  | 0 => none
  | fuel + 1 =>
    match cs with
    | '"' :: rest => some (read.document, rest)
    | '\\' :: 'u' :: rest => do
      let (c, rest) ← readNumbered? rest
      readString? fuel (do (← c) :: (← read)) rest
    | '\\' :: e :: rest => do
      let c ← shortEscape? e
      readString? fuel (read.map (c :: ·)) rest
    | c :: rest => if c.toNat < 0x20 then none else readString? fuel (read.map (c :: ·)) rest
    | [] => none

def isNumberChar (c : Char) : Bool :=
  Numeral.isDigit c || c == '-' || c == '+' || c == '.' || c == 'e' || c == 'E'

def plainWhole : List Char → Bool
  | [] => false
  | ['0'] => true
  | '0' :: _ => false
  | ds => ds.all Numeral.isDigit

def wellFormed (cs : List Char) : Bool :=
  let (mantissa, exponent) := cs.span fun c => c != 'e' && c != 'E'
  let exponentFits :=
    match exponent with
    | [] => true
    | _ :: e => (Numeral.readInt? e).isSome
  let mantissaFits :=
    match Text.splitFirst? '.' mantissa with
    | none => plainWhole mantissa
    | some (whole, fraction) => plainWhole whole && (Numeral.readNat? fraction).isSome
  mantissaFits && exponentFits

/-- A floating-point number, unless it is too large. -/
def real (cs : List Char) : Document :=
  match Binary.read? .binary64 cs with
  | some (.finite x) => .real (.finite x)
  | _ => .unreadable

def readNumber? (cs : List Char) : Option Document :=
  let (negative, unsigned) :=
    match cs with
    | '-' :: rest => (true, rest)
    | _ => (false, cs)
  if wellFormed unsigned then
    match Numeral.readNat? unsigned with
    | none => some (real cs)
    | some n =>
      if negative then
        if 0 < n ∧ n ≤ 9223372036854775808 then some (.integer (-(n : Int))) else some (real cs)
      else if n ≤ 18446744073709551615 then some (.integer n)
      else some (real cs)
  else none

mutual

/-- Reads one value. `fuel` bounds the steps, of which no character takes more than two. -/
def readValue? (fuel : Nat) (cs : List Char) : Option (Document × List Char) :=
  match fuel with
  | 0 => none
  | fuel + 1 =>
    match skip cs with
    | 'n' :: 'u' :: 'l' :: 'l' :: rest => some (.null, rest)
    | 't' :: 'r' :: 'u' :: 'e' :: rest => some (.bool true, rest)
    | 'f' :: 'a' :: 'l' :: 's' :: 'e' :: rest => some (.bool false, rest)
    | '"' :: rest => readString? fuel (some []) rest
    | '[' :: rest =>
      match skip rest with
      | ']' :: rest => some (.list [], rest)
      | rest => (readItems? fuel [] rest).map fun (items, rest) => (.list items, rest)
    | '\x7b' :: rest =>
      match skip rest with
      | '\x7d' :: rest => some (.map [], rest)
      | rest => (readEntries? fuel [] rest).map fun (entries, rest) => (.map entries, rest)
    | cs =>
      let (number, rest) := cs.span isNumberChar
      (readNumber? number).map (·, rest)

def readItems? (fuel : Nat) (read : List Document) (cs : List Char) :
    Option (List Document × List Char) :=
  match fuel with
  | 0 => none
  | fuel + 1 => do
    let (item, rest) ← readValue? fuel cs
    match skip rest with
    | ',' :: rest => readItems? fuel (item :: read) rest
    | ']' :: rest => some ((item :: read).reverse, rest)
    | _ => none

def readEntries? (fuel : Nat) (read : List (Document × Document)) (cs : List Char) :
    Option (List (Document × Document) × List Char) :=
  match fuel with
  | 0 => none
  | fuel + 1 =>
    match skip cs with
    | '"' :: rest => do
      let (key, rest) ← readString? fuel (some []) rest
      match skip rest with
      | ':' :: rest => do
        let (value, rest) ← readValue? fuel rest
        match skip rest with
        | ',' :: rest => readEntries? fuel ((key, value) :: read) rest
        | '\x7d' :: rest => some (((key, value) :: read).reverse, rest)
        | _ => none
      | _ => none
    | _ => none

end

/-- Reads a text that holds one value and nothing else. -/
def parse? (s : String) : Option Document := do
  let cs := s.toList
  let (value, rest) ← readValue? (3 * cs.length + 3) cs
  if (skip rest).isEmpty then some value else none

end SchemaDdl.Json
