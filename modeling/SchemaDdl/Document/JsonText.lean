import SchemaDdl.Document

/-!
# Writing JSON

A document as JSON text, on one line or indented by two spaces for each open
container. Characters outside ASCII stand for themselves.
-/

namespace SchemaDdl.Json

def escapedChar (c : Char) : String :=
  if c = '"' then "\\\""
  else if c = '\\' then "\\\\"
  else if c = '\n' then "\\n"
  else if c = '\r' then "\\r"
  else if c = '\t' then "\\t"
  else if c.toNat = 8 then "\\b"
  else if c.toNat = 12 then "\\f"
  else if c.toNat < 0x20 then
    "\\u00" ++ String.ofList [Numeral.digitChar (c.toNat / 16), Numeral.digitChar (c.toNat % 16)]
  else String.singleton c

def quoted (s : String) : String := "\"" ++ String.join (s.toList.map escapedChar) ++ "\""

/-- A scalar; numbers without a finite value have no form in JSON and are written as `null`. -/
def scalarText : Document → String
  | .bool b => if b then "true" else "false"
  | .integer n => Numeral.ofInt n
  | .real (.finite x) => x.text
  | .text s => quoted s
  | .word s => quoted s
  | _ => "null"

/-- The line break between the parts of a container at a nesting depth, if lines are broken. -/
def lineBreak (broken : Bool) (depth : Nat) : String :=
  if broken then "\n" ++ String.ofList (List.replicate (2 * depth) ' ') else ""

def containerText (broken : Bool) (depth : Nat) (opening closing : String) : List String → String
  | [] => opening ++ closing
  | parts =>
    opening ++ lineBreak broken (depth + 1) ++
      String.intercalate ("," ++ lineBreak broken (depth + 1)) parts ++
      lineBreak broken depth ++ closing

def keyText : Document → String
  | .text s => s
  | .word s => s
  | d => scalarText d

mutual

def textAt (broken : Bool) (depth : Nat) : Document → String
  | .list items => containerText broken depth "[" "]" (itemTexts broken (depth + 1) items)
  | .map entries =>
    containerText broken depth "\x7b" "\x7d" (entryTexts broken (depth + 1) entries)
  | .null => "null"
  | .bool b => scalarText (.bool b)
  | .integer n => scalarText (.integer n)
  | .real x => scalarText (.real x)
  | .text s => scalarText (.text s)
  | .word s => scalarText (.word s)
  | .unreadable => "null"

def itemTexts (broken : Bool) (depth : Nat) : List Document → List String
  | [] => []
  | item :: items => textAt broken depth item :: itemTexts broken depth items

def entryTexts (broken : Bool) (depth : Nat) : List (Document × Document) → List String
  | [] => []
  | (key, value) :: entries =>
    (quoted (keyText key) ++ (if broken then ": " else ":") ++ textAt broken depth value) ::
      entryTexts broken depth entries

end

def compact (d : Document) : String := textAt false 0 d

def indented (d : Document) : String := textAt true 0 d

end SchemaDdl.Json
