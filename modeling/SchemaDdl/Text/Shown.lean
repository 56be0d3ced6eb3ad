import SchemaDdl.Numeral
import SchemaDdl.Text.Hidden

/-!
# Names in messages

A message shows a name between double quotes, with the characters that would
blur where it ends or what it holds written as escapes.
-/

namespace SchemaDdl.Text

/-- The escape of a character by its number: `\u` and its hexadecimal digits in braces. -/
def numberEscape (c : Char) : String :=
  "\\u\x7b" ++ String.ofList (Numeral.hexDigits c.toNat) ++ "\x7d"

/-- One character as a message shows it. -/
def shownChar (c : Char) : String :=
  if c = Char.ofNat 0 then "\\0"
  else if c = '\t' then "\\t"
  else if c = '\r' then "\\r"
  else if c = '\n' then "\\n"
  else if c = '"' then "\\\""
  else if c = '\\' then "\\\\"
  else if isHidden c then numberEscape c
  else String.singleton c

def shown (s : String) : String :=
  "\"" ++ String.join (s.toList.map shownChar) ++ "\""

end SchemaDdl.Text
