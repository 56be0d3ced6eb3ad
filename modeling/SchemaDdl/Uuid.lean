import SchemaDdl.Numeral
import SchemaDdl.Text.Affix
import SchemaDdl.Text.Parts

/-!
# UUIDs

A number of 128 bits. It is written as 32 hexadecimal digits in five groups,
and read without hyphens, with them, in braces, or after `urn:uuid:`.
-/

namespace SchemaDdl

structure Uuid where
  bits : BitVec 128
  deriving DecidableEq

namespace Uuid

def groups : List Nat := [8, 4, 4, 4, 12]

def cutGroups : List Nat → List Char → List (List Char)
  | [], _ => []
  | size :: sizes, cs => cs.take size :: cutGroups sizes (cs.drop size)

def text (u : Uuid) : String :=
  let digits := Numeral.hexDigits u.bits.toNat
  let filled := List.replicate (32 - digits.length) '0' ++ digits
  String.ofList (Text.join '-' (cutGroups groups filled))

def readDigits? (cs : List Char) : Option Uuid := do
  if cs.length ≠ 32 then none
  let values ← cs.mapM Numeral.hexValue?
  pure ⟨BitVec.ofNat 128 (values.foldl (fun n d => 16 * n + d) 0)⟩

def readGroups? (cs : List Char) : Option Uuid :=
  let parts := Text.split '-' cs
  if parts.map List.length = groups then readDigits? parts.flatten else none

/-- Reads any of the four forms. -/
def read? (cs : List Char) : Option Uuid :=
  match Text.stripStart? "urn:uuid:".toList cs with
  | some rest => readGroups? rest
  | none =>
    match (Text.stripStart? "\x7b".toList cs).bind (Text.stripEnd? "\x7d".toList) with
    | some inner => readGroups? inner
    | none => if '-' ∈ cs then readGroups? cs else readDigits? cs

end Uuid

end SchemaDdl
