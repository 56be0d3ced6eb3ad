import SchemaDdl.Error
import SchemaDdl.Text.Blank
import SchemaDdl.Text.Parts

/-!
# Server versions

A version is written `major.minor`; a missing minor part is zero.
-/

namespace SchemaDdl

structure Version where
  major : Nat
  minor : Nat
  deriving DecidableEq, Repr

namespace Version

/-- The version that is assumed where none is given. -/
def standard : Version := ⟨12, 0⟩

def atLeast (v bound : Version) : Bool :=
  bound.major < v.major || (v.major == bound.major && bound.minor ≤ v.minor)

def text (v : Version) : String := Numeral.ofNat v.major ++ "." ++ Numeral.ofNat v.minor

/-- Both parts are numbers of 32 bits; white space around the whole does not count. -/
def read? (cs : List Char) : Option Version :=
  match Text.splitFirst? '.' (Text.trim cs) with
  | none => (Numeral.readUpTo? Numeral.word32Limit (Text.trim cs)).map (⟨·, 0⟩)
  | some (major, minor) => do
    pure ⟨← Numeral.readUpTo? Numeral.word32Limit major,
      ← Numeral.readUpTo? Numeral.word32Limit minor⟩

def parse (s : String) : Result Version :=
  match read? s.toList with
  | some v => .ok v
  | none => .error (.config ("invalid postgres_version '" ++ s ++ "'"))

end Version

end SchemaDdl
