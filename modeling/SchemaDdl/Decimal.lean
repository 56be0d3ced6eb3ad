import SchemaDdl.Numeral

/-!
# Decimal numbers

A coefficient of at most 96 bits over a power of ten. The number of places is
part of the value, so trailing zeros are kept, and so is the sign, also the one
of a zero.
-/

namespace SchemaDdl

namespace Decimal

def greatestCoefficient : Nat := 79228162514264337593543950335

def mostPlaces : Nat := 28

end Decimal

/-- The number `coefficient / 10 ^ places` with a sign. -/
structure Decimal where
  negative : Bool
  coefficient : Nat
  places : Nat
  coefficient_le : coefficient ≤ Decimal.greatestCoefficient
  places_le : places ≤ Decimal.mostPlaces
  deriving DecidableEq, Repr

namespace Decimal

/-- The sign comes from the coefficient, so a zero is made without one. -/
def of? (coefficient : Int) (places : Nat) : Option Decimal :=
  if h : coefficient.natAbs ≤ greatestCoefficient ∧ places ≤ mostPlaces then
    some ⟨coefficient < 0, coefficient.natAbs, places, h.1, h.2⟩
  else none

/-- All places are written, with at least one digit before the point. -/
def text (d : Decimal) : String :=
  let sign := if d.negative then "-" else ""
  let digits := Numeral.digits d.coefficient
  let filled := List.replicate (d.places + 1 - digits.length) '0' ++ digits
  let whole := filled.length - d.places
  if d.places = 0 then sign ++ String.ofList digits
  else sign ++ String.ofList (filled.take whole ++ '.' :: filled.drop whole)

end Decimal

end SchemaDdl
