import SchemaDdl.Numeral
import SchemaDdl.Text.Parts

/-!
# Binary floating-point numbers

A finite number is `coefficient · 2 ^ exponent`, with the sign apart so that
there are two zeros. Of the pairs that stand for a number its format takes the
one with the largest coefficient that it has room for. A decimal is read as the
nearest number of a format, and a number of 64 bits is written with the fewest
digits that read back as it.
-/

namespace SchemaDdl

namespace Binary

structure Format where
  bits : Nat
  least : Int
  greatest : Int
  bits_pos : 0 < bits
  least_le_greatest : least ≤ greatest

def Format.binary64 : Format := ⟨53, -1074, 971, by decide, by decide⟩

def Format.binary32 : Format := ⟨24, -149, 104, by decide, by decide⟩

/-- Above the least exponent a coefficient has all the bits of its format. -/
structure Format.Normal (format : Format) (coefficient : Nat) (exponent : Int) : Prop where
  coefficient_lt : coefficient < 1 <<< format.bits
  full : format.least < exponent → 1 <<< (format.bits - 1) ≤ coefficient
  least_le : format.least ≤ exponent
  le_greatest : exponent ≤ format.greatest

structure Finite (format : Format) where
  negative : Bool
  coefficient : Nat
  exponent : Int
  normal : format.Normal coefficient exponent
  deriving DecidableEq, Repr

end Binary

inductive Binary (format : Binary.Format) where
  | nan
  | infinite (negative : Bool)
  | finite (x : Binary.Finite format)
  deriving DecidableEq, Repr, Inhabited

namespace Binary

section PowersOfTwo

variable {numerator denominator : Nat} {exponent : Int}

theorem one_shiftLeft_pos (k : Nat) : 0 < 1 <<< k := by
  rw [Nat.one_shiftLeft]
  exact Nat.two_pow_pos k

theorem shiftLeft_pos (h : 0 < denominator) (k : Nat) : 0 < denominator <<< k :=
  Nat.lt_of_lt_of_le h Nat.le_shiftLeft

theorem shiftLeft_comm (a k l : Nat) : a <<< k <<< l = a <<< l <<< k := by
  rw [← Nat.shiftLeft_add, ← Nat.shiftLeft_add, Nat.add_comm]

theorem shiftLeft_lt_iff {a b : Nat} (k : Nat) : a <<< k < b <<< k ↔ a < b := by
  simp only [Nat.shiftLeft_eq]
  exact Nat.mul_lt_mul_right (Nat.two_pow_pos k)

theorem shiftLeft_le_iff {a b : Nat} (k : Nat) : a <<< k ≤ b <<< k ↔ a ≤ b := by
  rw [← Nat.not_lt, shiftLeft_lt_iff, Nat.not_lt]

theorem log2_bounds {n : Nat} (h : n ≠ 0) : 1 <<< n.log2 ≤ n ∧ n < 1 <<< (n.log2 + 1) := by
  rw [Nat.one_shiftLeft, Nat.one_shiftLeft]
  exact ⟨Nat.log2_self_le h, Nat.lt_log2_self⟩

/-- A quotient is less than `2 ^ exponent`. -/
def Below (numerator denominator : Nat) (exponent : Int) : Prop :=
  numerator <<< (-exponent).toNat < denominator <<< exponent.toNat

instance (numerator denominator : Nat) (exponent : Int) :
    Decidable (Below numerator denominator exponent) :=
  inferInstanceAs (Decidable (_ < _))

theorem below_add_iff (numerator denominator : Nat) (exponent : Int) (k : Nat) :
    Below numerator denominator (exponent + k) ↔
      numerator <<< (-exponent).toNat < denominator <<< exponent.toNat <<< k := by
  let sum := exponent + k
  have hshifts : sum.toNat + (-exponent).toNat = exponent.toNat + k + (-sum).toNat := by omega
  calc
    Below numerator denominator sum ↔
        numerator <<< (-sum).toNat <<< (-exponent).toNat <
          denominator <<< sum.toNat <<< (-exponent).toNat := (shiftLeft_lt_iff _).symm
    _ ↔ numerator <<< (-exponent).toNat <<< (-sum).toNat <
          denominator <<< exponent.toNat <<< k <<< (-sum).toNat := by
      rw [shiftLeft_comm numerator, ← Nat.shiftLeft_add denominator sum.toNat, hshifts,
        Nat.shiftLeft_add, Nat.shiftLeft_add]
    _ ↔ numerator <<< (-exponent).toNat < denominator <<< exponent.toNat <<< k :=
      shiftLeft_lt_iff _

theorem Below.mono {greater : Int} (h : Below numerator denominator exponent)
    (hle : exponent ≤ greater) : Below numerator denominator greater := by
  have hgreater : exponent + (greater - exponent).toNat = greater := by omega
  rw [← hgreater, below_add_iff]
  exact Nat.lt_of_lt_of_le h Nat.le_shiftLeft

theorem below_sub_iff (numerator denominator k l : Nat) :
    Below numerator denominator ((k : Int) - l) ↔ numerator <<< l < denominator <<< k := by
  have h := below_add_iff numerator denominator (-l) k
  have hsum : -(l : Int) + k = k - l := by omega
  rwa [hsum, Int.neg_neg, Int.toNat_natCast, Int.toNat_neg_natCast, Nat.shiftLeft_zero] at h

theorem below_sub {k l : Nat} (hnumerator : numerator < 1 <<< k)
    (hdenominator : 1 <<< l ≤ denominator) : Below numerator denominator ((k : Int) - l) := by
  rw [below_sub_iff]
  calc
    numerator <<< l < 1 <<< k <<< l := (shiftLeft_lt_iff l).2 hnumerator
    _ = 1 <<< l <<< k := shiftLeft_comm 1 k l
    _ ≤ denominator <<< k := (shiftLeft_le_iff k).2 hdenominator

theorem not_below_sub {k l : Nat} (hnumerator : 1 <<< k ≤ numerator)
    (hdenominator : denominator ≤ 1 <<< l) : ¬Below numerator denominator ((k : Int) - l) := by
  rw [below_sub_iff, Nat.not_lt]
  calc
    denominator <<< k ≤ 1 <<< l <<< k := (shiftLeft_le_iff k).2 hdenominator
    _ = 1 <<< k <<< l := shiftLeft_comm 1 l k
    _ ≤ numerator <<< l := (shiftLeft_le_iff l).2 hnumerator

/-- The exponent of the greatest power of two that a quotient reaches. -/
def log2Quotient (numerator denominator : Nat) : Int :=
  let exponent : Int := (numerator.log2 : Int) - denominator.log2
  if Below numerator denominator exponent then exponent - 1 else exponent

theorem below_log2Quotient (hnumerator : numerator ≠ 0) (hdenominator : denominator ≠ 0) :
    ¬Below numerator denominator (log2Quotient numerator denominator) ∧
      Below numerator denominator (log2Quotient numerator denominator + 1) := by
  obtain ⟨hleast, hmost⟩ := log2_bounds hnumerator
  obtain ⟨hleastOf, hmostOf⟩ := log2_bounds hdenominator
  simp only [log2Quotient]
  split
  · next hbelow =>
    have hlow := not_below_sub hleast (Nat.le_of_lt hmostOf)
    have heq : (numerator.log2 : Int) - (denominator.log2 + 1 : Nat) =
        numerator.log2 - denominator.log2 - 1 := by omega
    rw [heq] at hlow
    rw [Int.sub_add_cancel]
    exact ⟨hlow, hbelow⟩
  · next hnot =>
    have hhigh := below_sub hmost hleastOf
    have heq : (numerator.log2 + 1 : Nat) - (denominator.log2 : Int) =
        numerator.log2 - denominator.log2 + 1 := by omega
    rw [heq] at hhigh
    exact ⟨hnot, hhigh⟩

end PowersOfTwo

section Rounding

variable {numerator denominator coefficient : Nat} {exponent : Int}

def divideEven (numerator denominator : Nat) : Nat :=
  let quotient := numerator / denominator
  let double := 2 * (numerator % denominator)
  if denominator < double ∨ (double = denominator ∧ quotient % 2 = 1) then quotient + 1
  else quotient

theorem divideEven_le {bound : Nat} (h : numerator < denominator * bound) :
    divideEven numerator denominator ≤ bound := by
  have hquotient : numerator / denominator < bound := Nat.div_lt_of_lt_mul h
  simp only [divideEven]
  split <;> omega

theorem le_divideEven {bound : Nat} (hdenominator : 0 < denominator)
    (h : denominator * bound ≤ numerator) : bound ≤ divideEven numerator denominator := by
  have hquotient : bound ≤ numerator / denominator :=
    (Nat.le_div_iff_mul_le hdenominator).2 (Nat.mul_comm denominator bound ▸ h)
  simp only [divideEven]
  split <;> omega

/-- The nearest coefficient that a quotient has at an exponent. -/
def coefficientAt (numerator denominator : Nat) (exponent : Int) : Nat :=
  divideEven (numerator <<< (-exponent).toNat) (denominator <<< exponent.toNat)

theorem coefficientAt_le {bits : Nat} (h : Below numerator denominator (exponent + bits)) :
    coefficientAt numerator denominator exponent ≤ 1 <<< bits := by
  rw [below_add_iff] at h
  refine divideEven_le ?_
  rwa [Nat.one_shiftLeft, ← Nat.shiftLeft_eq]

theorem le_coefficientAt {bits : Nat} (hdenominator : 0 < denominator)
    (h : ¬Below numerator denominator (exponent + bits)) :
    1 <<< bits ≤ coefficientAt numerator denominator exponent := by
  rw [below_add_iff, Nat.not_lt] at h
  refine le_divideEven (shiftLeft_pos hdenominator _) ?_
  rwa [Nat.one_shiftLeft, ← Nat.shiftLeft_eq]

namespace Format

variable (format : Format)

/-- The exponent at which a quotient has as many bits as the format has room for. -/
def exponentOf (numerator denominator : Nat) : Int :=
  max format.least (log2Quotient numerator denominator - (format.bits - 1))

/-- Rounding up can carry into one bit more than the format has. -/
def carry (coefficient : Nat) (exponent : Int) : Nat × Int :=
  if coefficient = 1 <<< format.bits then (1 <<< (format.bits - 1), exponent + 1)
  else (coefficient, exponent)

/-- The coefficient and the exponent of a quotient; the exponent may be too large. -/
def nearest (numerator denominator : Nat) : Nat × Int :=
  let exponent := format.exponentOf numerator denominator
  format.carry (coefficientAt numerator denominator exponent) exponent

theorem normal_zero : format.Normal 0 format.least where
  coefficient_lt := one_shiftLeft_pos _
  full := fun h => absurd h (Int.lt_irrefl _)
  least_le := Int.le_refl _
  le_greatest := format.least_le_greatest

theorem normal_carry (hmost : coefficient ≤ 1 <<< format.bits)
    (hfull : format.least < exponent → 1 <<< (format.bits - 1) ≤ coefficient)
    (hleast : format.least ≤ exponent)
    (hgreatest : (format.carry coefficient exponent).2 ≤ format.greatest) :
    format.Normal (format.carry coefficient exponent).1
      (format.carry coefficient exponent).2 := by
  unfold carry at hgreatest ⊢
  split
  · next hcarry =>
    rw [if_pos hcarry] at hgreatest
    have hbits : format.bits - 1 < format.bits := Nat.sub_one_lt (Nat.ne_of_gt format.bits_pos)
    refine ⟨?_, fun _ => Nat.le_refl _, Int.le_trans hleast (by omega), hgreatest⟩
    simp only [Nat.one_shiftLeft]
    exact Nat.pow_lt_pow_right (by decide) hbits
  · next hnot =>
    rw [if_neg hnot] at hgreatest
    exact ⟨Nat.lt_of_le_of_ne hmost hnot, hfull, hleast, hgreatest⟩

theorem normal_nearest (hnumerator : numerator ≠ 0) (hdenominator : 0 < denominator)
    (hgreatest : (format.nearest numerator denominator).2 ≤ format.greatest) :
    format.Normal (format.nearest numerator denominator).1
      (format.nearest numerator denominator).2 := by
  obtain ⟨hnot, hbelow⟩ := below_log2Quotient hnumerator (Nat.ne_of_gt hdenominator)
  have hbits := format.bits_pos
  have hexponent : format.exponentOf numerator denominator =
    max format.least (log2Quotient numerator denominator - (format.bits - 1)) := rfl
  refine format.normal_carry (coefficientAt_le (hbelow.mono (by omega))) ?_ (by omega) hgreatest
  intro habove
  -- The exponent is not the least one, so it leaves no bit unused.
  have hexact : format.exponentOf numerator denominator + (format.bits - 1 : Nat) =
      log2Quotient numerator denominator := by omega
  exact le_coefficientAt hdenominator (hexact ▸ hnot)

end Format

def zero (format : Format) (negative : Bool) : Binary format :=
  finite ⟨negative, 0, format.least, format.normal_zero⟩

/-- The number of the format nearest to a quotient, a half going to the even coefficient. -/
def round (format : Format) (negative : Bool) (numerator denominator : Nat)
    (hdenominator : 0 < denominator) : Binary format :=
  if hnumerator : numerator = 0 then zero format negative
  else
    let nearest := format.nearest numerator denominator
    if hgreatest : nearest.2 ≤ format.greatest then
      finite ⟨negative, nearest.1, nearest.2,
        format.normal_nearest hnumerator hdenominator hgreatest⟩
    else infinite negative

/-- The number of the format nearest to `digits · 10 ^ exponent`. -/
def ofDecimal (format : Format) (negative : Bool) (digits : Nat) (exponent : Int) :
    Binary format :=
  let size : Int := (Numeral.digits digits).length + exponent
  -- Powers of ten that no format reaches are not computed.
  if digits = 0 ∨ size < -400 then zero format negative
  else if 400 < size then infinite negative
  else
    round format negative (digits * Nat.pow 10 exponent.toNat) (Nat.pow 10 (-exponent).toNat)
      (Nat.pow_pos (by decide))

def ofInt (n : Int) : Binary .binary64 := ofDecimal .binary64 (n < 0) n.natAbs 0

/-- The same number in 64 bits. -/
def widen : Binary .binary32 → Binary .binary64
  | nan => nan
  | infinite negative => infinite negative
  | finite x =>
    round .binary64 x.negative (x.coefficient <<< x.exponent.toNat)
      (1 <<< (-x.exponent).toNat) (one_shiftLeft_pos _)

end Rounding

section Reading

def readPointed? (cs : List Char) : Option (Nat × Nat) :=
  let (whole, fraction) := (Text.splitFirst? '.' cs).getD (cs, [])
  let all := whole ++ fraction
  if all ≠ [] ∧ all.all Numeral.isDigit then some (Numeral.value all, fraction.length) else none

def readDecimal? (cs : List Char) : Option (Nat × Int) :=
  match cs.span fun c => c != 'e' && c != 'E' with
  | (pointed, []) => (readPointed? pointed).map fun (digits, places) => (digits, -(places : Int))
  | (pointed, _ :: exponent) => do
    let (digits, places) ← readPointed? pointed
    let shift ← Numeral.readInt? exponent
    pure (digits, shift - places)

def readMagnitude? (format : Format) (negative : Bool) (cs : List Char) :
    Option (Binary format) :=
  match String.ofList (cs.map Char.toLower) with
  | "nan" => some nan
  | "inf" => some (infinite negative)
  | "infinity" => some (infinite negative)
  | _ => (readDecimal? cs).map fun (digits, exponent) => ofDecimal format negative digits exponent

def read? (format : Format) : List Char → Option (Binary format)
  | '-' :: cs => readMagnitude? format true cs
  | '+' :: cs => readMagnitude? format false cs
  | cs => readMagnitude? format false cs

end Reading

section Writing

def positional (digits : Nat) (exponent : Int) : String :=
  let ds := Numeral.digits digits
  if 0 ≤ exponent then String.ofList (ds ++ List.replicate exponent.toNat '0')
  else
    let places := (-exponent).toNat
    let filled := List.replicate (places + 1 - ds.length) '0' ++ ds
    let whole := filled.length - places
    String.ofList (filled.take whole ++ '.' :: filled.drop whole)

/-- The nearest multiple of `step` that lies between `low` and `high`, a half going up. All four
are numerators over one denominator; the answer counts steps. -/
def nearestStep? (low value high step : Nat) (closed : Bool) : Option Nat :=
  let below := value / step
  let lower := below * step
  let upper := lower + step
  let lowerFits := low < lower || (closed && low == lower)
  let upperFits := upper < high || (closed && upper == high)
  if upperFits && (!lowerFits || upper - value ≤ value - lower) then some (below + 1)
  else if lowerFits then some below
  else none

/-- The first decimal grid, from `10 ^ top` down, that has a point in the interval. -/
def shortest (low value high denominator : Nat) (closed : Bool) : Nat → Int → Nat × Int
  | 0, top => (value / denominator, top)
  | grids + 1, top =>
    let hit :=
      if 0 ≤ top then nearestStep? low value high (denominator * Nat.pow 10 top.toNat) closed
      else
        let scale := Nat.pow 10 (-top).toNat
        nearestStep? (low * scale) (value * scale) (high * scale) denominator closed
    match hit with
    | some digits => (digits, top)
    | none => shortest low value high denominator closed grids (top - 1)

namespace Finite

/-- The shortest decimal among those that read back as the number. -/
def shortestDecimal (x : Finite .binary64) : Nat × Int :=
  -- What lies less than half way to a neighbour reads back; a power of two has a nearer lower one.
  let format := Format.binary64
  let lowGap :=
    if x.coefficient = 1 <<< (format.bits - 1) ∧ format.least < x.exponent then 1 else 2
  let quarter := x.exponent - 2
  let (scale, denominator) := (1 <<< quarter.toNat, 1 <<< (-quarter).toNat)
  let value := 4 * x.coefficient
  let top := ((x.coefficient.log2 : Int) + x.exponent) * 30103 / 100000 + 2
  shortest ((value - lowGap) * scale) (value * scale) ((value + 2) * scale) denominator
    (x.coefficient % 2 = 0) 24 top

/-- The fewest digits that read back as the number, never with an exponent. -/
def text (x : Finite .binary64) : String :=
  let sign := if x.negative then "-" else ""
  if x.coefficient = 0 then sign ++ "0"
  else
    let (digits, shift) := x.shortestDecimal
    sign ++ positional digits shift

end Finite

end Writing

end Binary

end SchemaDdl
