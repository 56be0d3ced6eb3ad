import SchemaDdl.Numeral

/-!
# Dates and times

Days of the proleptic Gregorian calendar, times of day with nanoseconds, and
the two together at an offset from UTC. A leap second is the second 59 with
at least a billion nanoseconds.
-/

namespace SchemaDdl

structure Date where
  year : Int
  month : Nat
  day : Nat
  deriving DecidableEq, Repr

namespace Date

def isLeapYear (year : Int) : Bool :=
  year % 4 == 0 && (year % 100 != 0 || year % 400 == 0)

def daysInMonth (year : Int) (month : Nat) : Nat :=
  if month = 2 then if isLeapYear year then 29 else 28
  else if month = 4 ∨ month = 6 ∨ month = 9 ∨ month = 11 then 30
  else 31

def leastYear : Int := -262143

def greatestYear : Int := 262142

def of? (year : Int) (month day : Nat) : Option Date :=
  if leastYear ≤ year ∧ year ≤ greatestYear ∧ 1 ≤ month ∧ month ≤ 12 ∧ 1 ≤ day ∧
      day ≤ daysInMonth year month then
    some ⟨year, month, day⟩
  else none

def isFirst (d : Date) : Bool := d = ⟨leastYear, 1, 1⟩

def isLast (d : Date) : Bool := d = ⟨greatestYear, 12, 31⟩

/-- At least four digits; a year past 9999 has a plus sign and one before 0 a minus sign. -/
def yearText (year : Int) : String :=
  if year < 0 then "-" ++ Numeral.padded 4 year.natAbs
  else if 9999 < year then "+" ++ Numeral.ofNat year.natAbs
  else Numeral.padded 4 year.natAbs

def text (d : Date) : String :=
  yearText d.year ++ "-" ++ Numeral.padded 2 d.month ++ "-" ++ Numeral.padded 2 d.day

end Date

structure TimeOfDay where
  hour : Nat
  minute : Nat
  second : Nat
  nanosecond : Nat
  deriving DecidableEq, Repr

namespace TimeOfDay

def of? (hour minute second nanosecond : Nat) : Option TimeOfDay :=
  if hour < 24 ∧ minute < 60 ∧ second < 60 ∧
      (nanosecond < 1000000000 ∨ (second = 59 ∧ nanosecond < 2000000000)) then
    some ⟨hour, minute, second, nanosecond⟩
  else none

/-- Nothing for a whole second, else the fewest of 3, 6 or 9 digits that are exact. -/
def fractionText (nanosecond : Nat) : String :=
  if nanosecond = 0 then ""
  else if nanosecond % 1000000 = 0 then "." ++ Numeral.padded 3 (nanosecond / 1000000)
  else if nanosecond % 1000 = 0 then "." ++ Numeral.padded 6 (nanosecond / 1000)
  else "." ++ Numeral.padded 9 nanosecond

/-- A leap second is written as second 60. -/
def text (t : TimeOfDay) : String :=
  Numeral.padded 2 t.hour ++ ":" ++ Numeral.padded 2 t.minute ++ ":" ++
    Numeral.padded 2 (t.second + t.nanosecond / 1000000000) ++
    fractionText (t.nanosecond % 1000000000)

def secondOfDay (t : TimeOfDay) : Nat := (t.hour * 60 + t.minute) * 60 + t.second

end TimeOfDay

structure DateTime where
  date : Date
  time : TimeOfDay
  deriving DecidableEq, Repr

def DateTime.text (t : DateTime) : String := t.date.text ++ " " ++ t.time.text

/-- A local day and time, and how many seconds its clock is ahead of UTC. -/
structure OffsetDateTime where
  clock : DateTime
  offset : Int
  deriving DecidableEq, Repr

namespace OffsetDateTime

/-- The offset is less than a day, and the moment in UTC is on a day of the calendar. -/
def of? (clock : DateTime) (offset : Int) : Option OffsetDateTime :=
  let second := (clock.time.secondOfDay : Int) - offset
  if offset ≤ -86400 ∨ 86400 ≤ offset then none
  else if second < 0 ∧ clock.date.isFirst then none
  else if 86400 ≤ second ∧ clock.date.isLast then none
  else some ⟨clock, offset⟩

/-- A sign, hours and minutes; odd seconds are rounded to the nearest minute. -/
def offsetText (offset : Int) : String :=
  let minutes := (offset.natAbs + 30) / 60
  (if offset < 0 then "-" else "+") ++ Numeral.padded 2 (minutes / 60) ++ ":" ++
    Numeral.padded 2 (minutes % 60)

def text (t : OffsetDateTime) : String := t.clock.text ++ offsetText t.offset

end OffsetDateTime

end SchemaDdl
