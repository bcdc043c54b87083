/-!
# Dates and instants

The texts of dates and instants are for a calendar to give, which is no part of the program but a
parameter of it. One such calendar is the proleptic Gregorian one, with a year zero, in the years
that are supported.
-/

namespace Snowbridge.Embedded

/-- A calendar: the text of a day, which is counted from the first day of the year one, and the text
of an instant, in microseconds from the start of 1970. Some years are not supported. -/
structure Calendar where
  date? : Int32 → Option (List Char)
  instant? : Int64 → Option (List Char)

/-! ## The Gregorian calendar -/

structure CivilDate where
  year : Int
  month : Nat
  day : Nat
deriving DecidableEq

/-- The days from the first day of the year one to the first day of 1970, counted from one. -/
def epochDay : Int := 719163

def inYearRange (year : Int) : Bool := -262143 ≤ year && year ≤ 262142

/-- The date that lies some days after the first of March of the year zero. Years are counted from
March, so that the leap day comes last; 400 years have 146097 days. -/
def dateFromMarch (days : Int) : CivilDate :=
  let era := days.fdiv 146097
  let inEra := (days.fmod 146097).toNat
  let yearOfEra := (inEra - inEra / 1460 + inEra / 36524 - inEra / 146096) / 365
  let dayOfYear := inEra - (365 * yearOfEra + yearOfEra / 4 - yearOfEra / 100)
  let monthFromMarch := (5 * dayOfYear + 2) / 153
  let month := if monthFromMarch < 10 then monthFromMarch + 3 else monthFromMarch - 9
  let year := era * 400 + yearOfEra + (if month ≤ 2 then 1 else 0)
  ⟨year, month, dayOfYear - (153 * monthFromMarch + 2) / 5 + 1⟩

/-- The date with a number of days since the last day of the year zero, if its year is supported.
The first of March of the year zero lies 306 days before the first day of the year one. -/
def CivilDate.ofDayNumber? (n : Int) : Option CivilDate :=
  let d := dateFromMarch (n + 305)
  if inYearRange d.year then some d else none

/-- A number with leading zeros. -/
def padded (width n : Nat) : List Char :=
  let ds := Nat.toDigits 10 n
  List.replicate (width - ds.length) '0' ++ ds

/-- A year of four digits; one that needs more, or lies before the year zero, has a sign. -/
def writeYear (year : Int) : List Char :=
  if 0 ≤ year && year ≤ 9999 then padded 4 year.toNat
  else (if year < 0 then '-' else '+') :: padded 4 year.natAbs

/-- Year, month and day with hyphens between them. -/
def CivilDate.write (d : CivilDate) : List Char :=
  writeYear d.year ++ '-' :: (padded 2 d.month ++ '-' :: padded 2 d.day)

def dayMicros : Int := 86400000000

/-- The time of a day, with a fraction of three or six digits if there is one. -/
def writeTime (micros : Nat) : List Char :=
  let seconds := micros / 1000000
  let fraction := micros % 1000000
  padded 2 (seconds / 3600) ++
    ':' :: (padded 2 (seconds / 60 % 60) ++ ':' :: padded 2 (seconds % 60)) ++
    (if fraction == 0 then []
    else if fraction % 1000 == 0 then '.' :: padded 3 (fraction / 1000)
    else '.' :: padded 6 fraction)

/-- The date and time some microseconds after the start of 1970, if its year is supported. -/
def writeInstant? (micros : Int) : Option (List Char) :=
  (CivilDate.ofDayNumber? (micros.fdiv dayMicros + epochDay)).map fun d =>
    d.write ++ ' ' :: writeTime (micros.fmod dayMicros).toNat

/-- The Gregorian calendar in the supported years. -/
def gregorian : Calendar where
  date? n := (CivilDate.ofDayNumber? n.toInt).map CivilDate.write
  instant? micros := writeInstant? micros.toInt

end Snowbridge.Embedded
