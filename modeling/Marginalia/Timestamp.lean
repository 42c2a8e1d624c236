/-
**Points in time.**

A `Timestamp` counts seconds from the start of 1970, before and after it, without leap seconds.  Its
text is the date and the time of day in the form `2024-01-31T09:00:00Z`.

* `CivilDate.ofDays` finds the date of a day in the Gregorian calendar, which is carried on in both
  directions.  Years are counted from March on, so that the leap day is the last day of a year.
* `Timestamp.ofSeconds?` accepts the years from -262143 to 262142.
* `Timestamp.iso` writes a point in time.
-/

namespace Marginalia

/-- A day of the calendar. -/
structure CivilDate where
  year : Int
  month : Nat
  day : Nat
deriving Repr, DecidableEq, Inhabited

namespace CivilDate

/-- The number of days of four hundred years, after which the calendar repeats itself. -/
def eraDays : Nat := 146097

/-- The number of days from the first of March of the year zero to the start of 1970. -/
def epochDays : Nat := 719468

/-- The year within an era that a day of the era lies in. -/
def yearOfEra (day : Nat) : Nat :=
  (day - day / 1460 + day / 36524 - day / 146096) / 365

/-- The date of a day, counted from the start of 1970. -/
def ofDays (days : Int) : CivilDate :=
  let shifted := days + epochDays
  let era := shifted.fdiv eraDays
  let dayOfEra := (shifted.fmod eraDays).toNat
  let yearOfEra := yearOfEra dayOfEra
  let dayOfYear := dayOfEra - (365 * yearOfEra + yearOfEra / 4 - yearOfEra / 100)
  let monthFromMarch := (5 * dayOfYear + 2) / 153
  let day := dayOfYear - (153 * monthFromMarch + 2) / 5 + 1
  let month := if monthFromMarch < 10 then monthFromMarch + 3 else monthFromMarch - 9
  let year := era * 400 + yearOfEra + (if month ≤ 2 then 1 else 0)
  { year, month, day }

end CivilDate

/-- A point in time, in seconds from the start of 1970. -/
structure Timestamp where
  seconds : Int
deriving Repr, DecidableEq, Inhabited

namespace Timestamp

/-- The start of 1970. -/
def epoch : Timestamp := ⟨0⟩

/-- The number of seconds of a day. -/
def daySeconds : Nat := 86400

/-- The date of a point in time. -/
def date (time : Timestamp) : CivilDate :=
  .ofDays (time.seconds.fdiv daySeconds)

/-- The point in time, if its year is within the range that is written. -/
def ofSeconds? (seconds : Int) : Option Timestamp :=
  let year := (Timestamp.mk seconds).date.year
  if -262143 ≤ year ∧ year ≤ 262142 then some ⟨seconds⟩ else none

/-- The digits of a number, filled up with zeros to a width. -/
def padded (width value : Nat) : List Char :=
  let digits := Nat.toDigits 10 value
  List.replicate (width - digits.length) '0' ++ digits

/-- A year has at least four digits, and a sign unless it lies between 0 and 9999. -/
def isoYear (year : Int) : List Char :=
  if year < 0 then '-' :: padded 4 year.natAbs
  else if 9999 < year then '+' :: padded 4 year.natAbs
  else padded 4 year.natAbs

/-- The text of a point in time. -/
def iso (time : Timestamp) : String :=
  let date := time.date
  let second := (time.seconds.fmod daySeconds).toNat
  String.ofList (isoYear date.year ++ '-' :: padded 2 date.month ++ '-' :: padded 2 date.day
    ++ 'T' :: padded 2 (second / 3600) ++ ':' :: padded 2 (second / 60 % 60)
    ++ ':' :: padded 2 (second % 60) ++ ['Z'])

end Timestamp

end Marginalia
