/-!
# Dates and times of day

Days are counted from the first of January 2000 in the Gregorian calendar without end on either
side, and times of day in microseconds since midnight. Years are written with four digits, and with
a sign and as many digits as they need outside 0 to 9999.
-/

namespace EntityQuery

/-- A digit. -/
def decimalDigit (n : Nat) : Char := Char.ofNat (0x30 + n % 10)

/-- The last digits of a number, exactly so many. -/
def lastDigits : Nat → Nat → List Char
  | 0, _ => []
  | width + 1, n => lastDigits width (n / 10) ++ [decimalDigit n]

/-- A number with at least so many digits. -/
def paddedText (width n : Nat) : String :=
  if n < Nat.pow 10 width then String.ofList (lastDigits width n) else toString n

/-- A day of the calendar. -/
structure Date where
  year : Int
  month : Nat
  day : Nat
  deriving DecidableEq, Repr

namespace Date

/-- The number of days in four hundred years. -/
def cycleLength : Nat := 146097

/-- The day of a number of days after the first of March of the first year of a cycle of four
hundred years. Years are taken to begin in March, so that a leap day is the last day of its year. -/
def inCycle (days : Nat) : Nat × Nat × Nat :=
  let year := (days - days / 1460 + days / 36524 - days / 146096) / 365
  let dayOfYear := days - (365 * year + year / 4 - year / 100)
  let month := (5 * dayOfYear + 2) / 153
  (year, month, dayOfYear - (153 * month + 2) / 5 + 1)

/-- The date of a number of days after the first of January 2000. -/
def ofDays (days : Int) : Date :=
  let shifted := days + 730425
  let (year, month, day) := inCycle (shifted % cycleLength).toNat
  let year : Int := shifted / cycleLength * 400 + year
  if month < 10 then ⟨year, month + 3, day⟩ else ⟨year + 1, month - 9, day⟩

/-- The text of a year. -/
def yearText (year : Int) : String :=
  if year < 0 then "-" ++ paddedText 4 year.natAbs
  else if year < 10000 then paddedText 4 year.toNat
  else "+" ++ toString year.toNat

/-- The text of a date. -/
def text (d : Date) : String :=
  yearText d.year ++ "-" ++ paddedText 2 d.month ++ "-" ++ paddedText 2 d.day

/-- The first year of the dates that can be shown. -/
def firstYear : Int := -262143

/-- The last year of the dates that can be shown. -/
def lastYear : Int := 262142

/-- The date of a number of days after the first of January 2000, if it can be shown. -/
def ofDays? (days : Int) : Option Date :=
  let d := ofDays days
  if firstYear ≤ d.year ∧ d.year ≤ lastYear then some d else none

example : ofDays 0 = ⟨2000, 1, 1⟩ := by decide
example : ofDays (-1) = ⟨1999, 12, 31⟩ := by decide
example : ofDays 59 = ⟨2000, 2, 29⟩ := by decide
example : ofDays 60 = ⟨2000, 3, 1⟩ := by decide
example : ofDays (-730486) = ⟨-1, 12, 31⟩ := by decide

end Date

/-- A time of day, in microseconds since midnight. -/
structure TimeOfDay where
  micros : Nat
  deriving DecidableEq, Repr

namespace TimeOfDay

/-- The microseconds of a day. -/
def dayLength : Nat := 86400000000

/-- The fraction of a second with the fewest of zero, three and six digits that are exact. -/
def fractionText (micros : Nat) : String :=
  if micros = 0 then ""
  else if micros % 1000 = 0 then "." ++ paddedText 3 (micros / 1000)
  else "." ++ paddedText 6 micros

/-- The text of a time of day. -/
def text (t : TimeOfDay) : String :=
  let seconds := t.micros / 1000000
  paddedText 2 (seconds / 3600) ++ ":" ++ paddedText 2 (seconds / 60 % 60) ++ ":" ++
    paddedText 2 (seconds % 60) ++ fractionText (t.micros % 1000000)

/-- The time of day after so many microseconds, days apart. -/
def ofMicros (micros : Int) : TimeOfDay := ⟨(micros % dayLength).toNat⟩

theorem ofMicros_lt (micros : Int) : (ofMicros micros).micros < dayLength := by
  have h : (0 : Int) < dayLength := by decide
  have low := Int.emod_nonneg micros (Int.ne_of_gt h)
  have high := Int.emod_lt_of_pos micros h
  simp only [ofMicros]
  omega

end TimeOfDay

/-- The date and the time of day of a number of microseconds after the start of 2000, if it can be
shown. -/
def dateAndTime? (micros : Int) : Option (Date × TimeOfDay) :=
  (Date.ofDays? (micros / TimeOfDay.dayLength)).map (·, TimeOfDay.ofMicros micros)

end EntityQuery
