/-!
# Dates

A day of the Gregorian calendar, extended to all years. The calendar repeats every 400 years. If its
years are taken to start in March, the leap day is the last day of a year, and the lengths of the
months follow one linear rule.
-/

namespace QuorumRing

/-- A day. -/
structure Date where
  /-- The year; the year before the first is the year zero. -/
  year : Int
  /-- The month, from one. -/
  month : Nat
  /-- The day of the month, from one. -/
  day : Nat
deriving DecidableEq, Repr

namespace Date

/-- The number of days in 400 years. -/
def cycle : Nat := 146097

/-- The number of days from the first of March of the year zero to the first of January 1970. -/
def epoch : Nat := 719468

/-- The number of full years, counted from March, among the first `n` days of a cycle. All but the
last day of the fourth, hundredth and four hundredth year would fit in years of 365 days. -/
def yearOfCycle (n : Nat) : Nat := (n - n / 1460 + n / 36524 - n / 146096) / 365

/-- The number of days in the first `n` years of a cycle. -/
def daysOfYears (n : Nat) : Nat := 365 * n + n / 4 - n / 100

/-- The day that comes so many days after the first of January 1970. -/
def ofDays (days : Int) : Date :=
  let shifted := days + epoch
  let dayOfCycle := (shifted % cycle).toNat
  let years := yearOfCycle dayOfCycle
  let dayOfYear := dayOfCycle - daysOfYears years
  let month := (5 * dayOfYear + 2) / 153
  let year := 400 * (shifted / cycle) + years
  { year := if month < 10 then year else year + 1
    month := if month < 10 then month + 3 else month - 9
    day := dayOfYear - (153 * month + 2) / 5 + 1 }

end Date

end QuorumRing
