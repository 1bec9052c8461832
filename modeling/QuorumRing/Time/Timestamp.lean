import QuorumRing.Time.Date

/-!
# Timestamps

A moment in milliseconds since the start of the year 1970, in universal time, as far as the calendar
of the program goes. It is written as RFC 3339 says: date and time of day, with a fraction of three
digits if it is not zero. A year outside 0 to 9999 has a sign.
-/

namespace QuorumRing

/-- A moment. -/
structure Timestamp where
  /-- The milliseconds since the start of the year 1970. -/
  millis : Int
  /-- It is not before the start of the year -262143. -/
  first_le : -8334601228800000 ≤ millis := by decide
  /-- It is not after the end of the year 262142. -/
  le_last : millis ≤ 8210266876799999 := by decide
deriving DecidableEq

namespace Timestamp

/-- The start of the year 1970. -/
def epoch : Timestamp := { millis := 0 }

/-- The moment with the given number of milliseconds, and the epoch if there is none. -/
def ofMillis (n : Int) : Timestamp :=
  if first_le : -8334601228800000 ≤ n then
    if le_last : n ≤ 8210266876799999 then { millis := n, first_le, le_last } else epoch
  else epoch

/-- A number with at least the given number of digits. -/
def padded (width n : Nat) : String :=
  let text := toString n
  "".pushn '0' (width - text.length) ++ text

/-- A year. -/
def yearText (year : Int) : String :=
  let sign := if year < 0 then "-" else if 9999 < year then "+" else ""
  sign ++ padded 4 year.natAbs

/-- The moment in words. -/
def text (t : Timestamp) : String :=
  let date := Date.ofDays (t.millis / 86400000)
  let time := (t.millis % 86400000).toNat
  let fraction := if time % 1000 = 0 then "" else "." ++ padded 3 (time % 1000)
  yearText date.year ++ "-" ++ padded 2 date.month ++ "-" ++ padded 2 date.day ++ "T" ++
    padded 2 (time / 3600000) ++ ":" ++ padded 2 (time / 60000 % 60) ++ ":" ++
    padded 2 (time / 1000 % 60) ++ fraction ++ "Z"

end Timestamp

end QuorumRing
