import QuorumRing.Text.Numeral

/-!
# Dates and times in TOML

A date, a time of day, or both with or without an offset from universal time. It is read as its own
text in a uniform spelling: a `T` between date and time, a `Z` for universal time, and no zeros at
the end of a fraction of a second.
-/

namespace QuorumRing.Toml.Moment

open Text (takeChar? takeDigits?)

/-- The number of days in a month. -/
def daysInMonth (year month : Nat) : Nat :=
  if month = 2 then
    if year % 4 = 0 && (year % 100 != 0 || year % 400 = 0) then 29 else 28
  else if month ∈ [4, 6, 9, 11] then 30
  else 31

/-- A number with two digits at least. -/
def two (n : Nat) : String := if n < 10 then "0" ++ toString n else toString n

/-- Takes a date. -/
def takeDate? (s : List Char) : Option (String × List Char) := do
  let (year, rest) ← takeDigits? 4 s
  let (month, rest) ← takeChar? '-' rest >>= takeDigits? 2
  let (day, rest) ← takeChar? '-' rest >>= takeDigits? 2
  if 1 ≤ month && month ≤ 12 && 1 ≤ day && day ≤ daysInMonth year month then
    some (String.ofList (s.take 10), rest)
  else none

/-- Takes the fraction of a second, if there is one. Nine digits of it count. -/
def takeFraction? : List Char → Option (String × List Char)
  | '.' :: s =>
    let digits := s.takeWhile Char.isDigit
    if digits = [] then none
    else
      let kept := ((digits.take 9).reverse.dropWhile (· = '0')).reverse
      some (if kept = [] then "" else "." ++ String.ofList kept, s.dropWhile Char.isDigit)
  | s => some ("", s)

/-- Takes the seconds, if there are any. A leap second is the sixtieth. -/
def takeSeconds? : List Char → Option (String × List Char)
  | ':' :: s => do
    let (second, rest) ← takeDigits? 2 s
    let (fraction, rest) ← takeFraction? rest
    if second ≤ 60 then some (":" ++ two second ++ fraction, rest) else none
  | s => some ("", s)

/-- Takes a time of day. -/
def takeTime? (s : List Char) : Option (String × List Char) := do
  let (hour, rest) ← takeDigits? 2 s
  let (minute, rest) ← takeChar? ':' rest >>= takeDigits? 2
  let (seconds, rest) ← takeSeconds? rest
  if hour < 24 && minute < 60 then some (two hour ++ ":" ++ two minute ++ seconds, rest) else none

/-- Reads an offset from universal time, if there is one. -/
def offset? : List Char → Option String
  | [] => some ""
  | ['Z'] | ['z'] => some "Z"
  | sign :: s => do
    let (hour, rest) ← takeDigits? 2 s
    let (minute, rest) ← takeChar? ':' rest >>= takeDigits? 2
    if (sign = '+' || sign = '-') && rest.isEmpty && hour < 24 && minute < 60 then
      some (sign.toString ++ two hour ++ ":" ++ two minute)
    else none

/-- Reads a date, a time or both. -/
def parse? (s : List Char) : Option String :=
  match takeDate? s with
  | some (date, []) => some date
  | some (date, separator :: rest) => do
    if separator ∉ ['T', 't', ' '] then none
    let (time, rest) ← takeTime? rest
    return date ++ "T" ++ time ++ (← offset? rest)
  | none =>
    match takeTime? s with
    | some (time, []) => some time
    | _ => none

end QuorumRing.Toml.Moment
