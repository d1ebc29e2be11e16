import Roaming.Text.Blank

/-!
# TOML dates and times

A date is `year-month-day`, a time is `hour:minute` with optional seconds and a fraction of them,
and a date and a time may stand together, apart by `T` or a single space, with an offset from
universal time at the end. The numbers have a fixed count of digits and have to name a day of the
calendar and a time of the day; a minute may have a leap second.
-/

namespace Roaming.Toml.Moment

open Text

/-- The number of two digits at the front, and what follows them. -/
def two? : List Char → Option (Nat × List Char)
  | a :: b :: cs => if isDigit a && isDigit b then some (numeralValue [a, b], cs) else none
  | _ => none

/-- The number of days in a month. -/
def daysIn (year month : Nat) : Nat :=
  if month = 2 then
    if year % 4 = 0 && (year % 100 ≠ 0 || year % 400 = 0) then 29 else 28
  else if month = 4 || month = 6 || month = 9 || month = 11 then 30
  else 31

/-- What follows a date at the front. -/
def date? (cs : List Char) : Option (List Char) := do
  let (century, cs) ← two? cs
  let (yearOfCentury, cs) ← two? cs
  let '-' :: cs := cs | none
  let (month, cs) ← two? cs
  let '-' :: cs := cs | none
  let (day, cs) ← two? cs
  let year := 100 * century + yearOfCentury
  if 1 ≤ month && month ≤ 12 && 1 ≤ day && day ≤ daysIn year month then some cs else none

/-- What follows an hour and a minute at the front. -/
def hourAndMinute? (cs : List Char) : Option (List Char) := do
  let (hour, cs) ← two? cs
  let ':' :: cs := cs | none
  let (minute, cs) ← two? cs
  if hour ≤ 23 && minute ≤ 59 then some cs else none

/-- What follows a fraction of a second, if there is one. -/
def afterFraction? : List Char → Option (List Char)
  | '.' :: cs => if (cs.takeWhile isDigit).isEmpty then none else some (cs.dropWhile isDigit)
  | cs => some cs

/-- What follows a time at the front. -/
def time? (cs : List Char) : Option (List Char) := do
  let cs ← hourAndMinute? cs
  match cs with
  | ':' :: cs =>
    let (second, cs) ← two? cs
    if second ≤ 60 then afterFraction? cs else none
  | _ => some cs

/-- Whether the characters are nothing or an offset from universal time. -/
def isOffset : List Char → Bool
  | [] => true
  | ['Z'] => true
  | ['z'] => true
  | '+' :: cs => hourAndMinute? cs == some []
  | '-' :: cs => hourAndMinute? cs == some []
  | _ => false

/-- Whether the characters are a date. -/
def isDate (cs : List Char) : Bool :=
  date? cs == some []

/-- Whether the characters are a date, a time, or both. -/
def isMoment (cs : List Char) : Bool :=
  match date? cs with
  | some [] => true
  | some (mark :: rest) =>
    (mark = 'T' || mark = 't' || mark = ' ') && (time? rest).any isOffset
  | none => time? cs == some []

end Roaming.Toml.Moment
