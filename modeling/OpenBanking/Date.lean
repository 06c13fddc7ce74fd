import OpenBanking.Text.Numeral

/-!
# Dates

Days of the Gregorian calendar, also before its beginning, and their text: year, month and
day without anything between them. Years of more than four digits, and those before the year
zero, are written with a sign.
-/

namespace OpenBanking

/-- A year with a twenty-ninth of February. -/
def isLeapYear (year : Int) : Bool := year % 4 = 0 && (year % 100 ≠ 0 || year % 400 = 0)

/-- The number of days of a month. -/
def daysOfMonth (year : Int) (month : Nat) : Nat :=
  match month with
  | 1 | 3 | 5 | 7 | 8 | 10 | 12 => 31
  | 4 | 6 | 9 | 11 => 30
  | 2 => if isLeapYear year then 29 else 28
  | _ => 0

/-- A day of the calendar. -/
structure Date where
  /-- The year. -/
  year : Int
  /-- The month, from one on. -/
  month : Nat
  /-- The day of the month, from one on. -/
  day : Nat
  /-- The year is one that the calendar counts. -/
  year_mem : -262143 ≤ year ∧ year ≤ 262142
  /-- The month has such a day. -/
  day_mem : 1 ≤ day ∧ day ≤ daysOfMonth year month
deriving DecidableEq

namespace Date

/-- The day of three numbers, if there is one. -/
def of? (year : Int) (month day : Nat) : Option Date :=
  if h : (-262143 ≤ year ∧ year ≤ 262142) ∧ 1 ≤ day ∧ day ≤ daysOfMonth year month then
    some ⟨year, month, day, h.1, h.2⟩
  else none

/-- The text of a year: four digits from zero to 9999, else a sign and at least four. -/
def yearChars (year : Int) : List Char :=
  match year with
  | .negSucc n => '-' :: Text.padded 4 (n + 1)
  | .ofNat n => if n ≤ 9999 then Text.padded 4 n else '+' :: Text.padded 4 n

/-- The text of a date. -/
def compact (date : Date) : String :=
  String.ofList (yearChars date.year ++ Text.padded 2 date.month ++ Text.padded 2 date.day)

end Date

end OpenBanking
