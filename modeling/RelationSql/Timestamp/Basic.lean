/-!
# Timestamps in UTC

A point in time on the proleptic Gregorian calendar, to the nanosecond, with the leap second that a
minute may have as its second number sixty. Both types carry their validity: there is no 30th of
February and no hour 24.
-/

namespace RelationSql

/-! ## Dates -/

namespace Calendar

/-- The first year that a date can name. -/
def firstYear : Int := -262143

/-- The last year that a date can name. -/
def lastYear : Int := 262142

/-- Whether the year has a 29th of February. -/
def isLeap (year : Int) : Bool := year % 4 = 0 && (year % 100 ≠ 0 || year % 400 = 0)

/-- The number of days of a month; a month that does not exist has none. -/
def daysIn (year : Int) : Nat → Nat
  | 1 | 3 | 5 | 7 | 8 | 10 | 12 => 31
  | 4 | 6 | 9 | 11 => 30
  | 2 => if isLeap year then 29 else 28
  | _ => 0

end Calendar

/-- A day of the calendar. -/
structure Date where
  /-- the year, with a year zero -/
  year : Int
  /-- the month, from one -/
  month : Nat
  /-- the day of the month, from one -/
  day : Nat
  /-- the year is one that can be named -/
  year_range : Calendar.firstYear ≤ year ∧ year ≤ Calendar.lastYear
  /-- the month has that day, so it is a month -/
  day_range : 1 ≤ day ∧ day ≤ Calendar.daysIn year month
deriving DecidableEq

namespace Date

/-- The date with the given parts, if there is one. -/
def ofParts? (year : Int) (month day : Nat) : Option Date :=
  if h : (Calendar.firstYear ≤ year ∧ year ≤ Calendar.lastYear) ∧
      1 ≤ day ∧ day ≤ Calendar.daysIn year month then
    some ⟨year, month, day, h.1, h.2⟩
  else none

/-- The day after, if it can be named. -/
def next? (d : Date) : Option Date :=
  (ofParts? d.year d.month (d.day + 1)) <|> (ofParts? d.year (d.month + 1) 1) <|>
    ofParts? (d.year + 1) 1 1

/-- The day before, if it can be named. -/
def previous? (d : Date) : Option Date :=
  if 1 < d.day then ofParts? d.year d.month (d.day - 1)
  else if 1 < d.month then
    ofParts? d.year (d.month - 1) (Calendar.daysIn d.year (d.month - 1))
  else ofParts? (d.year - 1) 12 31

end Date

/-! ## Timestamps -/

/-- A time of day on a date, in UTC. -/
structure Timestamp where
  /-- the day -/
  date : Date
  /-- the hour, below 24 -/
  hour : Nat
  /-- the minute, below 60 -/
  minute : Nat
  /-- the second; sixty is a leap second -/
  second : Nat
  /-- billionths of a second -/
  nano : Nat
  /-- the clock shows such a time -/
  clock : hour < 24 ∧ minute < 60 ∧ second ≤ 60 ∧ nano < 1000000000
deriving DecidableEq

namespace Timestamp

/-- The timestamp with the given parts, if the clock shows such a time. -/
def ofParts? (date : Date) (hour minute second nano : Nat) : Option Timestamp :=
  if h : hour < 24 ∧ minute < 60 ∧ second ≤ 60 ∧ nano < 1000000000 then
    some ⟨date, hour, minute, second, nano, h⟩
  else none

/-- The same clock time some minutes earlier, at most a day; a negative number of minutes goes
forward. Seconds are untouched, so a leap second stays one. -/
def earlier? (t : Timestamp) (minutes : Int) : Option Timestamp := do
  let total : Int := (t.hour : Int) * 60 + t.minute - minutes
  let date ←
    if total < 0 then t.date.previous? else if 1440 ≤ total then t.date.next? else some t.date
  let ofDay := (total % 1440).toNat
  ofParts? date (ofDay / 60) (ofDay % 60) t.second t.nano

end Timestamp

end RelationSql
