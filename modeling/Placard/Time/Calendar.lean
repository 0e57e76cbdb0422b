import Placard.Text.Digit

/-!
# Calendar dates and moments

A `Date` is a day of the proleptic Gregorian calendar, a `Moment` a date with a clock time and the
offset it was written in, if any. Both are kept as written: nothing converts between offsets. The
functions `Date.of?` and `Clock.of?` say which of the fields is out of range.
-/

namespace Placard.Time

open Placard.Text

/-- A field of a date or a clock time that is out of range. -/
inductive RangeFault where
  | year (value : Int)
  | month
  | day
  | hour
  | minute
  | second
deriving DecidableEq

/-- The wording of a range fault. -/
def RangeFault.message : RangeFault → String
  | .year v => "year " ++ String.ofList (intText v) ++ " is out of range"
  | .month => "month must be in 1..12"
  | .day => "day is out of range for month"
  | .hour => "hour must be in 0..23"
  | .minute => "minute must be in 0..59"
  | .second => "second must be in 0..59"

/-- Whether a year has a leap day. -/
def isLeap (year : Nat) : Bool :=
  year % 4 == 0 && (year % 100 != 0 || year % 400 == 0)

/-- The number of days of a month. -/
def daysInMonth (year month : Nat) : Nat :=
  if month = 2 then if isLeap year then 29 else 28
  else if month = 4 || month = 6 || month = 9 || month = 11 then 30
  else 31

/-- A calendar date. -/
structure Date where
  year : Nat
  month : Nat
  day : Nat
deriving DecidableEq

/-- The date with these fields, or the first field out of range. -/
def Date.of? (year month day : Int) : Except RangeFault Date :=
  if year < 1 || 9999 < year then .error (.year year)
  else if month < 1 || 12 < month then .error .month
  else if day < 1 || daysInMonth year.toNat month.toNat < day then .error .day
  else .ok { year := year.toNat, month := month.toNat, day := day.toNat }

/-- The number of days of the years before a year. -/
def daysBeforeYear (year : Nat) : Nat :=
  let y := year - 1
  y * 365 + y / 4 - y / 100 + y / 400

/-- The number of days of the months before a month of a year. -/
def daysBeforeMonth (year month : Nat) : Nat :=
  (List.range (month - 1)).foldl (fun days m => days + daysInMonth year (m + 1)) 0

/-- The number of the day, counted from the first day of year one. -/
def Date.ordinal (d : Date) : Nat :=
  daysBeforeYear d.year + daysBeforeMonth d.year d.month + d.day

/-- The day of the week, Monday being zero. -/
def Date.weekday (d : Date) : Nat :=
  (d.ordinal + 6) % 7

/-- The month and the day of month of the `n`-th day of a year, counted from zero, looking at the
months from `month` on. -/
def monthAndDay (year : Nat) : Nat → Nat → Nat → Nat × Nat
  | 0, month, n => (month, n + 1)
  | fuel + 1, month, n =>
    let days := daysInMonth year month
    if n < days then (month, n + 1) else monthAndDay year fuel (month + 1) (n - days)

/-- The date a number of days after the first of January of a year, within that year or the next,
or before it within the year before. -/
def Date.ofYearDay (year : Nat) (offset : Int) : Int × Nat × Nat :=
  let length : Int := if isLeap year then 366 else 365
  if offset < 0 then
    let days : Int := if isLeap (year - 1) then 366 else 365
    let p := monthAndDay (year - 1) 12 1 (offset + days).toNat
    (year - 1, p.1, p.2)
  else if offset < length then
    let p := monthAndDay year 12 1 offset.toNat
    (year, p.1, p.2)
  else
    let p := monthAndDay (year + 1) 12 1 (offset - length).toNat
    (year + 1, p.1, p.2)

/-- The day of the week of the first of January, Monday being zero. -/
def newYearWeekday (year : Nat) : Nat :=
  Date.weekday { year, month := 1, day := 1 }

/-- Whether a year has a fifty-third week. -/
def hasLongYear (year : Nat) : Bool :=
  newYearWeekday year == 3 || (newYearWeekday year == 2 && isLeap year)

/-- The date of a day of a week of a year, counted as weeks are: week one has the year's first
Thursday. -/
def Date.ofWeek? (year week day : Nat) : Option Date :=
  if year < 1 || 9999 < year then none
  else if week < 1 || 53 < week || (week = 53 && !hasLongYear year) then none
  else if day < 1 || 7 < day then none
  else
    let first := newYearWeekday year
    let monday : Int := if first ≤ 3 then -first else 7 - first
    let (y, m, d) := Date.ofYearDay year (monday + (week - 1 : Nat) * 7 + (day - 1 : Nat))
    (Date.of? y m d).toOption

/-- A clock time. -/
structure Clock where
  hour : Nat
  minute : Nat
  second : Nat
  micro : Nat
deriving DecidableEq

/-- Midnight. -/
def Clock.midnight : Clock :=
  { hour := 0, minute := 0, second := 0, micro := 0 }

/-- The clock time with these fields, or the first field out of range. -/
def Clock.of? (hour minute second : Int) (micro : Nat) : Except RangeFault Clock :=
  if hour < 0 || 23 < hour then .error .hour
  else if minute < 0 || 59 < minute then .error .minute
  else if second < 0 || 59 < second then .error .second
  else .ok { hour := hour.toNat, minute := minute.toNat, second := second.toNat, micro }

/-- A distance from universal time. -/
structure Offset where
  negative : Bool
  seconds : Nat
  micro : Nat
deriving DecidableEq

/-- A date with a clock time, and the offset it was written in. -/
structure Moment where
  date : Date
  clock : Clock
  offset : Option Offset
deriving DecidableEq

/-! ## Written forms -/

/-- The date as year, month and day. -/
def Date.text (d : Date) : List Char :=
  paddedText 4 d.year ++ '-' :: paddedText 2 d.month ++ '-' :: paddedText 2 d.day

/-- Hours, minutes and seconds, and six places of a fraction unless it is zero. -/
def Clock.text (t : Clock) : List Char :=
  paddedText 2 t.hour ++ ':' :: paddedText 2 t.minute ++ ':' :: paddedText 2 t.second ++
    (if t.micro = 0 then [] else '.' :: paddedText 6 t.micro)

/-- A sign, hours and minutes, and seconds unless they are zero. -/
def Offset.text (o : Offset) : List Char :=
  (if o.negative then '-' else '+') :: paddedText 2 (o.seconds / 3600) ++
    ':' :: paddedText 2 (o.seconds / 60 % 60) ++
    (if o.seconds % 60 = 0 && o.micro = 0 then [] else ':' :: paddedText 2 (o.seconds % 60)) ++
    (if o.micro = 0 then [] else '.' :: paddedText 6 o.micro)

/-- The moment with a separator between date and clock time. -/
def Moment.text (separator : Char) (t : Moment) : List Char :=
  t.date.text ++ separator :: t.clock.text ++ (t.offset.elim [] Offset.text)

end Placard.Time
