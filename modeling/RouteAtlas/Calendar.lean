import RouteAtlas.Text.Basic

/-!
# Dates and timestamps

A `Date` is a day of the proleptic Gregorian calendar, a `Stamp` adds a time of day and possibly
an offset from universal time. `Date.check` and `Stamp.check` refuse impossible ones and say which
part is out of range, from the coarsest part to the finest.
-/

namespace RouteAtlas

/-- A day of the calendar. -/
structure Date where
  /-- The year, from 1 to 9999. -/
  year : Nat
  /-- The month, from 1 to 12. -/
  month : Nat
  /-- The day of the month. -/
  day : Nat
deriving DecidableEq

/-- A day and a time of day. The offset from universal time is in microseconds. -/
structure Stamp where
  /-- The day. -/
  date : Date
  /-- The hour, from 0 to 23. -/
  hour : Nat
  /-- The minute, from 0 to 59. -/
  minute : Nat
  /-- The second, from 0 to 59. -/
  second : Nat
  /-- The microsecond. -/
  micro : Nat
  /-- The offset from universal time, if the stamp has one. -/
  offset : Option Int
deriving DecidableEq

/-- Why a date or stamp is impossible. -/
inductive CalendarError
  /-- The year is zero. -/
  | year (year : Nat)
  /-- The month is not one of the twelve. -/
  | month
  /-- The month has no such day. -/
  | day
  /-- The day has no such hour. -/
  | hour
  /-- The hour has no such minute. -/
  | minute
  /-- The minute has no such second. -/
  | second
  /-- The offset is a day or more; its length is given in microseconds. -/
  | offset (micro : Int)

/-! ### Wording -/

/-- The text of a length of time, as days, seconds and microseconds. The days may be negative, the
rest is not. -/
def durationText (micro : Int) : String :=
  let perDay : Int := 86400000000
  let days := Int.fdiv micro perDay
  let rest := Int.fmod micro perDay
  let seconds := Int.fdiv rest 1000000
  let micros := Int.fmod rest 1000000
  let part := fun (name : String) (n : Int) =>
    if n == 0 then [] else [name ++ "=" ++ Text.integer n]
  let parts := part "days" days ++ part "seconds" seconds ++ part "microseconds" micros
  "datetime.timedelta(" ++ (if parts.isEmpty then "0" else Text.join ", " parts) ++ ")"

/-- The wording of a calendar error. -/
def CalendarError.message : CalendarError → String
  | .year y => "year " ++ Text.decimal y ++ " is out of range"
  | .month => "month must be in 1..12"
  | .day => "day is out of range for month"
  | .hour => "hour must be in 0..23"
  | .minute => "minute must be in 0..59"
  | .second => "second must be in 0..59"
  | .offset micro =>
    "offset must be a timedelta strictly between -timedelta(hours=24) and timedelta(hours=24), not "
      ++ durationText micro ++ "."

/-! ### Possible dates -/

/-- Whether a year has a 29th of February. -/
def isLeap (year : Nat) : Bool :=
  year % 4 == 0 && (year % 100 != 0 || year % 400 == 0)

/-- The number of days of a month. -/
def daysInMonth (year month : Nat) : Nat :=
  if month == 2 then if isLeap year then 29 else 28
  else if month == 4 || month == 6 || month == 9 || month == 11 then 30
  else 31

/-- Refuses an impossible date. -/
def Date.check (d : Date) : Except CalendarError Date :=
  if d.year == 0 || 9999 < d.year then .error (.year d.year)
  else if d.month == 0 || 12 < d.month then .error .month
  else if d.day == 0 || daysInMonth d.year d.month < d.day then .error .day
  else .ok d

/-- Refuses an impossible stamp; the offset is looked at first. -/
def Stamp.check (t : Stamp) : Except CalendarError Stamp := do
  match t.offset with
  | some micro => if 86400000000 ≤ micro.natAbs then throw (.offset micro)
  | none => pure ()
  let _ ← t.date.check
  if 23 < t.hour then throw .hour
  if 59 < t.minute then throw .minute
  if 59 < t.second then throw .second
  return t

/-! ### Writing -/

/-- The ISO text of a date. -/
def Date.iso (d : Date) : String :=
  Text.decimalPadded 4 d.year ++ "-" ++ Text.decimalPadded 2 d.month ++ "-" ++
    Text.decimalPadded 2 d.day

/-- The text of an offset: hours and minutes, and seconds and a fraction only where they are not
zero. -/
def offsetText (micro : Int) : String :=
  let total := micro.natAbs
  let seconds := total / 1000000
  let fraction := total % 1000000
  (if micro < 0 then "-" else "+") ++ Text.decimalPadded 2 (seconds / 3600) ++ ":" ++
    Text.decimalPadded 2 (seconds / 60 % 60) ++
    (if seconds % 60 == 0 && fraction == 0 then ""
     else ":" ++ Text.decimalPadded 2 (seconds % 60)) ++
    (if fraction == 0 then "" else "." ++ Text.decimalPadded 6 fraction)

/-- The ISO text of a stamp, with a chosen text between date and time. -/
def Stamp.isoWith (between : String) (t : Stamp) : String :=
  t.date.iso ++ between ++ Text.decimalPadded 2 t.hour ++ ":" ++ Text.decimalPadded 2 t.minute ++
    ":" ++ Text.decimalPadded 2 t.second ++
    (if t.micro == 0 then "" else "." ++ Text.decimalPadded 6 t.micro) ++
    (match t.offset with
     | some micro => offsetText micro
     | none => "")

/-- The ISO text of a stamp. -/
def Stamp.iso (t : Stamp) : String := t.isoWith "T"

/-- The text of a date as a constructor call. -/
def Date.call (d : Date) : String :=
  "datetime.date(" ++ Text.join ", " [Text.decimal d.year, Text.decimal d.month, Text.decimal d.day] ++ ")"

/-- The text of a stamp as a constructor call; trailing zero seconds and microseconds are left
out. -/
def Stamp.call (t : Stamp) : String :=
  let time := [t.date.year, t.date.month, t.date.day, t.hour, t.minute] ++
    (if t.micro != 0 then [t.second, t.micro] else if t.second != 0 then [t.second] else [])
  let zone :=
    match t.offset with
    | none => []
    | some 0 => ["tzinfo=datetime.timezone.utc"]
    | some micro => ["tzinfo=datetime.timezone(" ++ durationText micro ++ ")"]
  "datetime.datetime(" ++ Text.join ", " (time.map Text.decimal ++ zone) ++ ")"

/-! ### Counting days -/

/-- The number of days before the first of January of a year, counted from the year 1. -/
def daysBeforeYear (year : Nat) : Nat :=
  let y := year - 1
  y * 365 + y / 4 - y / 100 + y / 400

/-- The month and day of the `n`-th day of a year, counted from zero. -/
def monthAndDay (year : Nat) : Nat → Nat → Nat → Nat × Nat
  | 0, month, n => (month, n + 1)
  | fuel + 1, month, n =>
    if n < daysInMonth year month then (month, n + 1)
    else monthAndDay year fuel (month + 1) (n - daysInMonth year month)

/-- The date of a day counted from the first of January of the year 1. -/
def dateOfOrdinal (n : Nat) : Date :=
  let guess := n / 366 + 1
  let year := ((List.range 30).map (guess + ·)).foldl
    (fun best y => if daysBeforeYear y ≤ n then y else best) guess
  let (month, day) := monthAndDay year 12 1 (n - daysBeforeYear year)
  ⟨year, month, day⟩

end RouteAtlas
