import Scaffold.Decimal.Fixed

/-!
# Dates and points in time

* `Date.make`, `Moment.make`: a date or a point in time, if there is one with the given parts.
* `Date.text`, `Moment.text`: the usual text, year first.
* `Date.display`, `Moment.display`: the form in which messages show them, part by part.
* `Moment.same`: two points in time with an offset are the same if they are the same instant.
-/
namespace Scaffold.Calendar

/-- Why there is no date or point in time with the given parts. -/
inductive Flaw where
  | year (written : Nat)
  | month
  | day
  | hour
  | minute
  | second
  | offset (minutes : Int)
  deriving Repr, DecidableEq

/-- A span of time in minutes as messages show it: whole days, possibly negative, and seconds. -/
def spanDisplay (minutes : Int) : String :=
  let days := minutes / 1440
  let seconds := minutes % 1440 * 60
  let parts :=
    (if days = 0 then [] else ["days=" ++ toString days]) ++
      (if seconds = 0 then [] else ["seconds=" ++ toString seconds])
  "datetime.timedelta(" ++ (if parts.isEmpty then "0" else String.intercalate ", " parts) ++ ")"

/-- The wording of a flaw. -/
def Flaw.message : Flaw → String
  | .year written => "year " ++ toString written ++ " is out of range"
  | .month => "month must be in 1..12"
  | .day => "day is out of range for month"
  | .hour => "hour must be in 0..23"
  | .minute => "minute must be in 0..59"
  | .second => "second must be in 0..59"
  | .offset minutes =>
    "offset must be a timedelta strictly between -timedelta(hours=24) and timedelta(hours=24), not " ++
      spanDisplay minutes ++ "."

/-! ## Dates -/

/-- A date. -/
structure Date where
  year : Nat
  month : Nat
  day : Nat
  deriving Repr, DecidableEq

/-- Whether a year has a day more. -/
def isLeap (year : Nat) : Bool := year % 4 == 0 && (year % 100 != 0 || year % 400 == 0)

/-- The days of a month. -/
def daysIn (year month : Nat) : Nat :=
  if month = 2 then if isLeap year then 29 else 28
  else if month = 4 ∨ month = 6 ∨ month = 9 ∨ month = 11 then 30
  else 31

/-- The date with the given parts; years start at one. -/
def Date.make (year month day : Nat) : Except Flaw Date :=
  if year = 0 then .error (.year year)
  else if month = 0 ∨ 12 < month then .error .month
  else if day = 0 ∨ daysIn year month < day then .error .day
  else .ok ⟨year, month, day⟩

/-- The days of a year before a month. -/
def daysBefore (year month : Nat) : Nat :=
  (List.range month).foldl (fun n m => if m = 0 then n else n + daysIn year m) 0

/-- The days from the start of year one. -/
def Date.dayNumber (d : Date) : Nat :=
  let years := d.year - 1
  years * 365 + years / 4 - years / 100 + years / 400 + daysBefore d.year d.month + (d.day - 1)

/-- A number with leading zeros. -/
def padded (width n : Nat) : String := .ofList (Decimal.zeroPadded width n)

/-- The text of a date. -/
def Date.text (d : Date) : String :=
  padded 4 d.year ++ "-" ++ padded 2 d.month ++ "-" ++ padded 2 d.day

/-- Numbers with commas between them. -/
def commas (ns : List Nat) : String := String.intercalate ", " (ns.map toString)

/-- A date as messages show it. -/
def Date.display (d : Date) : String := "datetime.date(" ++ commas [d.year, d.month, d.day] ++ ")"

/-! ## Points in time -/

/-- A time of day on a date, with the minutes that its clock is ahead if they are known. -/
structure Moment where
  date : Date
  hour : Nat
  minute : Nat
  second : Nat
  microsecond : Nat
  offset : Option Int
  deriving Repr, DecidableEq

/-- The point in time with the given parts. A clock is less than a day ahead or behind. -/
def Moment.make (year month day hour minute second microsecond : Nat) (offset : Option Int) :
    Except Flaw Moment :=
  if (offset.getD 0).natAbs ≥ 1440 then .error (.offset (offset.getD 0))
  else
    match Date.make year month day with
    | .error flaw => .error flaw
    | .ok date =>
      if 23 < hour then .error .hour
      else if 59 < minute then .error .minute
      else if 59 < second then .error .second
      else .ok ⟨date, hour, minute, second, microsecond, offset⟩

/-- An offset as hours and minutes. -/
def offsetText (minutes : Int) : String :=
  (if minutes < 0 then "-" else "+") ++ padded 2 (minutes.natAbs / 60) ++ ":" ++
    padded 2 (minutes.natAbs % 60)

/-- The text of a point in time. -/
def Moment.text (t : Moment) : String :=
  t.date.text ++ " " ++ padded 2 t.hour ++ ":" ++ padded 2 t.minute ++ ":" ++ padded 2 t.second ++
    (if t.microsecond = 0 then "" else "." ++ padded 6 t.microsecond) ++
    (t.offset.map offsetText).getD ""

/-- An offset as messages show it. -/
def offsetDisplay (minutes : Int) : String :=
  if minutes = 0 then "datetime.timezone.utc"
  else "datetime.timezone(" ++ spanDisplay minutes ++ ")"

/-- A point in time as messages show it; seconds and their fractions are left out if they are zero. -/
def Moment.display (t : Moment) : String :=
  let seconds :=
    if t.microsecond ≠ 0 then [t.second, t.microsecond]
    else if t.second ≠ 0 then [t.second]
    else []
  "datetime.datetime(" ++
    commas ([t.date.year, t.date.month, t.date.day, t.hour, t.minute] ++ seconds) ++
    (t.offset.map fun minutes => ", tzinfo=" ++ offsetDisplay minutes).getD "" ++ ")"

/-- The microseconds since the start of year one on a clock that is neither ahead nor behind. -/
def Moment.instant (t : Moment) (offset : Int) : Int :=
  let minutes : Int := (t.date.dayNumber * 24 + t.hour) * 60 + t.minute
  ((minutes - offset) * 60 + t.second) * 1000000 + t.microsecond

/-- Whether two points in time are the same. One with an offset differs from all without. -/
def Moment.same (s t : Moment) : Bool :=
  match s.offset, t.offset with
  | some a, some b => s.instant a == t.instant b
  | none, none => s == t
  | _, _ => false

end Scaffold.Calendar
