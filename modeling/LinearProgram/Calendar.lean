import LinearProgram.Number.Layout

/-!
Days of the calendar and moments in them. The calendar has leap years by the Gregorian rule in all
years from one on. A moment may have an offset from universal time; two moments with offsets are the
same when they are the same instant.
-/

namespace LinearProgram

structure Day where
  year : Nat
  month : Nat
  number : Nat
  deriving DecidableEq, Repr

/-- A time of day on a day. The offset is in seconds; a moment without one is local. -/
structure Moment where
  day : Day
  hour : Nat
  minute : Nat
  second : Nat
  microsecond : Nat
  offset : Option Int
  deriving DecidableEq, Repr

namespace Calendar

def isLeapYear (year : Nat) : Bool := year % 4 = 0 && (year % 100 != 0 || year % 400 = 0)

def daysIn (year month : Nat) : Nat :=
  if month = 2 then if isLeapYear year then 29 else 28
  else if month = 4 ∨ month = 6 ∨ month = 9 ∨ month = 11 then 30
  else 31

def padded (width n : Nat) : String := String.ofList (padZeros width (decimalDigits n))

/-- Seconds as whole days, which may be negative, and a rest; a part that is zero is left out. -/
def durationText (seconds : Int) : String :=
  let days := seconds / 86400
  let rest := seconds % 86400
  let parts := (if days = 0 then [] else ["days=" ++ toString days]) ++
    (if rest = 0 then [] else ["seconds=" ++ toString rest])
  "datetime.timedelta(" ++ (if parts.isEmpty then "0" else ", ".intercalate parts) ++ ")"

end Calendar

namespace Day

/-- The count of days up to this one, from the first day of the year one. -/
def count (day : Day) : Nat :=
  let years := day.year - 1
  years * 365 + years / 4 - years / 100 + years / 400 +
    (List.range (day.month - 1)).foldl
      (fun days month => days + Calendar.daysIn day.year (month + 1)) day.number

def display (day : Day) : String :=
  Calendar.padded 4 day.year ++ "-" ++ Calendar.padded 2 day.month ++ "-" ++
    Calendar.padded 2 day.number

def parts (day : Day) : List Nat := [day.year, day.month, day.number]

def quoted (day : Day) : String :=
  "datetime.date(" ++ ", ".intercalate (day.parts.map toString) ++ ")"

end Day

namespace Moment

def clock (moment : Moment) : Nat :=
  (((moment.day.count * 24 + moment.hour) * 60 + moment.minute) * 60 + moment.second) * 1000000 +
    moment.microsecond

/-- Moments with offsets are the same at the same instant, local ones at the same clock time. -/
def same (a b : Moment) : Bool :=
  match a.offset, b.offset with
  | none, none => a.clock == b.clock
  | some x, some y => (a.clock : Int) - x * 1000000 == (b.clock : Int) - y * 1000000
  | _, _ => false

def offsetText (offset : Int) : String :=
  let minutes := offset.natAbs / 60
  (if offset < 0 then "-" else "+") ++ Calendar.padded 2 (minutes / 60) ++ ":" ++
    Calendar.padded 2 (minutes % 60)

def display (moment : Moment) : String :=
  moment.day.display ++ " " ++
    ":".intercalate ([moment.hour, moment.minute, moment.second].map (Calendar.padded 2)) ++
    (if moment.microsecond = 0 then "" else "." ++ Calendar.padded 6 moment.microsecond) ++
    (moment.offset.map offsetText).getD ""

def parts (moment : Moment) : List Nat :=
  moment.day.parts ++ [moment.hour, moment.minute] ++
    (if moment.microsecond = 0 then if moment.second = 0 then [] else [moment.second]
      else [moment.second, moment.microsecond])

def zoneText (offset : Int) : String :=
  if offset = 0 then "datetime.timezone.utc"
  else "datetime.timezone(" ++ Calendar.durationText offset ++ ")"

def quoted (moment : Moment) : String :=
  let zone := (moment.offset.map fun offset => "tzinfo=" ++ zoneText offset).toList
  "datetime.datetime(" ++ ", ".intercalate (moment.parts.map toString ++ zone) ++ ")"

end Moment

end LinearProgram
