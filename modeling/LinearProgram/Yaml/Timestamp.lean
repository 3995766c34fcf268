import LinearProgram.Config.Document

/-!
Days and moments of YAML 1.1. A day has four, two and two digits with hyphens between them. A moment
has a time of day behind a day, and then one digit is enough for a month, a day or an hour. A fraction
of a second and an offset from universal time may follow. What is written like this but names no day
or no time is a fault.
-/

namespace LinearProgram.Yaml

def takeDigits (count : Nat) (chars : List Char) : Option (List Char × List Char) :=
  let digits := chars.take count
  if digits.length = count ∧ digits.all Char.isDigit then some (digits, chars.drop count) else none

def takeShort (chars : List Char) : Option (List Char × List Char) :=
  (takeDigits 2 chars).or (takeDigits 1 chars)

def takeMark (mark : Char) : List Char → Option (List Char)
  | c :: rest => if c = mark then some rest else none
  | [] => none

structure DayText where
  year : List Char
  month : List Char
  number : List Char

/-- A time of day as it is written. The digits of an offset are those of its hours and minutes. -/
structure TimeText where
  hour : List Char
  minute : List Char
  second : List Char
  fraction : List Char := []
  zone : Option (Bool × List Char × List Char) := none

def dayText? (chars : List Char) : Option (DayText × List Char) := do
  let (year, rest) ← takeDigits 4 chars
  let (month, rest) ← takeShort (← takeMark '-' rest)
  let (number, rest) ← takeShort (← takeMark '-' rest)
  pure (⟨year, month, number⟩, rest)

def zone? : List Char → Option (Option (Bool × List Char × List Char))
  | [] => some none
  | chars =>
      match chars.dropWhile fun c => c == ' ' || c == '\t' with
      | ['Z'] => some (some (false, ['0'], ['0']))
      | sign :: rest =>
          if sign = '+' ∨ sign = '-' then do
            let (hours, rest) ← takeShort rest
            match rest with
            | [] => pure (some (sign = '-', hours, ['0']))
            | _ =>
                let (minutes, rest) ← takeDigits 2 (← takeMark ':' rest)
                if rest.isEmpty then pure (some (sign = '-', hours, minutes)) else none
          else none
      | [] => none

def timeText? (chars : List Char) : Option TimeText := do
  let (hour, rest) ← takeShort chars
  let (minute, rest) ← takeDigits 2 (← takeMark ':' rest)
  let (second, rest) ← takeDigits 2 (← takeMark ':' rest)
  let (fraction, rest) := match rest with
    | '.' :: tail => (tail.takeWhile Char.isDigit, tail.dropWhile Char.isDigit)
    | _ => ([], rest)
  pure { hour, minute, second, fraction, zone := ← zone? rest }

def takeDivider : List Char → Option (List Char)
  | [] => none
  | c :: rest =>
      if c = 'T' ∨ c = 't' then some rest
      else if c = ' ' ∨ c = '\t' then some (rest.dropWhile fun c => c == ' ' || c == '\t')
      else none

def wholeOf (digits : List Char) : Nat := NumberText.digitsValue 10 digits

namespace DayText

def day (text : DayText) : Except Fault Day :=
  let day : Day := ⟨wholeOf text.year, wholeOf text.month, wholeOf text.number⟩
  if day.year = 0 then .error (.notOnCalendar .year)
  else if day.month = 0 ∨ 12 < day.month then .error (.notOnCalendar .month)
  else if day.number = 0 ∨ Calendar.daysIn day.year day.month < day.number then
    .error (.notOnCalendar .day)
  else .ok day

end DayText

namespace TimeText

def offset (text : TimeText) : Except Fault (Option Int) :=
  match text.zone with
  | none => .ok none
  | some (negative, hours, minutes) =>
      let size : Int := wholeOf hours * 3600 + wholeOf minutes * 60
      let seconds := if negative then -size else size
      if seconds.natAbs < 86400 then .ok (some seconds)
      else .error (.notOnCalendar (.offset seconds))

def microsecond (text : TimeText) : Nat :=
  wholeOf ((text.fraction ++ List.replicate 6 '0').take 6)

/-- The moment on a day. The offset is looked at first, then the day, then the time from its hours
on. -/
def moment (text : TimeText) (day : DayText) : Except Fault Moment := do
  let offset ← text.offset
  let moment : Moment :=
    { day := ← day.day, hour := wholeOf text.hour, minute := wholeOf text.minute
      second := wholeOf text.second, microsecond := text.microsecond, offset }
  if 23 < moment.hour then .error (.notOnCalendar .hour)
  else if 59 < moment.minute then .error (.notOnCalendar .minute)
  else if 59 < moment.second then .error (.notOnCalendar .second)
  else .ok moment

end TimeText

def timestamp? (chars : List Char) : Option (Except Fault Scalar) := do
  let (day, rest) ← dayText? chars
  if rest.isEmpty then
    if day.month.length = 2 ∧ day.number.length = 2 then pure (day.day.map .day) else none
  else
    let time ← timeText? (← takeDivider rest)
    pure ((time.moment day).map .moment)

end LinearProgram.Yaml
