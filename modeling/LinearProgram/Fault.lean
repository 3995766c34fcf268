import LinearProgram.Value.Basic

/-!
What can go wrong, by cause. A fault names the values that caused it; its wording is in `message`
alone.
-/

namespace LinearProgram

inductive DecodingCause where
  | badStart
  | badContinuation
  | cutShort
  deriving DecidableEq, Repr

inductive CalendarCause where
  | year
  | month
  | day
  | hour
  | minute
  | second
  | offset (seconds : Int)
  deriving DecidableEq, Repr

inductive Fault where
  /-- A value of this kind stands where a number is needed. -/
  | notNumeric (kind : String)
  /-- What is not read as a number is given in its quoted form. -/
  | unreadableNumber (quoted : String)
  | unreadableInteger (base : Nat) (text : String)
  /-- A value of this kind stands where a whole number is needed. -/
  | notWhole (kind : String)
  | wholeNumberTooLarge
  /-- A whole number does not fit into a signed word of 64 bits. -/
  | wordTooSmall
  /-- Lists of numbers fill a box of these extents, but what they hold fills none. -/
  | raggedNumbers (extents : List Nat)
  /-- Lists of numbers fill a box with more depths than these. -/
  | numbersTooDeep (limit : Nat)
  /-- A list stands where a number is looked up. -/
  | nestedNumber
  /-- A whole number has too many decimal digits to be written, or to be read when their count is
  told. -/
  | tooManyDigits (count : Option Nat)
  | wholePartOfNaN
  | wholePartOfInfinity
  | unordered (relation left right : String)
  | notNegatable (kind : String)
  /-- A value of this kind is no factor of a product. -/
  | notMultipliable (kind : String)
  | sequenceFactor
  | notFormattable (kind : String)
  | textNotFormattable (format : String)
  /-- An entity whose key is a value of this kind has no text. -/
  | notText (kind : String)
  | notHashable (kind : String)
  | indexOutOfRange
  | keyTaken (kind key : String)
  | objectiveDefined (key : String)
  | foreignEntity (row column : String)
  | noSuchMember (kind member : String)
  /-- A matrix has no row under this value. -/
  | noSuchRow (value : Value)
  /-- What is no truth value is given in its quoted form. -/
  | notBoolean (quoted : String)
  | notStatus (text : String)
  | configMissing (path : String)
  | solverKeyMissing (path : String)
  | solverNotMapping (path : String)
  | malformedConfig
  | undecodable (byte first last : Nat) (cause : DecodingCause)
  | notOnCalendar (cause : CalendarCause)
  /-- No character has such a code, which may be too large even for a signed word of 32 bits. -/
  | noCharacter (large : Bool)
  /-- The engine broke down in a way of its own. -/
  | engineBroke (message : String)

namespace DecodingCause

def message : DecodingCause → String
  | badStart => "invalid start byte"
  | badContinuation => "invalid continuation byte"
  | cutShort => "unexpected end of data"

end DecodingCause

namespace CalendarCause

def message : CalendarCause → String
  | year => "year 0 is out of range"
  | month => "month must be in 1..12"
  | day => "day is out of range for month"
  | hour => "hour must be in 0..23"
  | minute => "minute must be in 0..59"
  | second => "second must be in 0..59"
  | offset seconds =>
      "offset must be a timedelta strictly between -timedelta(hours=24) and timedelta(hours=24), " ++
        "not " ++ Calendar.durationText seconds ++ "."

end CalendarCause

namespace Fault

def extentsText : List Nat → String
  | [extent] => "(" ++ toString extent ++ ",)"
  | extents => "(" ++ ", ".intercalate (extents.map toString) ++ ")"

def excerpt (text : String) : String := String.ofList ((Text.quoted text).toList.take 200)

def message : Fault → String
  | notNumeric kind => "float() argument must be a string or a real number, not '" ++ kind ++ "'"
  | unreadableNumber quoted => "could not convert string to float: " ++ quoted
  | unreadableInteger base text =>
      "invalid literal for int() with base " ++ toString base ++ ": " ++ excerpt text
  | notWhole kind =>
      "int() argument must be a string, a bytes-like object or a real number, not '" ++ kind ++ "'"
  | wholeNumberTooLarge => "int too large to convert to float"
  | wordTooSmall => "Python int too large to convert to C long"
  | raggedNumbers extents =>
      "setting an array element with a sequence. The requested array has an inhomogeneous shape after " ++
        toString extents.length ++ " dimensions. The detected shape was " ++ extentsText extents ++
        " + inhomogeneous part."
  | numbersTooDeep limit =>
      "setting an array element with a sequence. The requested array would exceed the maximum number " ++
        "of dimension of " ++ toString limit ++ "."
  | nestedNumber => "object too deep for desired array"
  | tooManyDigits count =>
      "Exceeds the limit (4300 digits) for integer string conversion" ++
        (count.map fun count => ": value has " ++ toString count ++ " digits").getD "" ++
        "; use sys.set_int_max_str_digits() to increase the limit"
  | wholePartOfNaN => "cannot convert float NaN to integer"
  | wholePartOfInfinity => "cannot convert float infinity to integer"
  | unordered relation left right =>
      "'" ++ relation ++ "' not supported between instances of '" ++ left ++ "' and '" ++ right ++ "'"
  | notNegatable kind => "bad operand type for unary -: '" ++ kind ++ "'"
  | notMultipliable kind => "unsupported operand type(s) for *: 'float' and '" ++ kind ++ "'"
  | sequenceFactor => "can't multiply sequence by non-int of type 'float'"
  | notFormattable kind => "unsupported format string passed to " ++ kind ++ ".__format__"
  | textNotFormattable format => "Unknown format code '" ++ format ++ "' for object of type 'str'"
  | notText kind => "__str__ returned non-string (type " ++ kind ++ ")"
  | notHashable kind => "unhashable type: '" ++ kind ++ "'"
  | indexOutOfRange => "list index out of range"
  | keyTaken kind key => kind ++ " " ++ key ++ " already exists"
  | objectiveDefined key => "Objective already defined: " ++ key
  | foreignEntity row column => row ++ "/" ++ column ++ " belongs to another problem"
  | noSuchMember kind member =>
      "'" ++ kind ++ "' object has no attribute '" ++ member ++ "'"
  | noSuchRow value => value.quoted
  | notBoolean quoted => "Invalid boolean value: " ++ quoted
  | notStatus text => Text.quoted text ++ " is not a valid SolveStatus"
  | configMissing path => "Config file not found: " ++ path
  | solverKeyMissing path => "Config file is missing top-level key 'solver': " ++ path
  | solverNotMapping path => "'solver' must be a mapping: " ++ path
  | malformedConfig => ""
  | undecodable byte first last cause =>
      let place := if first = last then "byte 0x" ++ String.ofList (Text.hexDigits 2 byte) ++
          " in position " ++ toString first
        else "bytes in position " ++ toString first ++ "-" ++ toString last
      "'utf-8' codec can't decode " ++ place ++ ": " ++ cause.message
  | notOnCalendar cause => cause.message
  | noCharacter large =>
      if large then "Python int too large to convert to C int"
      else "chr() arg not in range(0x110000)"
  | engineBroke message => message

end Fault

section Steps

variable {α β : Type}

@[simp] theorem ok_bind (item : α) (next : α → Except Fault β) :
    (Except.ok item >>= next) = next item := rfl

theorem bind_error_iff (first : Except Fault α) (next : α → Except Fault β) (fault : Fault) :
    (first >>= next) = .error fault ↔
      first = .error fault ∨ ∃ item, first = .ok item ∧ next item = .error fault := by
  cases first with
  | error other => simp [bind, Except.bind]
  | ok item => simp

theorem bind_ok {first : Except Fault α} {next : α → Except Fault β} {result : β}
    (succeeds : (first >>= next) = .ok result) : ∃ item, first = .ok item ∧ next item = .ok result := by
  cases first with
  | error fault => cases succeeds
  | ok item => exact ⟨item, rfl, succeeds⟩

theorem map_ok {first : Except Fault α} {change : α → β} {result : β}
    (succeeds : first.map change = .ok result) : ∃ item, first = .ok item ∧ change item = result := by
  cases first with
  | error fault => cases succeeds
  | ok item => exact ⟨item, rfl, Except.ok.inj succeeds⟩

theorem mapM_ok (act : α → Except Fault β) (result : α → β) (items : List α)
    (succeeds : ∀ item ∈ items, act item = .ok (result item)) :
    items.mapM act = .ok (items.map result) := by
  induction items with
  | nil => rfl
  | cons first rest ih =>
      have later := ih fun item member => succeeds item (List.mem_cons_of_mem _ member)
      rw [List.mapM_cons, succeeds first (by simp), later]
      rfl

theorem map_of_mapM {γ : Type} (act : α → Except Fault β) (shown : β → γ) (expected : α → γ)
    (each : ∀ item result, act item = .ok result → shown result = expected item) (items : List α)
    (results : List β) (made : items.mapM act = .ok results) :
    results.map shown = items.map expected := by
  induction items generalizing results with
  | nil =>
      cases made
      rfl
  | cons item rest ih =>
      rw [List.mapM_cons] at made
      obtain ⟨result, isResult, others⟩ := bind_ok made
      obtain ⟨further, areFurther, same⟩ := bind_ok others
      cases same
      rw [List.map_cons, List.map_cons, each item result isResult, ih further areFurther]

end Steps

end LinearProgram
