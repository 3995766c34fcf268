import LinearProgram.Fault
import LinearProgram.Number.Reader

/-!
Values as numbers. Truth values count as zero and one and texts are read; nothing else is a number.
Comparison, negation and products do not read texts.
-/

namespace LinearProgram.Value

def toBinary64 : Value → Except Fault Binary64
  | text s =>
      match NumberText.binary64? s with
      | some x => .ok x
      | none => .error (.unreadableNumber (Text.quoted s))
  | value =>
      match value.number? with
      | none => .error (.notNumeric value.kindName)
      | some x =>
          match x.toBinary64? with
          | some y => .ok y
          | none => .error .wholeNumberTooLarge

def comparable (relation other : String) (value : Value) : Except Fault Number :=
  match value.number? with
  | some x => .ok x
  | none => .error (.unordered relation value.kindName other)

def negated (value : Value) : Except Fault Value :=
  match value.number? with
  | some x => .ok (.number x.neg)
  | none => .error (.notNegatable value.kindName)

def times (coefficient : Binary64) (value : Value) : Except Fault Binary64 :=
  match value with
  | text _ | list _ => .error .sequenceFactor
  | value =>
      match value.number? with
      | none => .error (.notMultipliable value.kindName)
      | some _ => value.toBinary64.map coefficient.mul

def wholePart (x : Binary64) : Except Fault Int :=
  match x.truncate? with
  | some n => .ok n
  | none => .error (if x.isNaN then .wholePartOfNaN else .wholePartOfInfinity)

/-- The whole number that a value converts to; fractions are cut off. A text with too long a run of
digits in front is refused whatever follows them. -/
def toWhole : Value → Except Fault Int
  | text s =>
      let digits := NumberText.leadingDigits s
      if NumberText.digitLimit < digits then .error (.tooManyDigits (some digits))
      else match NumberText.integer? s with
        | some n => .ok n
        | none => .error (.unreadableInteger 10 s)
  | value =>
      match value.number? with
      | some (.int n) => .ok n
      | some (.float x) => wholePart x
      | none => .error (.notWhole value.kindName)

def wordEnd : Int := Int.pow 2 63

def toWord (value : Value) : Except Fault Int := do
  let n ← value.toWhole
  if -wordEnd ≤ n ∧ n < wordEnd then pure n else .error .wordTooSmall

def formatted (format : String) (write : Binary64 → String) (value : Value) : Except Fault String :=
  match value with
  | text _ | columnType _ | direction _ => .error (.textNotFormattable format)
  | value =>
      match value.number? with
      | none => .error (.notFormattable value.kindName)
      | some _ => value.toBinary64.map write

def generalText (value : Value) : Except Fault String := value.formatted "g" Binary64.generalText

def fixedText (value : Value) : Except Fault String := value.formatted "f" Binary64.fixedText

def amount (value : Value) : Except Fault String := do
  let x ← value.toBinary64
  if x.isWhole then pure (toString (← value.toWhole)) else pure x.text

end LinearProgram.Value
