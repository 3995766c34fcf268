import LinearProgram.Yaml.Timestamp

/-!
Plain scalars of YAML 1.1. A plain text is a truth value, a null, a number, a day or a moment when
it is written as one, and stands for itself otherwise. Numbers may have underscores; whole numbers may
be octal, hexadecimal, binary or sexagesimal, and decimal ones have a limit of digits; a fraction needs
a point, and its exponent a sign.
-/

namespace LinearProgram.Yaml

def trueWords : List String :=
  ["yes", "Yes", "YES", "true", "True", "TRUE", "on", "On", "ON"]

def falseWords : List String :=
  ["no", "No", "NO", "false", "False", "FALSE", "off", "Off", "OFF"]

def nullWords : List String := ["", "~", "null", "Null", "NULL"]

def isDigitOrMark (c : Char) : Bool := c.isDigit || c == '_'

def isDigitRun : List Char → Bool
  | c :: rest => c.isDigit && rest.all isDigitOrMark
  | [] => false

def withoutMarks (chars : List Char) : List Char := chars.filter (· != '_')

def colonParts : List Char → List (List Char)
  | [] => [[]]
  | c :: rest =>
      match colonParts rest with
      | part :: parts => if c = ':' then [] :: part :: parts else (c :: part) :: parts
      | [] => [[c]]

def isSixty : List Char → Bool
  | [unit] => unit.isDigit
  | [ten, unit] => ten.isDigit && ten.toNat ≤ 0x35 && unit.isDigit
  | _ => false

def isOctal (c : Char) : Bool := ('0' ≤ c && c ≤ '7') || c == '_'

def isBinary (c : Char) : Bool := c == '0' || c == '1' || c == '_'

def isHexDigit (c : Char) : Bool :=
  c.isDigit || ('a' ≤ c && c ≤ 'f') || ('A' ≤ c && c ≤ 'F')

def inBase (base : Nat) (digits : List Char) : Except Fault Nat :=
  match withoutMarks digits with
  | [] => .error (.unreadableInteger base "")
  | chars => .ok (NumberText.digitsValue base chars)

def ofDigits (digits : List Char) : Except Fault Nat :=
  if NumberText.digitLimit < digits.length then .error (.tooManyDigits (some digits.length))
  else .ok (NumberText.digitsValue 10 digits)

def natural? : List Char → Option (Except Fault Nat)
  | ['0'] => some (.ok 0)
  | '0' :: 'b' :: digits =>
      if !digits.isEmpty && digits.all isBinary then some (inBase 2 digits) else none
  | '0' :: 'x' :: digits =>
      if !digits.isEmpty && digits.all fun c => isHexDigit c || c == '_' then some (inBase 16 digits)
      else none
  | '0' :: digits =>
      if digits.all isOctal then some (.ok (NumberText.digitsValue 8 (withoutMarks digits)))
      else none
  | chars =>
      match colonParts chars with
      | leading :: places =>
          if isDigitRun leading && places.all isSixty then
            some ((leading :: places).foldlM (fun value part => do
              pure (value * 60 + (← ofDigits (withoutMarks part)))) 0)
          else none
      | [] => none

def integer? (chars : List Char) : Option (Except Fault Scalar) :=
  let (negative, body) := NumberText.takeSign chars
  (natural? body).map fun n => n.map fun n => .int (if negative then -(n : Int) else n)

def isExponent : List Char → Bool
  | [] => true
  | mark :: sign :: digits =>
      (mark == 'e' || mark == 'E') && (sign == '-' || sign == '+') && !digits.isEmpty &&
        digits.all Char.isDigit
  | _ => false

def decimal (chars : List Char) : Binary64 :=
  match NumberText.decimal? (withoutMarks chars) with
  | some (digits, exponent) => NumberText.ofDecimal false digits exponent
  | none => .nan

/-- Sexagesimal places from the last to the first, each weighted by a power of sixty, which may not be
too large for a binary64 number. -/
def sexagesimal (places : List (List Char)) : Except Fault Binary64 := do
  let (sum, _) ← places.reverse.foldlM (fun (sum, weight) place =>
    match Binary64.ofInt? weight with
    | some factor => .ok (sum.add ((decimal place).mul factor), weight * 60)
    | none => .error .wholeNumberTooLarge) (Binary64.zero, (1 : Int))
  pure sum

def fraction? (chars : List Char) : Option (Except Fault Binary64) :=
  let whole := chars.takeWhile (· != '.')
  match chars.dropWhile (· != '.') with
  | [] => none
  | _ :: tail =>
      let rest := tail.dropWhile isDigitOrMark
      match colonParts whole with
      | [digits] =>
          if isDigitRun digits && isExponent rest then some (.ok (decimal chars)) else none
      | leading :: places =>
          if isDigitRun leading && places.all isSixty && rest.isEmpty then
            some (sexagesimal (colonParts chars))
          else none
      | [] => none

def float? (chars : List Char) : Option (Except Fault Binary64) :=
  let (negative, body) := NumberText.takeSign chars
  match String.ofList body with
  | ".inf" | ".Inf" | ".INF" => some (.ok (.infinity negative))
  | _ =>
      match String.ofList chars with
      | ".nan" | ".NaN" | ".NAN" => some (.ok .nan)
      | _ =>
          match chars with
          | '.' :: tail =>
              if isDigitRun (tail.takeWhile isDigitOrMark) &&
                  isExponent (tail.dropWhile isDigitOrMark) then some (.ok (decimal chars))
              else none
          | _ => (fraction? body).map fun x => x.map fun x => if negative then x.neg else x

/-- The value of a plain scalar. The signs of merging and of a default value stand for no value. -/
def plainValue (text : String) : Except Fault Scalar :=
  let chars := text.toList
  if trueWords.contains text then .ok (.bool true)
  else if falseWords.contains text then .ok (.bool false)
  else if nullWords.contains text then .ok .null
  else if text == "<<" || text == "=" then .error .malformedConfig
  else match float? chars, integer? chars, timestamp? chars with
    | some x, _, _ => x.map .float
    | none, some n, _ => n
    | none, none, some time => time
    | none, none, none => .ok (.text text)

end LinearProgram.Yaml
