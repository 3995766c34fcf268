import LinearProgram.Number.Binary64
import LinearProgram.Text.Characters

/-!
Reading numbers from text. Digits of all scripts count, a single underscore may stand between two
digits, and blanks around the number are dropped. A decimal fraction may have an exponent; infinity
and not-a-number have names, in any case of letters.
-/

namespace LinearProgram.NumberText

/-- A character beyond ASCII as the reader takes it: a space, an ASCII digit, or a character that
no number has. -/
def plainChar (c : Char) : Char :=
  if c.toNat < 127 then c
  else if Text.isBlank c then ' '
  else match Text.digitValue? c with
    | some value => Char.ofNat (0x30 + value)
    | none => '?'

def body (text : String) : List Char :=
  Text.trim Text.isPlainBlank (text.toList.map plainChar)

/-- The characters without underscores, if each underscore stands between two digits. -/
def joinDigits (afterDigit : Bool) : List Char → Option (List Char)
  | [] => some []
  | '_' :: rest =>
      match rest with
      | next :: _ => if afterDigit && next.isDigit then joinDigits false rest else none
      | [] => none
  | c :: rest => (joinDigits c.isDigit rest).map (c :: ·)

def takeSign : List Char → Bool × List Char
  | '-' :: rest => (true, rest)
  | '+' :: rest => (false, rest)
  | chars => (false, chars)

def digitsValue (base : Nat) (digits : List Char) : Nat :=
  digits.foldl (fun value c =>
    value * base + (if c.isDigit then c.toNat - 0x30 else c.toLower.toNat - 0x57)) 0

def natural? (chars : List Char) : Option Nat :=
  if !chars.isEmpty && chars.all Char.isDigit then some (digitsValue 10 chars) else none

def exponent? : List Char → Option Int
  | [] => some 0
  | mark :: rest =>
      if mark = 'e' ∨ mark = 'E' then
        let (negative, digits) := takeSign rest
        (natural? digits).map fun n => if negative then -(n : Int) else n
      else none

def decimal? (chars : List Char) : Option (Nat × Int) :=
  let whole := chars.takeWhile Char.isDigit
  let afterWhole := chars.dropWhile Char.isDigit
  let (fraction, rest) := match afterWhole with
    | '.' :: tail => (tail.takeWhile Char.isDigit, tail.dropWhile Char.isDigit)
    | _ => ([], afterWhole)
  if whole.isEmpty && fraction.isEmpty then none
  else (exponent? rest).map fun exponent =>
    (digitsValue 10 (whole ++ fraction), exponent - fraction.length)

/-- The number nearest to a decimal. Decimals of more than four hundred places before or after the
point are infinite or zero, so no power of ten grows beyond that. -/
def ofDecimal (negative : Bool) (digits : Nat) (exponent : Int) : Binary64 :=
  let leading := exponent + (Nat.toDigits 10 digits).length
  if digits = 0 ∨ leading < -400 then .ofRank negative 0
  else if 400 < leading then .infinity negative
  else .ofRatio negative (digits * Nat.pow 10 exponent.toNat) (Nat.pow 10 (-exponent).toNat)

def named? (negative : Bool) (chars : List Char) : Option Binary64 :=
  match String.ofList (chars.map Char.toLower) with
  | "inf" | "infinity" => some (.infinity negative)
  | "nan" => some .nan
  | _ => none

def binary64? (text : String) : Option Binary64 := do
  let (negative, chars) := takeSign (← joinDigits false (body text))
  match named? negative chars with
  | some x => some x
  | none => (decimal? chars).map fun (digits, exponent) => ofDecimal negative digits exponent

/-- The most decimal digits that a whole number may be read from or written with. -/
def digitLimit : Nat := 4300

/-- The count of digits at the start of a number, up to what is neither a digit nor an underscore.
Misplaced underscores make it no number, so nothing is counted. -/
def leadingDigits (text : String) : Nat :=
  let run := (takeSign (body text)).2.takeWhile fun c => c.isDigit || c == '_'
  ((joinDigits false run).map List.length).getD 0

def integer? (text : String) : Option Int := do
  let (negative, chars) := takeSign (← joinDigits false (body text))
  (natural? chars).map fun n => if negative then -(n : Int) else n

end LinearProgram.NumberText
