import LinearProgram.Number.Shortest

/-!
The written form of a binary64 number. A layout says which exponents are written positionally and
whether a whole number keeps `.0`; the digits come from the shortest decimal, from six significant
digits, or from three places after the point.
-/

namespace LinearProgram

def decimalDigits (n : Nat) : List Char := Nat.toDigits 10 n

def padZeros (width : Nat) (digits : List Char) : List Char :=
  List.replicate (width - digits.length) '0' ++ digits

structure Layout where
  /-- Leading exponents from -4 up to here, exclusive, are written without an exponent. -/
  positionalBelow : Int
  /-- Whether a whole number without an exponent ends in `.0`. -/
  keepsFraction : Bool

namespace Layout

/-- Positional from 10⁻⁴ to below 10¹⁶, with `.0` on whole numbers. -/
def plain : Layout := ⟨16, true⟩

/-- Positional from 10⁻⁴ to below 10⁶, and no zeros after the last digit. -/
def general : Layout := ⟨6, false⟩

def exponentText (exponent : Int) : List Char :=
  'e' :: (if exponent < 0 then '-' else '+') :: padZeros 2 (decimalDigits exponent.natAbs)

def write (layout : Layout) (d : Decimal) : List Char :=
  let all := decimalDigits d.digits
  let digits := (all.reverse.dropWhile (· == '0')).reverse
  let point := all.length + d.exponent
  let leading := point - 1
  if -4 ≤ leading ∧ leading < layout.positionalBelow then
    if point ≤ 0 then '0' :: '.' :: (List.replicate (-point).toNat '0' ++ digits)
    else if digits.length ≤ point.toNat then
      digits ++ List.replicate (point.toNat - digits.length) '0' ++
        (if layout.keepsFraction then ['.', '0'] else [])
    else digits.take point.toNat ++ '.' :: digits.drop point.toNat
  else
    digits.take 1 ++ (if digits.length ≤ 1 then [] else '.' :: digits.drop 1) ++
      exponentText leading

def signedText (negative : Bool) (magnitude : List Char) : String :=
  String.ofList (if negative then '-' :: magnitude else magnitude)

end Layout

namespace Binary64

def text : Binary64 → String
  | nan => "nan"
  | signed negative rank _ =>
      Layout.signedText negative <|
        if rank = 0 then ['0', '.', '0']
        else if rank = infiniteRank then ['i', 'n', 'f']
        else Layout.plain.write (shortest rank)

def generalText : Binary64 → String
  | nan => "nan"
  | signed negative rank _ =>
      Layout.signedText negative <|
        if rank = 0 then ['0']
        else if rank = infiniteRank then ['i', 'n', 'f']
        else
          let leading := Decimal.leadingExponent (quanta rank) quantaPerUnit
          Layout.general.write (Decimal.nearest (quanta rank) quantaPerUnit (leading - 5))

def fixedText : Binary64 → String
  | nan => "nan"
  | signed negative rank _ =>
      Layout.signedText negative <|
        if rank = infiniteRank then ['i', 'n', 'f']
        else
          let thousandths := roundHalfEven (quanta rank * 1000) quantaPerUnit
          decimalDigits (thousandths / 1000) ++ '.' :: padZeros 3 (decimalDigits (thousandths % 1000))

end Binary64

end LinearProgram
