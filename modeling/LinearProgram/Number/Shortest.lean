import LinearProgram.Number.Binary64

/-!
Decimal forms of a binary64 magnitude. The reals that round to a magnitude form an interval around
it, whose ends belong to it iff its rank is even. The shortest decimal is the first grid
10ⁿ, from coarse to fine, that has a point in the interval; of two such points the nearer one is
taken. The exact decimal stands behind the seventeen grids, so the result always reads back.
-/

namespace LinearProgram

structure Decimal where
  digits : Nat
  exponent : Int
  deriving DecidableEq, Repr

namespace Decimal

def powerUp (exponent : Int) : Nat := Nat.pow 10 exponent.toNat

def powerDown (exponent : Int) : Nat := Nat.pow 10 (-exponent).toNat

def reaches (numerator denominator : Nat) (exponent : Int) : Bool :=
  denominator * powerUp exponent ≤ numerator * powerDown exponent

/-- The exponent of the leading digit of a positive quotient: estimated from the count of binary
digits, then corrected by comparison. -/
def leadingExponent (numerator denominator : Nat) : Int :=
  let estimate := ((numerator.log2 : Int) - denominator.log2) * 30103 / 100000
  if !reaches numerator denominator estimate then
    if reaches numerator denominator (estimate - 1) then estimate - 1 else estimate - 2
  else if !reaches numerator denominator (estimate + 1) then estimate
  else if !reaches numerator denominator (estimate + 2) then estimate + 1
  else estimate + 2

def nearest (numerator denominator : Nat) (exponent : Int) : Decimal :=
  ⟨roundHalfEven (numerator * powerDown exponent) (denominator * powerUp exponent), exponent⟩

end Decimal

namespace Binary64

/-- The ends of the interval of a positive rank, in half quanta. -/
def lowerEnd (rank : Nat) : Nat := quanta (rank - 1) + quanta rank

def upperEnd (rank : Nat) : Nat := quanta rank + quanta (rank + 1)

def readsAs (rank : Nat) (d : Decimal) : Bool :=
  let point := d.digits * Decimal.powerUp d.exponent * (2 * quantaPerUnit)
  let lower := lowerEnd rank * Decimal.powerDown d.exponent
  let upper := upperEnd rank * Decimal.powerDown d.exponent
  if rank % 2 = 0 then lower ≤ point && point ≤ upper else lower < point && point < upper

/-- A point of the grid `10 ^ exponent` that rounds to the magnitude, if there is one: the neighbour
below or the neighbour above, and of two the nearer. -/
def onGrid? (rank : Nat) (exponent : Int) : Option Decimal :=
  let below : Decimal :=
    ⟨quanta rank * Decimal.powerDown exponent / (quantaPerUnit * Decimal.powerUp exponent), exponent⟩
  let above : Decimal := ⟨below.digits + 1, exponent⟩
  match readsAs rank below, readsAs rank above with
  | true, true => some (Decimal.nearest (quanta rank) quantaPerUnit exponent)
  | true, false => some below
  | false, true => some above
  | false, false => none

/-- Every digit of the magnitude: a quantum is `5 ^ 1074 · 10 ^ -1074`. -/
def exactDecimal (rank : Nat) : Decimal := ⟨quanta rank * Nat.pow 5 1074, -1074⟩

def shortest (rank : Nat) : Decimal :=
  let leading := Decimal.leadingExponent (quanta rank) quantaPerUnit
  ((List.range 17).findSome? fun (width : Nat) => onGrid? rank (leading - width)).getD
    (exactDecimal rank)

end Binary64

end LinearProgram
