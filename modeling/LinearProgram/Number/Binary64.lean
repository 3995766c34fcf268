/-!
Binary64 numbers. The finite magnitudes in ascending order are numbered by ranks, zero first, and
infinity has the rank after the greatest of them; a number is a sign and a rank, or not a number.
Every finite magnitude is a whole multiple of the quantum 2⁻¹⁰⁷⁴, so arithmetic is carried out
exactly on whole numbers and rounded once, to the nearest number and to the even rank at a tie.
-/

namespace LinearProgram

def roundHalfEven (numerator denominator : Nat) : Nat :=
  let floor := numerator / denominator
  let rest := numerator % denominator
  if 2 * rest < denominator ∨ (2 * rest = denominator ∧ floor % 2 = 0) then floor else floor + 1

theorem roundHalfEven_of_dvd (numerator denominator : Nat) (positive : 0 < denominator)
    (exact : denominator ∣ numerator) :
    roundHalfEven numerator denominator = numerator / denominator := by
  have rest : numerator % denominator = 0 := Nat.mod_eq_zero_of_dvd exact
  simp [roundHalfEven, rest, positive]

theorem roundHalfEven_eq_or (numerator denominator : Nat) :
    roundHalfEven numerator denominator = numerator / denominator ∨
      roundHalfEven numerator denominator = numerator / denominator + 1 := by
  unfold roundHalfEven
  dsimp only
  split
  · exact Or.inl rfl
  · exact Or.inr rfl

def rankBlock : Nat := Nat.pow 2 52

def infiniteRank : Nat := 2047 * rankBlock

/-- A sign with the rank of a magnitude, or the one value that is not a number. -/
inductive Binary64 where
  | nan
  | signed (negative : Bool) (rank : Nat) (bounded : rank ≤ infiniteRank)
  deriving DecidableEq

namespace Binary64

def ofRank (negative : Bool) (rank : Nat) : Binary64 :=
  .signed negative (min rank infiniteRank) (Nat.min_le_right rank infiniteRank)

def zero : Binary64 := ofRank false 0

def infinity (negative : Bool) : Binary64 := ofRank negative infiniteRank

instance : Inhabited Binary64 := ⟨zero⟩

/-- The magnitude of a rank in quanta. In the first block the ranks are the quanta themselves; from
there on each block doubles the distance between neighbours. -/
def quanta (rank : Nat) : Nat :=
  if rank < rankBlock then rank
  else (rankBlock + rank % rankBlock) * Nat.pow 2 (rank / rankBlock - 1)

def quantaPerUnit : Nat := Nat.pow 2 1074

def quanta? : Binary64 → Option Int
  | nan => none
  | signed negative rank _ =>
      if rank = infiniteRank then none
      else some (if negative then -(quanta rank : Int) else quanta rank)

def isNaN : Binary64 → Bool
  | nan => true
  | signed .. => false

def isInfinite : Binary64 → Bool
  | nan => false
  | signed _ rank _ => rank == infiniteRank

def neg : Binary64 → Binary64
  | nan => nan
  | signed negative rank bounded => signed (!negative) rank bounded

def abs : Binary64 → Binary64
  | nan => nan
  | signed _ rank bounded => signed false rank bounded

/-- The number nearest to a quotient of natural numbers. The shift is the count of binary digits
that the whole quanta have beyond the fifty-three that a number holds. -/
def ofRatio (negative : Bool) (numerator denominator : Nat) : Binary64 :=
  let scaled := numerator * quantaPerUnit
  let shift := (scaled / denominator).log2 - 52
  ofRank negative (shift * rankBlock + roundHalfEven scaled (denominator * Nat.pow 2 shift))

def ofInt (n : Int) : Binary64 := ofRatio (n < 0) n.natAbs 1

def ofInt? (n : Int) : Option Binary64 :=
  if (ofInt n).isInfinite then none else some (ofInt n)

/-- The sum, rounded once. A sum of zero is negative only when both terms are. -/
def add : Binary64 → Binary64 → Binary64
  | nan, _ => nan
  | _, nan => nan
  | a@(signed negativeA _ _), b@(signed negativeB _ _) =>
      match a.quanta?, b.quanta? with
      | some m, some n =>
          let sum := m + n
          if sum = 0 then ofRank (negativeA && negativeB) 0
          else ofRatio (sum < 0) sum.natAbs quantaPerUnit
      | none, none => if negativeA = negativeB then a else nan
      | none, some _ => a
      | some _, none => b

def mul : Binary64 → Binary64 → Binary64
  | nan, _ => nan
  | _, nan => nan
  | a@(signed negativeA rankA _), b@(signed negativeB rankB _) =>
      let negative := negativeA != negativeB
      if a.isInfinite || b.isInfinite then
        if rankA = 0 ∨ rankB = 0 then nan else infinity negative
      else ofRatio negative (quanta rankA * quanta rankB) (quantaPerUnit * quantaPerUnit)

def isWhole (x : Binary64) : Bool :=
  match x.quanta? with
  | some n => n % (quantaPerUnit : Int) = 0
  | none => false

def truncate? (x : Binary64) : Option Int :=
  x.quanta?.map fun n => n.tdiv quantaPerUnit

end Binary64

end LinearProgram
