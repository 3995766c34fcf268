import LinearProgram.Proofs.Settings
import Mathlib.Algebra.Order.Monoid.Unbundled.WithTop
import Mathlib.Tactic.Ring

/-!
Numbers on the rational line with its two ends. Comparison of numbers is the order of the line, and what
is not a number has no place on it. A whole number is too large to convert from a threshold on, halfway
between the greatest finite number and the power of two after it.
-/

namespace LinearProgram

/-- The rational numbers between a least and a greatest point. -/
abbrev Line := WithBot (WithTop ℚ)

namespace Binary64

def ofQuanta (n : ℤ) : ℚ := n / quantaPerUnit

theorem ofQuanta_le_ofQuanta (m n : ℤ) : ofQuanta m ≤ ofQuanta n ↔ m ≤ n := by
  rw [ofQuanta, ofQuanta, div_le_div_iff_of_pos_right quantaPerUnit_pos, Int.cast_le]

theorem ofQuanta_int (n : ℤ) : ofQuanta (n * quantaPerUnit) = n := by
  rw [ofQuanta, Int.cast_mul, Int.cast_natCast, mul_div_assoc, div_self quantaPerUnit_pos.ne', mul_one]

def line? : Binary64 → Option Line
  | nan => none
  | x@(signed negative ..) =>
      match x.rational? with
      | some q => some (q : WithTop ℚ)
      | none => some (if negative then ⊥ else ⊤)

end Binary64

namespace Number

def line? : Number → Option Line
  | int n => some (((n : ℚ) : WithTop ℚ) : Line)
  | float x => x.line?

/-- The place in quanta and the point on the line say the same of a number. -/
theorem place?_and_line? (x : Number) :
    (x.place? = none ∧ x.line? = none) ∨
    (x.place? = some (-1, 0) ∧ x.line? = some ⊥) ∨
    (∃ n : ℤ, x.place? = some (0, n) ∧ x.line? = some ((Binary64.ofQuanta n : WithTop ℚ) : Line)) ∨
    (x.place? = some (1, 0) ∧ x.line? = some ⊤) := by
  cases x with
  | int n =>
      refine Or.inr (Or.inr (Or.inl ⟨n * Binary64.quantaPerUnit, rfl, ?_⟩))
      rw [Binary64.ofQuanta_int]
      rfl
  | float x =>
      cases x with
      | nan => exact Or.inl ⟨rfl, rfl⟩
      | signed negative rank bounded =>
          cases quanta : (Binary64.signed negative rank bounded).quanta? with
          | some n =>
              refine Or.inr (Or.inr (Or.inl ⟨n, place?_of_quanta? _ n quanta, ?_⟩))
              simp only [line?, Binary64.line?, Binary64.rational?, quanta, Option.map_some]
              rfl
          | none =>
              simp only [place?, line?, Binary64.line?, Binary64.rational?, quanta, Option.map_none]
              cases negative with
              | true => exact Or.inr (Or.inl ⟨rfl, rfl⟩)
              | false => exact Or.inr (Or.inr (Or.inr ⟨rfl, rfl⟩))

-- Places compare by their signs, then by their quanta.
theorem atMost_of_signs (x y : Number) (sign quanta other others : ℤ) (first : x.place? = some (sign, quanta))
    (second : y.place? = some (other, others)) :
    x.atMost y = true ↔ sign < other ∨ sign = other ∧ quanta ≤ others := by
  unfold atMost compare?
  rw [first, second]
  rcases lt_trichotomy sign other with less | rfl | greater
  · simp [compare_lt_iff_lt.mpr less, less]
  · simp [Int.compare_eq_lt, Int.le_iff_lt_or_eq]
  · simp [compare_gt_iff_gt.mpr greater, greater.not_gt, greater.ne']

/-- One number is at most another when both have points on the line, in this order. -/
theorem atMost_iff (x y : Number) :
    x.atMost y = true ↔ ∃ a b, x.line? = some a ∧ y.line? = some b ∧ a ≤ b := by
  rcases place?_and_line? x with ⟨first, point⟩ | ⟨first, point⟩ | ⟨m, first, point⟩ | ⟨first, point⟩
  · simp [atMost, compare?, first, point]
  all_goals
    rcases place?_and_line? y with
      ⟨second, other⟩ | ⟨second, other⟩ | ⟨n, second, other⟩ | ⟨second, other⟩
    · simp [atMost, compare?, first, second, other]
    all_goals
      rw [atMost_of_signs x y _ _ _ _ first second]
      simp [point, other, Binary64.ofQuanta_le_ofQuanta]

theorem less_of_signs (x y : Number) (sign quanta other others : ℤ) (first : x.place? = some (sign, quanta))
    (second : y.place? = some (other, others)) :
    x.less y = true ↔ sign < other ∨ sign = other ∧ quanta < others := by
  unfold less compare?
  rw [first, second]
  rcases lt_trichotomy sign other with less | rfl | greater
  · simp [compare_lt_iff_lt.mpr less, less]
  · simp [Int.compare_eq_lt]
  · simp [compare_gt_iff_gt.mpr greater, greater.not_gt, greater.ne']

/-- One number is less than another when both have points on the line, in this order and apart. -/
theorem less_iff (x y : Number) :
    x.less y = true ↔ ∃ a b, x.line? = some a ∧ y.line? = some b ∧ a < b := by
  have strictly : x.less y = true ↔ x.atMost y = true ∧ ¬ y.atMost x = true := by
    cases first : x.place? with
    | none => simp [less, atMost, compare?, first]
    | some place =>
        cases second : y.place? with
        | none => simp [less, atMost, compare?, first, second]
        | some other =>
            rw [less_of_signs x y _ _ _ _ first second, atMost_of_signs x y _ _ _ _ first second,
              atMost_of_signs y x _ _ _ _ second first]
            omega
  rw [strictly, atMost_iff, atMost_iff]
  constructor
  · rintro ⟨⟨a, b, point, other, -⟩, beyond⟩
    exact ⟨a, b, point, other, lt_of_not_ge fun atMost => beyond ⟨b, a, other, point, atMost⟩⟩
  · rintro ⟨a, b, point, other, less⟩
    refine ⟨⟨a, b, point, other, less.le⟩, ?_⟩
    rintro ⟨c, d, otherPoint, samePoint, atMost⟩
    cases other.symm.trans otherPoint
    cases point.symm.trans samePoint
    exact absurd less atMost.not_gt

end Number

section Quanta

/-- A greater rank has more quanta. -/
theorem quanta_strictMono : StrictMono Binary64.quanta := by
  refine strictMono_nat_of_lt_succ fun rank => ?_
  have positive : 0 < rankBlock := Nat.pow_pos (by decide)
  rcases Nat.lt_or_ge rank rankBlock with first | later
  · have here : Binary64.quanta rank = rank := by rw [Binary64.quanta, if_pos first]
    rw [here, Binary64.quanta]
    split
    · exact Nat.lt_succ_self rank
    · have some : 1 ≤ Nat.pow 2 ((rank + 1) / rankBlock - 1) := Nat.pow_pos (by decide)
      have more := Nat.le_mul_of_pos_right (rankBlock + (rank + 1) % rankBlock) some
      omega
  · obtain ⟨block, rest, small, rfl⟩ : ∃ block rest, rest < rankBlock ∧
        rank = (block + 1) * rankBlock + rest := by
      refine ⟨rank / rankBlock - 1, rank % rankBlock, Nat.mod_lt _ positive, ?_⟩
      have blocks := Nat.div_pos later positive
      rw [Nat.sub_add_cancel blocks, Nat.mul_comm]
      exact (Nat.div_add_mod rank rankBlock).symm
    rw [quanta_rank block rest small]
    rcases Nat.lt_or_ge (rest + 1) rankBlock with within | last
    · rw [Nat.add_assoc, quanta_rank block (rest + 1) within]
      exact Nat.mul_lt_mul_of_pos_right (by omega) (Nat.two_pow_pos block)
    · -- the first rank of the next block, where the distance between neighbours is twice as great
      have next : (block + 1) * rankBlock + rest + 1 = (block + 1 + 1) * rankBlock + 0 := by
        rw [Nat.succ_mul (block + 1)]
        omega
      rw [next, quanta_rank (block + 1) 0 positive, Nat.pow_succ, Nat.add_zero, Nat.mul_comm _ 2,
        ← Nat.mul_assoc]
      exact Nat.mul_lt_mul_of_pos_right (by omega) (Nat.two_pow_pos block)

theorem quanta_monotone : Monotone Binary64.quanta := quanta_strictMono.monotone

/-- The quanta of a number that has some: those of a whole number, or those of a rank with a sign. -/
theorem quanta_of_place? (x : Number) (n : ℤ) (place : x.place? = some (0, n)) :
    (∃ k : ℤ, n = k * Binary64.quantaPerUnit) ∨
      ∃ rank, n = Binary64.quanta rank ∨ n = -(Binary64.quanta rank : ℤ) := by
  cases x with
  | int k =>
      cases place
      exact Or.inl ⟨k, rfl⟩
  | float x =>
      cases x with
      | nan => cases place
      | signed negative rank bounded =>
          refine Or.inr ⟨rank, ?_⟩
          simp only [Number.place?, Binary64.quanta?] at place
          by_cases infinite : rank = infiniteRank
          · cases negative <;> simp [infinite] at place
          · cases negative <;> simp [infinite] at place
            · exact Or.inl place.symm
            · exact Or.inr place.symm

end Quanta

def Binary64.rank : Binary64 → Nat
  | .nan => 0
  | .signed _ rank _ => rank

namespace Settings

/-- The greatest signed word of 32 bits in milliseconds, as seconds. -/
def limitSeconds : ℚ := 2147483647 / 1000

-- The greatest time limit is less than one rank below what it stands for.
theorem greatestTimeLimit_rank : ∃ rank, greatestTimeLimit.quanta? = some (Binary64.quanta rank : ℤ) ∧
    2147483 * Binary64.quantaPerUnit ≤ Binary64.quanta rank ∧
    1000 * Binary64.quanta rank ≤ 2147483647 * Binary64.quantaPerUnit ∧
    2147483647 * Binary64.quantaPerUnit < 1000 * Binary64.quanta (rank + 1) :=
  ⟨greatestTimeLimit.rank, by decide +kernel⟩

/-- No number lies between the greatest time limit and what it stands for. -/
theorem atMost_greatestTimeLimit_iff (x : Number) : x.atMost (.float greatestTimeLimit) = true ↔
    ∃ a, x.line? = some a ∧ a ≤ ((limitSeconds : WithTop ℚ) : Line) := by
  obtain ⟨rank, quanta, whole, below, above⟩ := greatestTimeLimit_rank
  have greatest := place?_of_quanta? _ _ quanta
  rcases Number.place?_and_line? x with ⟨place, point⟩ | ⟨place, point⟩ | ⟨n, place, point⟩ | ⟨place, point⟩
  · simp [Number.atMost, Number.compare?, place, point]
  · rw [Number.atMost_of_signs x _ _ _ _ _ place greatest]
    simp [point]
  · rw [Number.atMost_of_signs x _ _ _ _ _ place greatest]
    have ordered : Binary64.ofQuanta n ≤ limitSeconds ↔
        1000 * n ≤ 2147483647 * (Binary64.quantaPerUnit : ℤ) := by
      rw [Binary64.ofQuanta, limitSeconds, div_le_div_iff₀ quantaPerUnit_pos (by norm_num), mul_comm]
      exact_mod_cast Iff.rfl
    simp only [point, Option.some.injEq, exists_eq_left', WithBot.coe_le_coe, WithTop.coe_le_coe, ordered,
      lt_irrefl, true_and, false_or]
    constructor
    · intro atMost
      omega
    · intro within
      rcases quanta_of_place? x n place with ⟨k, rfl⟩ | ⟨other, rfl | rfl⟩
      · have few : k ≤ 2147483 := by
          by_contra more
          have positive : (0 : ℤ) < Binary64.quantaPerUnit := by decide +kernel
          have many := Int.mul_le_mul_of_nonneg_right (show 2147484 ≤ k by omega) positive.le
          omega
        have units := Int.mul_le_mul_of_nonneg_right few (Int.natCast_nonneg Binary64.quantaPerUnit)
        omega
      · rcases Nat.lt_or_ge rank other with beyond | inside
        · have more := quanta_monotone (Nat.succ_le_of_lt beyond)
          dsimp only [Nat.succ_eq_add_one] at more
          omega
        · have less := quanta_monotone inside
          omega
      · omega
  · rw [Number.atMost_of_signs x _ _ _ _ _ place greatest]
    simp [point]

end Settings

namespace Value

def line? (value : Value) : Option Line := value.number?.bind Number.line?

def IsGap (value : Value) : Prop := ∃ a, value.line? = some a ∧ 0 ≤ a

def IsTimeLimit (value : Value) : Prop :=
  ∃ a, value.line? = some a ∧ 0 ≤ a ∧ a ≤ ((Settings.limitSeconds : WithTop ℚ) : Line)

end Value

namespace Settings

variable (value : Value)

theorem zero_atMost_iff (x : Number) :
    Number.atMost (.int 0) x = true ↔ ∃ a, x.line? = some a ∧ 0 ≤ a := by
  rw [Number.atMost_iff]
  constructor
  · rintro ⟨_, a, ⟨⟩, point, atLeast⟩
    exact ⟨a, point, by simpa using atLeast⟩
  · rintro ⟨a, point, atLeast⟩
    exact ⟨_, a, rfl, point, by simpa using atLeast⟩

theorem acceptsGap_iff : acceptsGap value = true ↔ value.IsGap := by
  unfold acceptsGap Value.IsGap Value.line?
  cases value.number? with
  | none => simp
  | some x => exact zero_atMost_iff x

theorem acceptsTimeLimit_iff : acceptsTimeLimit value = true ↔ value.IsTimeLimit := by
  unfold acceptsTimeLimit Value.IsTimeLimit Value.line?
  cases value.number? with
  | none => simp
  | some x =>
      dsimp only [Option.bind_some]
      rw [Bool.and_eq_true, zero_atMost_iff, atMost_greatestTimeLimit_iff]
      constructor
      · rintro ⟨⟨a, point, atLeast⟩, b, same, within⟩
        obtain rfl : a = b := Option.some.inj (point.symm.trans same)
        exact ⟨a, point, atLeast, within⟩
      · rintro ⟨a, point, atLeast, within⟩
        exact ⟨⟨a, point, atLeast⟩, a, point, within⟩

end Settings

instance (value : Value) : Decidable value.IsGap :=
  decidable_of_iff _ (Settings.acceptsGap_iff value)

instance (value : Value) : Decidable value.IsTimeLimit :=
  decidable_of_iff _ (Settings.acceptsTimeLimit_iff value)

section Overflow

/-- The least whole number that is nearer to infinity than to the greatest finite number. -/
@[irreducible]
def Binary64.overflow : Nat := 2 ^ 1024 - 2 ^ 970

theorem roundHalfEven_mul_right (n m k : Nat) (positive : 0 < k) :
    roundHalfEven (n * k) (m * k) = roundHalfEven n m := by
  unfold roundHalfEven
  simp only [Nat.mul_div_mul_right _ _ positive, Nat.mul_mod_mul_right, ← Nat.mul_assoc,
    Nat.mul_lt_mul_right positive, Nat.mul_left_inj positive.ne']

-- Rounding to a multiple of an even number gets to an odd count of halves and beyond from the half before it on.
theorem roundHalfEven_last (n half count : Nat) (below : n < 2 * (count + 1) * half) (odd : count % 2 = 1) :
    count + 1 ≤ roundHalfEven n (2 * half) ↔ (2 * count + 1) * half ≤ n := by
  have positive : 0 < half := by
    rcases Nat.eq_zero_or_pos half with rfl | positive
    · omega
    · exact positive
  have split := Nat.div_add_mod n (2 * half)
  have small := Nat.mod_lt n (show 0 < 2 * half by omega)
  have atMost : n / (2 * half) ≤ count := by
    refine Nat.lt_succ_iff.mp (Nat.div_lt_of_lt_mul ?_)
    rw [Nat.mul_right_comm]
    exact below
  unfold roundHalfEven
  dsimp only
  generalize n / (2 * half) = quotient at split atMost
  generalize n % (2 * half) = rest at split small
  rw [show (2 * count + 1) * half = 2 * half * count + half by ring]
  rcases Nat.lt_or_ge quotient count with less | last
  · have room := Nat.mul_le_mul_left (2 * half) (Nat.succ_le_of_lt less)
    rw [Nat.mul_succ] at room
    constructor
    · intro reached
      split at reached <;> omega
    · intro reached
      omega
  · obtain rfl : quotient = count := Nat.le_antisymm atMost last
    constructor
    · intro reached
      split at reached <;> omega
    · intro reached
      rw [if_neg (by omega)]

-- A number divided by its power of two is rounded to between one block and two.
theorem rounded_between (n d : Nat) (atLeast : 2 ^ d ≤ n) (below : n < 2 ^ (d + 1)) :
    rankBlock ≤ roundHalfEven (n * 2 ^ 1074) (2 ^ (d + 1022)) ∧
      roundHalfEven (n * 2 ^ 1074) (2 ^ (d + 1022)) ≤ 2 * rankBlock := by
  have positive := Nat.two_pow_pos (d + 1022)
  have low : rankBlock ≤ n * 2 ^ 1074 / 2 ^ (d + 1022) := by
    have scaled : rankBlock * 2 ^ (d + 1022) = 2 ^ d * 2 ^ 1074 := by
      rw [show rankBlock = 2 ^ 52 from rfl, ← Nat.pow_add, ← Nat.pow_add,
        show 52 + (d + 1022) = d + 1074 by omega]
    rw [Nat.le_div_iff_mul_le positive, scaled]
    exact Nat.mul_le_mul_right _ atLeast
  have high : n * 2 ^ 1074 / 2 ^ (d + 1022) < 2 * rankBlock := by
    have scaled : 2 * rankBlock * 2 ^ (d + 1022) = 2 ^ (d + 1) * 2 ^ 1074 := by
      rw [show 2 * rankBlock = 2 ^ 53 from rfl, ← Nat.pow_add, ← Nat.pow_add,
        show 53 + (d + 1022) = d + 1 + 1074 by omega]
    rw [Nat.div_lt_iff_lt_mul positive, scaled]
    exact Nat.mul_lt_mul_of_pos_right below (pow_pos two_pos _)
  rcases roundHalfEven_eq_or (n * 2 ^ 1074) (2 ^ (d + 1022)) with same | next <;> omega

/-- Whole numbers are too large to convert from the threshold on. -/
theorem isInfinite_ofInt_iff (n : Nat) :
    (Binary64.ofInt n).isInfinite = true ↔ Binary64.overflow ≤ n := by
  have infinite (rank : Nat) : (Binary64.ofRank false rank).isInfinite = true ↔ infiniteRank ≤ rank := by
    rw [Binary64.ofRank, Binary64.isInfinite, beq_iff_eq, min_eq_right_iff]
  have blocks : infiniteRank = 2047 * rankBlock := rfl
  -- half the distance of the greatest finite numbers, kept as a variable
  obtain ⟨half, isHalf⟩ : ∃ half, half = 2 ^ 970 := ⟨_, rfl⟩
  have positiveHalf : 0 < half := isHalf ▸ pow_pos two_pos _
  have threshold : Binary64.overflow = (2 * (2 ^ 53 - 1) + 1) * half := by
    rw [isHalf]
    decide +kernel
  have power (k : Nat) : 2 ^ (k + 970) = 2 ^ k * half := by rw [isHalf, pow_add]
  rcases Nat.eq_zero_or_pos n with rfl | positive
  · have finite : (Binary64.ofInt (0 : Nat)).isInfinite = false := by decide +kernel
    rw [finite, threshold]
    simp only [Bool.false_eq_true, false_iff]
    omega
  · obtain ⟨atLeast, below⟩ : 2 ^ n.log2 ≤ n ∧ n < 2 ^ (n.log2 + 1) :=
      (Nat.log2_eq_iff positive.ne').mp rfl
    rw [ofInt_eq_ofRank n positive, infinite, quantaPerUnit_eq]
    generalize n.log2 = d at atLeast below
    obtain ⟨low, high⟩ := rounded_between n d atLeast below
    rcases Nat.lt_trichotomy d 1023 with small | here | large
    · have ranks := Nat.mul_le_mul_right rankBlock (show d + 1022 ≤ 2044 by omega)
      have numbers := below.trans_le (pow_le_pow_right₀ one_le_two (show d + 1 ≤ 53 + 970 by omega))
      rw [power 53] at numbers
      have block : 0 < rankBlock := Nat.pow_pos (by decide)
      rw [threshold]
      omega
    · have scaled : 2 ^ (d + 1022) = 2 * half * 2 ^ 1074 := by
        rw [show d + 1022 = 970 + 1 + 1074 by omega, pow_add, pow_succ', isHalf]
      rw [show d + 1 = 54 + 970 by omega, power 54] at below
      have reached := roundHalfEven_last n half (2 ^ 53 - 1) below (by decide)
      rw [scaled, roundHalfEven_mul_right _ _ _ (pow_pos two_pos _), threshold, ← reached, here]
      have block : rankBlock = 2 ^ 52 := rfl
      omega
    · have ranks := Nat.mul_le_mul_right rankBlock (show 2046 ≤ d + 1022 by omega)
      have numbers := (pow_le_pow_right₀ one_le_two (show 54 + 970 ≤ d by omega)).trans atLeast
      rw [power 54] at numbers
      rw [threshold]
      omega

end Overflow

end LinearProgram
