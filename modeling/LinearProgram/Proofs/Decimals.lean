import LinearProgram.Proofs.NumberLine
import Mathlib.Tactic.FieldSimp

/-!
Decimals and the magnitudes that they read as. The interval of a rank ends where the interval of the next rank
begins, and the end that they share belongs to the even one, so decimals of one value read as one rank. The
shortest decimal of a rank reads as this rank.
-/

namespace LinearProgram

namespace Decimal

def value (d : Decimal) : ℚ := d.digits * 10 ^ d.exponent

theorem value_mul_power (n count : Nat) (exponent : ℤ) :
    value ⟨n * 10 ^ count, exponent⟩ = value ⟨n, count + exponent⟩ := by
  unfold value
  push_cast
  rw [zpow_add₀ (by norm_num), zpow_natCast, mul_assoc]

theorem powerDown_pos (exponent : ℤ) : (0 : ℚ) < powerDown exponent := by
  exact_mod_cast Nat.pow_pos (by decide : 0 < 10)

theorem powerUp_div_powerDown (exponent : ℤ) : (powerUp exponent : ℚ) / powerDown exponent = 10 ^ exponent := by
  have power (n : ℕ) : ((Nat.pow 10 n : ℕ) : ℚ) = 10 ^ n := by
    rw [Nat.pow_eq, Nat.cast_pow, Nat.cast_ofNat]
  rw [powerUp, powerDown, power, power]
  rcases Int.eq_nat_or_neg exponent with ⟨n, rfl | rfl⟩
  · simp
  · simp

theorem value_eq_div (d : Decimal) : d.value = d.digits * powerUp d.exponent / powerDown d.exponent := by
  rw [value, ← powerUp_div_powerDown, mul_div_assoc]

end Decimal

namespace Binary64

def halves (d : Decimal) : ℚ := d.value * (2 * quantaPerUnit)

theorem halves_eq_div (d : Decimal) : halves d =
    (d.digits * Decimal.powerUp d.exponent * (2 * quantaPerUnit) : ℕ) / Decimal.powerDown d.exponent := by
  rw [halves, d.value_eq_div, div_mul_eq_mul_div]
  push_cast
  rfl

/-- A decimal reads as a rank when it lies in the interval of the rank, with the ends if the rank is even. -/
theorem readsAs_iff (rank : Nat) (d : Decimal) : readsAs rank d = true ↔
    if rank % 2 = 0 then lowerEnd rank ≤ halves d ∧ halves d ≤ upperEnd rank
    else lowerEnd rank < halves d ∧ halves d < upperEnd rank := by
  have positive := Decimal.powerDown_pos d.exponent
  unfold readsAs
  split
  · rw [halves_eq_div, le_div_iff₀ positive, div_le_iff₀ positive, Bool.and_eq_true, decide_eq_true_iff,
      decide_eq_true_iff]
    exact_mod_cast Iff.rfl
  · rw [halves_eq_div, lt_div_iff₀ positive, div_lt_iff₀ positive, Bool.and_eq_true, decide_eq_true_iff,
      decide_eq_true_iff]
    exact_mod_cast Iff.rfl

theorem readsAs_between (rank : Nat) (d : Decimal) (reads : readsAs rank d = true) :
    lowerEnd rank ≤ halves d ∧ halves d ≤ upperEnd rank := by
  rw [readsAs_iff] at reads
  split at reads
  · exact reads
  · exact ⟨reads.1.le, reads.2.le⟩

/-- What reads as a greater rank is greater. -/
theorem value_lt_of_rank_lt (rank other : Nat) (d e : Decimal) (below : rank < other)
    (first : readsAs rank d = true) (second : readsAs other e = true) : d.value < e.value := by
  suffices less : halves d < halves e by
    exact lt_of_mul_lt_mul_right less (mul_pos two_pos quantaPerUnit_pos).le
  obtain ⟨-, atMost⟩ := readsAs_between rank d first
  obtain ⟨atLeast, -⟩ := readsAs_between other e second
  obtain ⟨gap, rfl⟩ := Nat.exists_eq_add_of_lt below
  rcases Nat.eq_zero_or_pos gap with rfl | farther
  · -- neighbours share an end, which one of them does not have
    have shared : lowerEnd (rank + 0 + 1) = upperEnd rank := rfl
    rw [shared] at atLeast
    rw [readsAs_iff] at first second
    rw [shared] at second
    rcases Nat.mod_two_eq_zero_or_one rank with even | odd
    · rw [if_neg (by omega)] at second
      exact atMost.trans_lt second.1
    · rw [if_neg (by omega)] at first
      exact first.2.trans_le atLeast
  · have apart : upperEnd rank < lowerEnd (rank + gap + 1) := by
      have last := quanta_strictMono (show rank < rank + gap by omega)
      have next := quanta_monotone (show rank + 1 ≤ rank + gap + 1 by omega)
      exact Nat.add_lt_add_of_lt_of_le last next
    calc halves d ≤ upperEnd rank := atMost
      _ < lowerEnd (rank + gap + 1) := by exact_mod_cast apart
      _ ≤ halves e := atLeast

/-- Decimals of one value do not read as two ranks. -/
theorem rank_of_value (rank other : Nat) (d e : Decimal) (first : readsAs rank d = true)
    (second : readsAs other e = true) (same : d.value = e.value) : rank = other := by
  rcases Nat.lt_trichotomy rank other with less | equal | greater
  · exact absurd same (value_lt_of_rank_lt rank other d e less first second).ne
  · exact equal
  · exact absurd same (value_lt_of_rank_lt other rank e d greater second first).ne'

theorem readsAs_onGrid? (rank : Nat) (exponent : ℤ) (d : Decimal) (found : onGrid? rank exponent = some d) :
    readsAs rank d = true := by
  unfold onGrid? at found
  dsimp only at found
  split at found
  next below above =>
    -- the nearest point of the grid is one of the two neighbours
    obtain rfl := Option.some.inj found
    rcases roundHalfEven_eq_or (quanta rank * Decimal.powerDown exponent)
      (quantaPerUnit * Decimal.powerUp exponent) with nearest | nearest
    · rw [Decimal.nearest, nearest]
      exact below
    · rw [Decimal.nearest, nearest]
      exact above
  next below _ =>
    obtain rfl := Option.some.inj found
    exact below
  next _ above =>
    obtain rfl := Option.some.inj found
    exact above
  next => cases found

-- A quantum has as many decimal places as the power of two that it is.
theorem quantum_places (n : ℕ) (q : ℚ) : q * 5 ^ n * 10 ^ (-(n : ℤ)) * (2 * 2 ^ n) = 2 * q := by
  rw [zpow_neg, zpow_natCast, show (10 : ℚ) = 5 * 2 by norm_num, mul_pow]
  field_simp

theorem halves_exactDecimal (rank : Nat) : halves (exactDecimal rank) = 2 * quanta rank := by
  obtain ⟨places, isPlaces⟩ : ∃ places : ℕ, 1074 = places := ⟨_, rfl⟩
  have units : quantaPerUnit = 2 ^ places := by rw [← isPlaces, quantaPerUnit_eq]
  have negative : (-1074 : ℤ) = -places := by omega
  rw [halves, Decimal.value, exactDecimal, units, isPlaces, negative, Nat.pow_eq]
  push_cast
  exact quantum_places places (quanta rank)

theorem readsAs_exactDecimal (rank : Nat) (positive : 0 < rank) : readsAs rank (exactDecimal rank) = true := by
  have lower : lowerEnd rank < 2 * quanta rank := by
    have less := quanta_strictMono (Nat.sub_lt positive Nat.one_pos)
    unfold lowerEnd
    omega
  have upper : 2 * quanta rank < upperEnd rank := by
    have more := quanta_strictMono (Nat.lt_add_one rank)
    unfold upperEnd
    omega
  have above : (lowerEnd rank : ℚ) < 2 * quanta rank := by exact_mod_cast lower
  have below : 2 * (quanta rank : ℚ) < upperEnd rank := by exact_mod_cast upper
  rw [readsAs_iff, halves_exactDecimal]
  split
  · exact ⟨above.le, below.le⟩
  · exact ⟨above, below⟩

/-- The shortest decimal reads back. -/
theorem readsAs_shortest (rank : Nat) (positive : 0 < rank) : readsAs rank (shortest rank) = true := by
  unfold shortest
  dsimp only
  generalize Decimal.leadingExponent (quanta rank) quantaPerUnit = leading
  cases found : (List.range 17).findSome? fun (width : Nat) => onGrid? rank (leading - width) with
  | none => exact readsAs_exactDecimal rank positive
  | some d =>
      obtain ⟨width, -, onGrid⟩ := List.exists_of_findSome?_eq_some found
      exact readsAs_onGrid? rank _ d onGrid

theorem digits_pos_of_readsAs (rank : Nat) (positive : 0 < rank) (d : Decimal) (reads : readsAs rank d = true) :
    0 < d.digits := by
  have lower : 0 < lowerEnd rank := by
    have less := quanta_strictMono (Nat.sub_lt positive Nat.one_pos)
    unfold lowerEnd
    omega
  have atLeast := (readsAs_between rank d reads).1
  rcases Nat.eq_zero_or_pos d.digits with zero | some
  · rw [halves, Decimal.value, zero, Nat.cast_zero, zero_mul, zero_mul] at atLeast
    exact absurd (by exact_mod_cast atLeast) lower.not_ge
  · exact some

end Binary64

end LinearProgram
