import LinearProgram.Number.Layout
import LinearProgram.Number.Reader
import Mathlib.Algebra.Group.Nat.Defs
import Mathlib.Data.List.Basic

/-!
Decimal digits read back. Zeros in front of digits change nothing, zeros behind them multiply by powers of ten,
and the digits of a number have no zeros but those that end it.
-/

namespace LinearProgram

def AllDigits (chars : List Char) : Prop := ∀ c ∈ chars, c.isDigit = true

theorem allDigits_append (first second : List Char) :
    AllDigits (first ++ second) ↔ AllDigits first ∧ AllDigits second := List.forall_mem_append

theorem allDigits_replicate (count : Nat) : AllDigits (List.replicate count '0') := by
  intro c inside
  rw [List.eq_of_mem_replicate inside]
  rfl

theorem allDigits_decimalDigits (n : Nat) : AllDigits (decimalDigits n) :=
  fun _ inside => Nat.isDigit_of_mem_toDigits (by decide) (by decide) inside

theorem notMem_of_allDigits {chars : List Char} (digits : AllDigits chars) (mark : Char)
    (other : mark.isDigit = false) : mark ∉ chars := by
  intro inside
  rw [digits mark inside] at other
  cases other

namespace NumberText

theorem digitsValue_eq_ofDigitChars (chars : List Char) (digits : AllDigits chars) :
    digitsValue 10 chars = Nat.ofDigitChars 10 chars 0 := by
  refine List.foldl_ext _ _ 0 fun value c inside => ?_
  rw [if_pos (digits c inside), Nat.mul_comm]
  rfl

@[simp] theorem digitsValue_decimalDigits (n : Nat) : digitsValue 10 (decimalDigits n) = n := by
  rw [digitsValue_eq_ofDigitChars _ (allDigits_decimalDigits n), decimalDigits, Nat.ofDigitChars_ten_toDigits]

theorem digitsValue_zeros_append (count : Nat) (chars : List Char) (digits : AllDigits chars) :
    digitsValue 10 (List.replicate count '0' ++ chars) = digitsValue 10 chars := by
  rw [digitsValue_eq_ofDigitChars _ ((allDigits_append _ _).mpr ⟨allDigits_replicate count, digits⟩),
    digitsValue_eq_ofDigitChars _ digits, Nat.ofDigitChars_append, Nat.ofDigitChars_replicate_zero,
    Nat.mul_zero]

theorem digitsValue_append_zeros (count : Nat) (chars : List Char) (digits : AllDigits chars) :
    digitsValue 10 (chars ++ List.replicate count '0') = digitsValue 10 chars * 10 ^ count := by
  rw [digitsValue_eq_ofDigitChars _ ((allDigits_append _ _).mpr ⟨digits, allDigits_replicate count⟩),
    digitsValue_eq_ofDigitChars _ digits, Nat.ofDigitChars_append, Nat.ofDigitChars_replicate_zero,
    Nat.mul_comm]

/-- Digits that are padded read as the same number. -/
theorem natural?_padZeros (width n : Nat) : natural? (padZeros width (decimalDigits n)) = some n := by
  have digits : AllDigits (padZeros width (decimalDigits n)) :=
    (allDigits_append _ _).mpr ⟨allDigits_replicate _, allDigits_decimalDigits n⟩
  have some : padZeros width (decimalDigits n) ≠ [] := fun empty =>
    Nat.toDigits_ne_nil (List.append_eq_nil_iff.mp empty).2
  rw [natural?, List.isEmpty_eq_false_iff.mpr some, List.all_eq_true.mpr digits, padZeros,
    digitsValue_zeros_append _ _ (allDigits_decimalDigits n), digitsValue_decimalDigits]
  rfl

end NumberText

theorem decimalDigits_injective : Function.Injective decimalDigits :=
  Function.LeftInverse.injective NumberText.digitsValue_decimalDigits

theorem toString_eq_ofList (n : Nat) : toString n = String.ofList (decimalDigits n) :=
  Nat.toString_eq_ofList_toDigits

theorem toString_injective : Function.Injective (toString : Nat → String) := by
  intro n m same
  rw [toString_eq_ofList, toString_eq_ofList] at same
  exact decimalDigits_injective (String.ofList_injective same)

theorem notMem_toString (n : Nat) (mark : Char) (other : mark.isDigit = false) : mark ∉ (toString n).toList := by
  rw [toString_eq_ofList, String.toList_ofList]
  exact notMem_of_allDigits (allDigits_decimalDigits n) mark other

def significantDigits (n : Nat) : List Char := ((decimalDigits n).reverse.dropWhile (· == '0')).reverse

theorem decimalDigits_eq_append (n : Nat) :
    ∃ count, decimalDigits n = significantDigits n ++ List.replicate count '0' := by
  let ending := (decimalDigits n).reverse.takeWhile (· == '0')
  have zeros : ending = List.replicate ending.length '0' := by
    refine List.eq_replicate_of_mem fun c inside => ?_
    exact eq_of_beq (List.all_eq_true.mp List.all_takeWhile c inside)
  refine ⟨ending.length, ?_⟩
  rw [← List.reverse_inj, significantDigits, List.reverse_append, List.reverse_reverse, List.reverse_replicate,
    ← zeros, List.takeWhile_append_dropWhile]

theorem allDigits_significantDigits (n : Nat) : AllDigits (significantDigits n) := by
  obtain ⟨count, digits⟩ := decimalDigits_eq_append n
  exact ((allDigits_append _ _).mp (digits ▸ allDigits_decimalDigits n)).1

theorem significantDigits_ne_nil (n : Nat) (positive : 0 < n) : significantDigits n ≠ [] := by
  intro empty
  obtain ⟨count, digits⟩ := decimalDigits_eq_append n
  have zero := NumberText.digitsValue_zeros_append count [] (by simp [AllDigits])
  rw [List.append_nil] at zero
  rw [empty, List.nil_append] at digits
  rw [← NumberText.digitsValue_decimalDigits n, digits, zero] at positive
  exact Nat.lt_irrefl 0 positive

end LinearProgram
