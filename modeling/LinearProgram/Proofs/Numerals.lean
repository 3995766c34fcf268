import LinearProgram.Proofs.Decimals
import LinearProgram.Proofs.Digits

/-!
Unsigned numbers as they are written. A numeral has digits, and it may have digits after a point and an exponent. A
decimal is written as a numeral of the same value, which is what is read from it.
-/

namespace LinearProgram

/-- The parts of an unsigned number as it is written: digits, digits after a point and an exponent. -/
structure Numeral where
  whole : List Char
  fraction : List Char
  exponent : Option ℤ
  wholeDigits : AllDigits whole
  fractionDigits : AllDigits fraction
  starts : whole ≠ []

namespace Numeral

variable (numeral : Numeral)

def fractionText : List Char := if numeral.fraction = [] then [] else '.' :: numeral.fraction

def exponentText : List Char := (numeral.exponent.map Layout.exponentText).getD []

def chars : List Char := numeral.whole ++ (numeral.fractionText ++ numeral.exponentText)

def decimal : Decimal :=
  ⟨NumberText.digitsValue 10 (numeral.whole ++ numeral.fraction),
    numeral.exponent.getD 0 - numeral.fraction.length⟩

def IsWhole : Prop := numeral.fraction = [] ∧ numeral.exponent = none

end Numeral

section Reading

theorem span_digits (digits rest : List Char) (allDigits : AllDigits digits)
    (boundary : ∀ c ∈ rest.head?, c.isDigit = false) :
    (digits ++ rest).takeWhile Char.isDigit = digits ∧ (digits ++ rest).dropWhile Char.isDigit = rest := by
  rw [List.takeWhile_append_of_pos allDigits, List.dropWhile_append_of_pos allDigits]
  cases rest with
  | nil => simp
  | cons c rest => simp [boundary c rfl]

theorem exponent?_exponentText (exponent : ℤ) :
    NumberText.exponent? (Layout.exponentText exponent) = some exponent := by
  unfold Layout.exponentText NumberText.exponent?
  rcases Int.lt_or_le exponent 0 with below | atLeast
  · simp [NumberText.takeSign, below, NumberText.natural?_padZeros, abs_of_neg below]
  · simp [NumberText.takeSign, atLeast.not_gt, NumberText.natural?_padZeros, abs_of_nonneg atLeast]

theorem Numeral.exponent?_exponentText (numeral : Numeral) :
    NumberText.exponent? numeral.exponentText = some (numeral.exponent.getD 0) := by
  unfold Numeral.exponentText
  cases numeral.exponent with
  | none => rfl
  | some exponent => exact LinearProgram.exponent?_exponentText exponent

theorem Numeral.head_exponentText (numeral : Numeral) :
    ∀ c ∈ numeral.exponentText.head?, c = 'e' := by
  unfold Numeral.exponentText
  cases numeral.exponent <;> simp [Layout.exponentText]

def afterPoint (chars : List Char) : List Char × List Char :=
  match chars with
  | '.' :: tail => (tail.takeWhile Char.isDigit, tail.dropWhile Char.isDigit)
  | _ => ([], chars)

theorem decimal?_eq (chars : List Char) : NumberText.decimal? chars =
    if (chars.takeWhile Char.isDigit).isEmpty && (afterPoint (chars.dropWhile Char.isDigit)).1.isEmpty then none
    else (NumberText.exponent? (afterPoint (chars.dropWhile Char.isDigit)).2).map fun (exponent : ℤ) =>
      (NumberText.digitsValue 10
        (chars.takeWhile Char.isDigit ++ (afterPoint (chars.dropWhile Char.isDigit)).1),
        exponent - ((afterPoint (chars.dropWhile Char.isDigit)).1.length : ℤ)) := rfl

theorem Numeral.afterPoint_tail (numeral : Numeral) :
    afterPoint (numeral.fractionText ++ numeral.exponentText) = (numeral.fraction, numeral.exponentText) := by
  have mark := numeral.head_exponentText
  unfold Numeral.fractionText
  split
  next plain =>
    rw [plain, List.nil_append]
    cases text : numeral.exponentText with
    | nil => rfl
    | cons c rest =>
        rw [text] at mark
        obtain rfl := mark c rfl
        rfl
  next =>
    obtain ⟨taken, left⟩ := span_digits numeral.fraction numeral.exponentText numeral.fractionDigits
      (fun c first => by rw [mark c first]; rfl)
    rw [List.cons_append, afterPoint, taken, left]

/-- A numeral reads as the decimal of its digits. -/
theorem Numeral.decimal?_chars (numeral : Numeral) :
    NumberText.decimal? numeral.chars = some (numeral.decimal.digits, numeral.decimal.exponent) := by
  have starts : numeral.whole.isEmpty = false := List.isEmpty_eq_false_iff.mpr numeral.starts
  have boundary : ∀ c ∈ (numeral.fractionText ++ numeral.exponentText).head?, c.isDigit = false := by
    intro c first
    unfold Numeral.fractionText at first
    split at first
    · rw [List.nil_append] at first
      rw [numeral.head_exponentText c first]
      rfl
    · cases first
      rfl
  obtain ⟨taken, left⟩ := span_digits numeral.whole _ numeral.wholeDigits boundary
  rw [decimal?_eq, Numeral.chars, taken, left, numeral.afterPoint_tail, starts, Bool.false_and,
    if_neg Bool.false_ne_true, numeral.exponent?_exponentText]
  rfl

end Reading

section Writing

variable (layout : Layout) (digits : List Char) (allDigits : AllDigits digits) (starts : digits ≠ [])

def Layout.place (point : ℤ) : List Char :=
  let leading := point - 1
  if -4 ≤ leading ∧ leading < layout.positionalBelow then
    if point ≤ 0 then '0' :: '.' :: (List.replicate (-point).toNat '0' ++ digits)
    else if digits.length ≤ point.toNat then
      digits ++ List.replicate (point.toNat - digits.length) '0' ++
        (if layout.keepsFraction then ['.', '0'] else [])
    else digits.take point.toNat ++ '.' :: digits.drop point.toNat
  else
    digits.take 1 ++ (if digits.length ≤ 1 then [] else '.' :: digits.drop 1) ++
      Layout.exponentText leading

theorem write_eq_place (d : Decimal) : layout.write d =
    layout.place (significantDigits d.digits) ((decimalDigits d.digits).length + d.exponent) := rfl

include allDigits

/-- A numeral whose digits are those given, between zeros. -/
theorem numeral_of_spelled (whole fraction : List Char) (exponent : Option ℤ) (point : ℤ) (front back : Nat)
    (starts : whole ≠ [])
    (spelled : whole ++ fraction = List.replicate front '0' ++ (digits ++ List.replicate back '0'))
    (placed : exponent.getD 0 - fraction.length + back = point - digits.length) :
    ∃ numeral : Numeral,
      whole ++ ((if fraction = [] then [] else '.' :: fraction) ++ (exponent.map Layout.exponentText).getD []) =
        numeral.chars ∧
      numeral.decimal.value = Decimal.value ⟨NumberText.digitsValue 10 digits, point - digits.length⟩ ∧
      (numeral.IsWhole ↔ fraction = [] ∧ exponent = none) := by
  have padded := (allDigits_append digits _).mpr ⟨allDigits, allDigits_replicate back⟩
  obtain ⟨wholeDigits, fractionDigits⟩ := (allDigits_append whole fraction).mp
    (spelled ▸ (allDigits_append _ _).mpr ⟨allDigits_replicate front, padded⟩)
  refine ⟨⟨whole, fraction, exponent, wholeDigits, fractionDigits, starts⟩, rfl, ?_, Iff.rfl⟩
  rw [Numeral.decimal, spelled, NumberText.digitsValue_zeros_append _ _ padded,
    NumberText.digitsValue_append_zeros _ _ allDigits, Decimal.value_mul_power, add_comm, placed]

include starts

/-- Digits with a point among them are a numeral, which is not whole where whole numbers keep a fraction. -/
theorem place_is_numeral (point : ℤ) : ∃ numeral : Numeral, layout.place digits point = numeral.chars ∧
    numeral.decimal.value = Decimal.value ⟨NumberText.digitsValue 10 digits, point - digits.length⟩ ∧
    (layout.keepsFraction = true → ¬ numeral.IsWhole) := by
  have length := List.length_pos_iff.mpr starts
  unfold Layout.place
  dsimp only
  split_ifs with positional before reaches keeps single
  · -- zeros between the point and the digits
    obtain ⟨numeral, chars, value, whole⟩ := numeral_of_spelled digits allDigits ['0']
      (List.replicate (-point).toNat '0' ++ digits) none point ((-point).toNat + 1) 0 (by simp)
      (by simp [List.replicate_succ]) (by simp; omega)
    exact ⟨numeral, by simp [← chars, starts], value, by simp [whole, starts]⟩
  · -- zeros between the digits and the point
    obtain ⟨numeral, chars, value, whole⟩ := numeral_of_spelled digits allDigits
      (digits ++ List.replicate (point.toNat - digits.length) '0') ['0'] none point 0
      (point.toNat - digits.length + 1) (by simp [starts]) (by simp [List.replicate_succ']) (by simp; omega)
    exact ⟨numeral, by simp [← chars], value, by simp [whole]⟩
  · obtain ⟨numeral, chars, value, whole⟩ := numeral_of_spelled digits allDigits
      (digits ++ List.replicate (point.toNat - digits.length) '0') [] none point 0
      (point.toNat - digits.length) (by simp [starts]) (by simp) (by simp; omega)
    exact ⟨numeral, by simp [← chars], value, fun keeping => absurd keeping keeps⟩
  · -- the point between two digits
    have more : digits.drop point.toNat ≠ [] := fun none => reaches (List.drop_eq_nil_iff.mp none)
    obtain ⟨numeral, chars, value, whole⟩ := numeral_of_spelled digits allDigits (digits.take point.toNat)
      (digits.drop point.toNat) none point 0 0 (by simp [starts]; omega) (by simp) (by simp; omega)
    exact ⟨numeral, by rw [← chars, if_neg more]; simp, value, fun _ => by simp [whole, more]⟩
  · -- one digit with an exponent
    obtain ⟨numeral, chars, value, whole⟩ := numeral_of_spelled digits allDigits (digits.take 1) []
      (some (point - 1)) point 0 0 (by simp [starts]) (by simp [single]) (by simp; omega)
    exact ⟨numeral, by simp [← chars], value, by simp [whole]⟩
  · have more : digits.drop 1 ≠ [] := fun none => single (List.drop_eq_nil_iff.mp none)
    obtain ⟨numeral, chars, value, whole⟩ := numeral_of_spelled digits allDigits (digits.take 1) (digits.drop 1)
      (some (point - 1)) point 0 0 (by simp [starts]) (by rw [List.take_append_drop]; simp) (by simp; omega)
    refine ⟨numeral, ?_, value, by simp [whole]⟩
    rw [← chars, if_neg more, List.append_assoc]
    rfl

omit allDigits starts

/-- A decimal is written as a numeral of the same value. -/
theorem write_is_numeral (d : Decimal) (positive : 0 < d.digits) :
    ∃ numeral : Numeral, layout.write d = numeral.chars ∧ numeral.decimal.value = d.value ∧
      (layout.keepsFraction = true → ¬ numeral.IsWhole) := by
  obtain ⟨numeral, written, value, parted⟩ := place_is_numeral layout (significantDigits d.digits)
    (allDigits_significantDigits _) (significantDigits_ne_nil _ positive)
    ((decimalDigits d.digits).length + d.exponent)
  refine ⟨numeral, (write_eq_place layout d).trans written, value.trans ?_, parted⟩
  obtain ⟨count, digits⟩ := decimalDigits_eq_append d.digits
  have counted : ((decimalDigits d.digits).length : ℤ) + d.exponent - (significantDigits d.digits).length =
      count + d.exponent := by
    rw [digits, List.length_append, List.length_replicate]
    omega
  rw [counted, ← Decimal.value_mul_power,
    ← NumberText.digitsValue_append_zeros count _ (allDigits_significantDigits _), ← digits,
    NumberText.digitsValue_decimalDigits]

end Writing

section Letters

theorem notMem_exponentText (exponent : ℤ) (mark : Char) (other : mark.isDigit = false)
    (plain : mark ∉ ['.', 'e', '+', '-']) : mark ∉ Layout.exponentText exponent := by
  have digits := notMem_of_allDigits
    ((allDigits_append _ _).mpr ⟨allDigits_replicate (2 - (decimalDigits exponent.natAbs).length),
      allDigits_decimalDigits exponent.natAbs⟩) mark other
  simp only [List.mem_cons, List.not_mem_nil, or_false, not_or] at plain
  unfold Layout.exponentText padZeros
  split <;> simp only [List.mem_cons, not_or] <;> exact ⟨plain.2.1, by simp [plain], digits⟩

namespace Numeral

variable (numeral : Numeral)

theorem notMem_chars (mark : Char) (other : mark.isDigit = false) (plain : mark ∉ ['.', 'e', '+', '-']) :
    mark ∉ numeral.chars := by
  have point : mark ≠ '.' := fun same => plain (same ▸ List.mem_cons_self)
  simp only [chars, List.mem_append, not_or]
  refine ⟨notMem_of_allDigits numeral.wholeDigits mark other, ?_, ?_⟩
  · unfold fractionText
    split
    · simp
    · simp [point, notMem_of_allDigits numeral.fractionDigits mark other]
  · unfold exponentText
    cases numeral.exponent with
    | none => simp
    | some exponent => exact notMem_exponentText exponent mark other plain

theorem not_allDigits (parted : ¬ numeral.IsWhole) : ¬ AllDigits numeral.chars := by
  intro digits
  refine parted ⟨?_, ?_⟩
  · by_contra fraction
    have point : '.' ∈ numeral.chars := by simp [chars, fractionText, fraction]
    cases digits '.' point
  · by_contra exponent
    obtain ⟨shift, isShift⟩ := Option.ne_none_iff_exists'.mp exponent
    have mark : 'e' ∈ numeral.chars := by simp [chars, exponentText, isShift, Layout.exponentText]
    cases digits 'e' mark

theorem decimal_of_chars (other : Numeral) (same : numeral.chars = other.chars) :
    numeral.decimal = other.decimal := by
  have reads := numeral.decimal?_chars
  rw [same, other.decimal?_chars] at reads
  obtain ⟨digits, exponent⟩ := Prod.mk.inj (Option.some.inj reads)
  exact (Decimal.mk.injEq _ _ _ _).mpr ⟨digits.symm, exponent.symm⟩

end Numeral

end Letters

end LinearProgram
