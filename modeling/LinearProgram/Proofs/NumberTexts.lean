import LinearProgram.Proofs.Numerals
import LinearProgram.Problem.Listing

/-!
Written numbers. An amount is a sign and a magnitude, which is a natural number, a numeral with a point or an
exponent, or the name of infinity. It is written for numbers of one place only, and has no blank in it.
-/

namespace LinearProgram

section Magnitudes

inductive Magnitude : List Char → ℤ × ℤ → Prop
  | whole (n : Nat) : Magnitude (decimalDigits n) (0, n * Binary64.quantaPerUnit)
  | parted (numeral : Numeral) (rank : Nat) (d : Decimal) (parted : ¬ numeral.IsWhole)
      (reads : Binary64.readsAs rank d = true) (value : numeral.decimal.value = d.value) :
      Magnitude numeral.chars (0, Binary64.quanta rank)
  | infinite : Magnitude ['i', 'n', 'f'] (1, 0)

namespace Magnitude

variable {chars : List Char} {place other : ℤ × ℤ}

theorem starts (magnitude : Magnitude chars place) : ∃ c ∈ chars.head?, c.isDigit = true ∨ c = 'i' := by
  cases magnitude with
  | whole n =>
      obtain ⟨c, rest, digits⟩ := List.exists_cons_of_ne_nil (Nat.toDigits_ne_nil (n := n) (b := 10))
      have first : c ∈ decimalDigits n := by
        rw [decimalDigits, digits]
        exact List.mem_cons_self
      refine ⟨c, ?_, Or.inl (allDigits_decimalDigits n c first)⟩
      rw [decimalDigits, digits]
      rfl
  | parted numeral =>
      obtain ⟨c, rest, digits⟩ := List.exists_cons_of_ne_nil numeral.starts
      refine ⟨c, ?_, Or.inl (numeral.wholeDigits c (digits ▸ List.mem_cons_self))⟩
      rw [Numeral.chars, digits]
      rfl
  | infinite => exact ⟨'i', rfl, Or.inr rfl⟩

theorem blank (magnitude : Magnitude chars place) : ' ' ∉ chars := by
  cases magnitude with
  | whole n => exact notMem_of_allDigits (allDigits_decimalDigits n) ' ' rfl
  | parted numeral => exact numeral.notMem_chars ' ' rfl (by decide)
  | infinite => decide

/-- A magnitude is written for one place. -/
theorem place_unique (first : Magnitude chars place) (second : Magnitude chars other) : place = other := by
  have infinite : ¬ AllDigits ['i', 'n', 'f'] := fun digits => by cases digits 'i' (by decide)
  have named (numeral : Numeral) : numeral.chars ≠ ['i', 'n', 'f'] := fun same =>
    numeral.notMem_chars 'i' rfl (by decide) (same ▸ List.mem_cons_self)
  generalize isChars : chars = others at second
  cases first with
  | whole n =>
      have digits := allDigits_decimalDigits n
      cases second with
      | whole m => rw [decimalDigits_injective isChars]
      | parted numeral rank d parted => exact absurd (isChars ▸ digits) (numeral.not_allDigits parted)
      | infinite => exact absurd (isChars ▸ digits) infinite
  | parted numeral rank d parted reads value =>
      cases second with
      | whole m => exact absurd (isChars ▸ allDigits_decimalDigits m) (numeral.not_allDigits parted)
      | parted opposite another e _ readsOther valueOther =>
          have same := numeral.decimal_of_chars opposite isChars
          rw [Binary64.rank_of_value rank another d e reads readsOther
            (by rw [← value, ← valueOther, same])]
      | infinite => exact absurd isChars (named numeral)
  | infinite =>
      cases second with
      | whole m => exact absurd (isChars ▸ allDigits_decimalDigits m) infinite
      | parted numeral => exact absurd isChars.symm (named numeral)
      | infinite => rfl

end Magnitude

end Magnitudes

section Amounts

def signedPlace (negative : Bool) (place : ℤ × ℤ) : ℤ × ℤ := if negative then -place else place

theorem takeSign_signedText (negative : Bool) (chars : List Char)
    (starts : ∃ c ∈ chars.head?, c.isDigit = true ∨ c = 'i') :
    NumberText.takeSign (Layout.signedText negative chars).toList = (negative, chars) := by
  obtain ⟨c, first, digit⟩ := starts
  have minus : c ≠ '-' := by
    rintro rfl
    simp at digit
  have plus : c ≠ '+' := by
    rintro rfl
    simp at digit
  unfold Layout.signedText
  rw [String.toList_ofList]
  cases negative with
  | true => rfl
  | false =>
      rw [if_neg Bool.false_ne_true]
      unfold NumberText.takeSign
      split
      next => exact absurd (Option.some.inj first).symm minus
      next => exact absurd (Option.some.inj first).symm plus
      next => rfl

theorem toString_int (n : ℤ) : toString n = Layout.signedText (n < 0) (decimalDigits n.natAbs) := by
  cases n with
  | ofNat n => exact toString_eq_ofList n
  | negSucc n =>
      have digits : toString (Int.negSucc n) = "-" ++ toString (n + 1) := rfl
      rw [digits, toString_eq_ofList, Layout.signedText, decide_eq_true (Int.negSucc_lt_zero n), if_pos rfl,
        Int.natAbs_negSucc, ← String.toList_inj, String.toList_append]
      simp only [String.toList_ofList]
      rfl

def Amount (text : String) (place : ℤ × ℤ) : Prop :=
  ∃ negative chars size, Magnitude chars size ∧ text = Layout.signedText negative chars ∧
    place = signedPlace negative size

theorem amount_whole (n : ℤ) : Amount (toString n) (0, n * Binary64.quantaPerUnit) := by
  refine ⟨n < 0, _, _, .whole n.natAbs, toString_int n, ?_⟩
  rcases Int.lt_or_le n 0 with below | atLeast
  · rw [decide_eq_true below, signedPlace, if_pos rfl, Prod.neg_mk, neg_zero, Int.ofNat_natAbs_of_nonpos below.le,
      neg_mul, neg_neg]
  · rw [decide_eq_false atLeast.not_gt, signedPlace, if_neg Bool.false_ne_true, Int.natAbs_of_nonneg atLeast]

theorem amount_parted (negative : Bool) (rank : Nat) (positive : 0 < rank) :
    Amount (Layout.signedText negative (Layout.plain.write (Binary64.shortest rank)))
      (signedPlace negative (0, Binary64.quanta rank)) := by
  have reads := Binary64.readsAs_shortest rank positive
  obtain ⟨numeral, written, value, parted⟩ := write_is_numeral .plain (Binary64.shortest rank)
    (Binary64.digits_pos_of_readsAs rank positive _ reads)
  exact ⟨negative, _, _, .parted numeral rank _ (parted rfl) reads value, by rw [written], rfl⟩

theorem place?_of_rank (negative : Bool) (rank : Nat) (bounded : rank ≤ infiniteRank) :
    (Number.float (.signed negative rank bounded)).place? =
      some (signedPlace negative (if rank = infiniteRank then (1, 0) else (0, (Binary64.quanta rank : ℤ)))) := by
  by_cases infinite : rank = infiniteRank <;> cases negative <;>
    simp [Number.place?, Binary64.quanta?, infinite, signedPlace]

theorem amount_of_quanta? (x : Binary64) (n : ℤ) (quanta : x.quanta? = some n) :
    x.amount =
      if n % (Binary64.quantaPerUnit : ℤ) = 0 then toString (n.tdiv Binary64.quantaPerUnit) else x.text := by
  simp only [Binary64.amount, Binary64.truncate?, Binary64.isWhole, quanta, Option.map_some, decide_eq_true_eq]

/-- What is a number is written as the amount of its place. -/
theorem amount_of_number (x : Binary64) (number : x.isNaN = false) :
    ∃ place, (Number.float x).place? = some place ∧ Amount x.amount place := by
  cases x with
  | nan => cases number
  | signed negative rank bounded =>
      refine ⟨_, place?_of_rank negative rank bounded, ?_⟩
      split
      next infinite =>
        have some : infiniteRank ≠ 0 := by decide
        refine ⟨negative, _, _, .infinite, ?_, rfl⟩
        simp only [Binary64.amount, Binary64.truncate?, Binary64.quanta?, infinite, if_true, Option.map_none,
          Binary64.text, if_neg some]
      next finite =>
        let n : ℤ := if negative then -(Binary64.quanta rank : ℤ) else Binary64.quanta rank
        have quanta : (Binary64.signed negative rank bounded).quanta? = some n := by
          rw [Binary64.quanta?, if_neg finite]
        have place : signedPlace negative (0, (Binary64.quanta rank : ℤ)) = (0, n) := by
          cases negative <;> simp [n, signedPlace]
        rw [amount_of_quanta? _ n quanta]
        split
        next whole =>
          obtain ⟨k, units⟩ := Int.dvd_of_emod_eq_zero whole
          have positive : (Binary64.quantaPerUnit : ℤ) ≠ 0 := by exact_mod_cast quantaPerUnit_pos.ne'
          rw [place, units, Int.mul_tdiv_cancel_left _ positive, mul_comm]
          exact amount_whole k
        next parted =>
          have some : rank ≠ 0 := by
            rintro rfl
            refine parted ?_
            cases negative <;> decide +kernel
          rw [Binary64.text, if_neg some, if_neg finite]
          exact amount_parted negative rank (Nat.pos_of_ne_zero some)

namespace Amount

variable {text : String} {place other : ℤ × ℤ}

theorem place_unique (first : Amount text place) (second : Amount text other) : place = other := by
  obtain ⟨negative, chars, size, magnitude, isText, rfl⟩ := first
  obtain ⟨opposite, letters, measure, asMagnitude, asText, rfl⟩ := second
  have parts := takeSign_signedText negative chars magnitude.starts
  rw [← isText, asText, takeSign_signedText opposite letters asMagnitude.starts] at parts
  obtain ⟨rfl, rfl⟩ := Prod.mk.inj parts
  rw [magnitude.place_unique asMagnitude]

theorem blank (amount : Amount text place) : ' ' ∉ text.toList := by
  obtain ⟨negative, chars, size, magnitude, rfl, -⟩ := amount
  have blank := magnitude.blank
  rw [Layout.signedText, String.toList_ofList]
  cases negative <;> simp [blank]

/-- A sign alone is no amount. -/
theorem ne_sign (amount : Amount text place) : text ≠ "+" ∧ text ≠ "-" := by
  obtain ⟨negative, chars, size, magnitude, rfl, -⟩ := amount
  have parts := takeSign_signedText negative chars magnitude.starts
  obtain ⟨c, first, -⟩ := magnitude.starts
  constructor <;> intro same
  all_goals
    rw [same] at parts
    cases parts
    cases first

end Amount

/-- Numbers compare as equal when they have one place. -/
theorem equals_iff_place? (x y : Number) :
    x.equals y = true ↔ ∃ place, x.place? = some place ∧ y.place? = some place := by
  unfold Number.equals Number.compare?
  rw [beq_iff_eq]
  cases x.place? with
  | none => simp
  | some place =>
      cases y.place? with
      | none => simp
      | some other =>
          have equal : (compare place.1 other.1).then (compare place.2 other.2) = .eq ↔ place = other := by
            rw [Ordering.then_eq_eq, compare_eq_iff_eq, compare_eq_iff_eq, Prod.ext_iff]
          rw [Option.bind_eq_bind, Option.bind_some, Option.bind_some, Option.pure_def, Option.some.injEq, equal]
          simp [eq_comm]

theorem equals_of_place? (x y : Binary64) (number : x.isNaN = false)
    (same : (Number.float x).place? = (Number.float y).place?) : Number.equals (.float x) (.float y) = true := by
  obtain ⟨place, isPlace, -⟩ := amount_of_number x number
  exact (equals_iff_place? _ _).mpr ⟨place, isPlace, same ▸ isPlace⟩

/-- One amount is written for one place. -/
theorem place?_of_amount (x y : Binary64) (number : x.isNaN = false) (another : y.isNaN = false)
    (same : x.amount = y.amount) : (Number.float x).place? = (Number.float y).place? := by
  obtain ⟨place, isPlace, amount⟩ := amount_of_number x number
  obtain ⟨other, isOther, asAmount⟩ := amount_of_number y another
  rw [same] at amount
  rw [isPlace, isOther, amount.place_unique asAmount]

theorem isBelowZero_of_place? (x : Binary64) (place : ℤ × ℤ)
    (isPlace : (Number.float x).place? = some place) :
    x.isBelowZero = true ↔ place.1 < 0 ∨ place.1 = 0 ∧ place.2 < 0 := by
  have zero : (Number.int 0).place? = some (0, 0) := by rw [Number.place?, zero_mul]
  unfold Binary64.isBelowZero Number.less Number.compare?
  rw [isPlace, zero, beq_iff_eq, Option.bind_eq_bind, Option.bind_some, Option.bind_some, Option.pure_def,
    Option.some.injEq, Ordering.then_eq_lt, compare_lt_iff_lt, compare_lt_iff_lt, compare_eq_iff_eq]

theorem place?_abs (x : Binary64) (place : ℤ × ℤ) (magnitude : (Number.float x.abs).place? = some place) :
    (0 ≤ place.1 ∧ 0 ≤ place.2) ∧ ∃ negative, (Number.float x).place? = some (signedPlace negative place) := by
  cases x with
  | nan => cases magnitude
  | signed negative rank bounded =>
      obtain rfl := Option.some.inj ((place?_of_rank false rank bounded).symm.trans magnitude)
      refine ⟨?_, negative, place?_of_rank negative rank bounded⟩
      by_cases infinite : rank = infiniteRank <;> simp [signedPlace, infinite]

theorem isNaN_abs (x : Binary64) : x.abs.isNaN = x.isNaN := by cases x <;> rfl

/-- A number has its sign in front of the place of its magnitude, and zero has none. -/
theorem place?_signed (x : Binary64) (place : ℤ × ℤ) (magnitude : (Number.float x.abs).place? = some place) :
    (Number.float x).place? = some (signedPlace x.isBelowZero place) := by
  obtain ⟨⟨first, second⟩, negative, isPlace⟩ := place?_abs x place magnitude
  have below := isBelowZero_of_place? x _ isPlace
  rw [isPlace]
  cases negative with
  | false =>
      have above : x.isBelowZero = false := by
        rw [Bool.eq_false_iff, ne_eq, below]
        simp only [signedPlace, if_neg Bool.false_ne_true]
        omega
      rw [above]
  | true =>
      cases sign : x.isBelowZero with
      | true => rfl
      | false =>
          have zero : place = 0 := by
            rw [Bool.eq_false_iff, ne_eq, below] at sign
            simp only [signedPlace, if_true, Prod.fst_neg, Prod.snd_neg] at sign
            exact Prod.ext (by dsimp only [Prod.fst_zero]; omega) (by dsimp only [Prod.snd_zero]; omega)
          rw [zero]
          rfl

/-- One amount of a magnitude is written for one place of each sign. -/
theorem place?_of_abs_amount (x y : Binary64) (number : x.isNaN = false) (another : y.isNaN = false)
    (sign : x.isBelowZero = y.isBelowZero) (same : x.abs.amount = y.abs.amount) :
    (Number.float x).place? = (Number.float y).place? := by
  obtain ⟨place, first, -⟩ := amount_of_number x.abs ((isNaN_abs x).trans number)
  have second := place?_of_amount x.abs y.abs ((isNaN_abs x).trans number) ((isNaN_abs y).trans another) same
  rw [place?_signed x place first, place?_signed y place (second ▸ first), sign]

end Amounts

end LinearProgram
