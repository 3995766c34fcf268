import LinearProgram.Proofs.NumberLine
import LinearProgram.Proofs.Slices

/-!
The search for a row on row numbers that count from one. It finds what a scan finds, whatever whole number is
looked up: one that no word holds is above all rows, and so is one that only an unsigned word holds, although
both sides are rounded before they are compared.
-/

namespace LinearProgram

section Unsigned

/-- A whole number has a rank in the block of its binary digits, or the first rank after it. -/
theorem rank_ofInt (n : Nat) (positive : 0 < n) : ∃ rank, Binary64.ofInt n = .ofRank false rank ∧
    (n.log2 + 1023) * rankBlock ≤ rank ∧ rank ≤ (n.log2 + 1024) * rankBlock := by
  obtain ⟨atLeast, below⟩ : 2 ^ n.log2 ≤ n ∧ n < 2 ^ (n.log2 + 1) := (Nat.log2_eq_iff positive.ne').mp rfl
  obtain ⟨low, high⟩ := rounded_between n n.log2 atLeast below
  refine ⟨_, ofInt_eq_ofRank n positive, ?_, ?_⟩
  · rw [quantaPerUnit_eq, show n.log2 + 1023 = n.log2 + 1022 + 1 by rfl, Nat.succ_mul]
    omega
  · rw [quantaPerUnit_eq, show n.log2 + 1024 = n.log2 + 1022 + 2 by rfl,
      Nat.add_mul (n.log2 + 1022)]
    omega

theorem quanta?_ofRank (rank : Nat) (finite : rank < infiniteRank) :
    (Binary64.ofRank false rank).quanta? = some (Binary64.quanta rank : ℤ) := by
  have same : min rank infiniteRank = rank := Nat.min_eq_left finite.le
  simp [Binary64.ofRank, Binary64.quanta?, same, finite.ne]

theorem quanta_block_lt (low high : Nat) (below : low < high) :
    Binary64.quanta ((low + 1) * rankBlock) < Binary64.quanta ((high + 1) * rankBlock) := by
  have positive : 0 < rankBlock := Nat.pow_pos (by decide)
  have first (block : Nat) : Binary64.quanta ((block + 1) * rankBlock) = rankBlock * 2 ^ block := by
    simpa using quanta_rank block 0 positive
  rw [first, first]
  exact Nat.mul_lt_mul_of_pos_left (Nat.pow_lt_pow_right (by decide) below) positive

-- A number that only an unsigned word holds is above any row number, also after both are rounded.
theorem compareRow_unsigned (row number : Nat) (positive : 0 < row) (small : row < 2 ^ 61)
    (atLeast : 2 ^ 63 ≤ number) (below : number < 2 ^ 64) : compareRow row number = .lt := by
  obtain ⟨low, isLow, -, lowAtMost⟩ := rank_ofInt row positive
  obtain ⟨high, isHigh, highAtLeast, highAtMost⟩ := rank_ofInt number (by omega)
  have rowLog : row.log2 < 61 := (Nat.log2_lt positive.ne').mpr small
  have numberLog : number.log2 = 63 := (Nat.log2_eq_iff (by omega)).mpr ⟨atLeast, below⟩
  rw [numberLog] at highAtLeast highAtMost
  have lowBlocks := Nat.mul_le_mul_right rankBlock (show row.log2 + 1024 ≤ 1084 by omega)
  have lowBlock : low ≤ (1083 + 1) * rankBlock := by omega
  have highBlock : (1085 + 1) * rankBlock ≤ high := by omega
  have infinite : infiniteRank = 2047 * rankBlock := rfl
  have block : 0 < rankBlock := Nat.pow_pos (by decide)
  have lowFinite : low < infiniteRank := by omega
  have highFinite : high < infiniteRank := by omega
  have apart := calc Binary64.quanta low
      ≤ Binary64.quanta ((1083 + 1) * rankBlock) := quanta_monotone lowBlock
    _ < Binary64.quanta ((1085 + 1) * rankBlock) := quanta_block_lt 1083 1085 (by decide)
    _ ≤ Binary64.quanta high := quanta_monotone highBlock
  have order : (Number.float (.ofInt row)).compare? (.float (.ofInt number)) = some .lt := by
    rw [isLow, isHigh, Number.compare?, place?_of_quanta? _ _ (quanta?_ofRank low lowFinite),
      place?_of_quanta? _ _ (quanta?_ofRank high highFinite)]
    have compared : compare (Binary64.quanta low : ℤ) (Binary64.quanta high : ℤ) = .lt :=
      Int.compare_eq_lt.mpr (Int.ofNat_lt.mpr apart)
    simp [compared]
  have wide : Value.wordEnd ≤ (number : Int) ∧ (number : Int) < 2 * Value.wordEnd := by
    have word : Value.wordEnd = 2 ^ 63 := rfl
    omega
  rw [compareRow, if_pos wide, order]
  rfl

end Unsigned

structure RowsAscend (numbers : List Int) (count : Nat) : Prop where
  ascending : numbers.Pairwise fun one other => one ≤ other
  within : ∀ number ∈ numbers, 1 ≤ number ∧ number ≤ count

namespace Search

/-- A search that finds the insertion points of any whole number among so few row numbers that they are kept
apart from it also when both are rounded. -/
def Finds (search : Search) : Prop :=
  ∀ (numbers : Array Int) (count : Nat) (number : Int), RowsAscend numbers.toList count → count < 2 ^ 61 →
    search.FindsIn numbers number

theorem binary_finds : binary.Finds := by
  intro numbers count number rows small
  have word : Value.wordEnd = 2 ^ 63 := rfl
  refine binary_findsIn numbers number rows.ascending fun n member => ?_
  rcases Int.lt_or_le number Value.wordEnd with signed | beyond
  · exact compareRow_of_small n number signed
  · obtain ⟨atLeast, atMost⟩ := rows.within n (by simpa using member)
    rcases Int.lt_or_le number (2 * Value.wordEnd) with unsigned | large
    · have compared := compareRow_unsigned n.toNat number.toNat (by omega) (by omega) (by omega) (by omega)
      rw [Int.toNat_of_nonneg (by omega), Int.toNat_of_nonneg (by omega)] at compared
      rw [compared, eq_comm, Int.compare_eq_lt]
      omega
    · rw [compareRow, if_neg (by omega)]

end Search

section Slices

variable {α : Type} {row : α → Int} {items : List α}

/-- A search finds what a scan finds, whatever whole number is looked up. -/
theorem RowsAscend.slice {count : Nat} (rows : RowsAscend (items.map row) count) (small : count < 2 ^ 61)
    {search : Search} (finds : search.Finds) (number : Int) :
    search.rowSlice row items.toArray number = items.filter fun item => row item == number :=
  (finds _ count number (by simpa using rows) small).slice

-- On ascending numbers those up to one more are those up to a number and those that are one more.
theorem filter_upTo_succ (n : Int) (ascending : items.Pairwise fun one other => row one ≤ row other) :
    (items.filter fun item => decide (row item ≤ n + 1)) =
      (items.filter fun item => decide (row item ≤ n)) ++ items.filter fun item => row item == n + 1 := by
  induction items with
  | nil => rfl
  | cons first rest ih =>
      obtain ⟨least, rests⟩ := List.pairwise_cons.mp ascending
      rcases Int.lt_or_le n (row first) with above | upTo
      · have none : (rest.filter fun item => decide (row item ≤ n)) = [] := by
          refine List.filter_eq_nil_iff.mpr fun item member => ?_
          have atLeast := least item member
          rw [decide_eq_true_eq]
          omega
        have same : rest.filter (fun item => decide (row item ≤ n + 1)) =
            rest.filter fun item => row item == n + 1 := by
          rw [ih rests, none, List.nil_append]
        have notUpTo : ¬ row first ≤ n := by omega
        have only : row first ≤ n + 1 ↔ row first = n + 1 := by omega
        simp [List.filter_cons, none, same, notUpTo, only]
      · have notNext : row first ≠ n + 1 := by omega
        have alsoNext : row first ≤ n + 1 := by omega
        simp [ih rests, upTo, notNext, alsoNext]

/-- The slices of the rows, one after another, are all items. -/
theorem RowsAscend.flatMap_slices {count : Nat} (rows : RowsAscend (items.map row) count) (upTo : Nat)
    (enough : count ≤ upTo) :
    ((List.range upTo).flatMap fun (i : Nat) => items.filter fun item => row item == i + 1) = items := by
  have within (item : α) (member : item ∈ items) := rows.within (row item) (List.mem_map_of_mem member)
  have parts (n : Nat) : ((List.range n).flatMap fun (i : Nat) => items.filter fun item => row item == i + 1) =
      items.filter fun item => decide (row item ≤ n) := by
    induction n with
    | zero =>
        refine (List.filter_eq_nil_iff.mpr fun item member => ?_).symm
        have bounds := within item member
        rw [decide_eq_true_eq]
        omega
    | succ n ih =>
        rw [List.range_succ, List.flatMap_append, ih, List.flatMap_singleton]
        exact (filter_upTo_succ n (List.pairwise_map.mp rows.ascending)).symm
  rw [parts, List.filter_eq_self]
  intro item member
  have bounds := within item member
  rw [decide_eq_true_eq]
  omega

end Slices

end LinearProgram
