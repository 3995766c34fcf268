import LinearProgram.Triples

/-!
The binary search for the triples of a row. On row numbers that ascend it finds the same entries as a
scan through all of them.
-/

namespace LinearProgram

section Partition

variable {α : Type} (test : α → Bool) (entries : Array α)

def Splits : Prop :=
  ∀ (i j : Nat) (first second : α), i ≤ j → entries[i]? = some first → entries[j]? = some second →
    test second = true → test first = true

/-- The search ends between the entries at which the test holds and those at which it fails. -/
theorem partitionPoint_splits (splits : Splits test entries) (low span : Nat)
    (inside : low + span ≤ entries.size) :
    low ≤ partitionPoint test entries low span ∧
      partitionPoint test entries low span ≤ low + span ∧
      (∀ i entry, low ≤ i → i < partitionPoint test entries low span → entries[i]? = some entry →
        test entry = true) ∧
      (∀ i entry, partitionPoint test entries low span ≤ i → i < low + span →
        entries[i]? = some entry → test entry = false) := by
  fun_induction partitionPoint test entries low span with
  | case1 low =>
      refine ⟨Nat.le_refl _, Nat.le_refl _, ?_, ?_⟩ <;> intros <;> omega
  | case2 low span positive half missing =>
      have beyond := Array.getElem?_eq_none_iff.mp missing
      omega
  | case3 low span positive half entry found holds ih =>
      obtain ⟨above, below, before, after⟩ := ih (by omega)
      refine ⟨by omega, by omega, ?_, ?_⟩
      · intro i other from_low under there
        -- up to the middle the test holds because it holds at the middle
        by_cases first : i ≤ low + half
        · exact splits i (low + half) other entry first there found holds
        · exact before i other (by omega) under there
      · intro i other above under there
        exact after i other above (by omega) there
  | case4 low span positive half entry found fails ih =>
      obtain ⟨above, below, before, after⟩ := ih (by omega)
      refine ⟨by omega, by omega, before, ?_⟩
      intro i other above under there
      by_cases first : i < low + half
      · exact after i other above first there
      · -- if it held after the middle it would hold at the middle
        refine Bool.eq_false_iff.mpr fun holds => fails ?_
        exact splits (low + half) i entry other (by omega) found there holds

end Partition

section Ascending

variable {α : Type}

theorem getElem?_of_take (items : List α) (count i : Nat) (item : α)
    (there : (items.take count)[i]? = some item) : i < count ∧ items[i]? = some item := by
  rw [List.getElem?_take] at there
  split at there
  next under => exact ⟨under, there⟩
  next => cases there

-- A test that holds before a point and fails from there on splits a list at that point.
theorem partition_take_drop (test : α → Bool) (items : List α) (point : Nat)
    (before : ∀ i item, i < point → items[i]? = some item → test item = true)
    (after : ∀ i item, point ≤ i → items[i]? = some item → test item = false) :
    items.take point = items.filter test ∧ items.drop point = items.filter (!test ·) := by
  have holds : ∀ item ∈ items.take point, test item = true := by
    intro item member
    obtain ⟨i, there⟩ := List.mem_iff_getElem?.mp member
    obtain ⟨under, stands⟩ := getElem?_of_take items point i item there
    exact before i item under stands
  have fails : ∀ item ∈ items.drop point, test item = false := by
    intro item member
    obtain ⟨i, there⟩ := List.mem_iff_getElem?.mp member
    rw [List.getElem?_drop] at there
    exact after (point + i) item (Nat.le_add_right _ _) there
  have parts : items.filter test =
      (items.take point).filter test ++ (items.drop point).filter test := by
    rw [← List.filter_append, List.take_append_drop]
  have others : items.filter (!test ·) =
      (items.take point).filter (!test ·) ++ (items.drop point).filter (!test ·) := by
    rw [← List.filter_append, List.take_append_drop]
  constructor
  · rw [parts, List.filter_eq_self.mpr holds, List.filter_eq_nil_iff.mpr, List.append_nil]
    simpa using fails
  · rw [others, List.filter_eq_nil_iff.mpr, List.nil_append, List.filter_eq_self.mpr]
    · simpa using fails
    · simpa using holds

-- What stands between the points of two tests is what fails the first and passes the second.
theorem drop_take_partition (below upTo : α → Bool) (items : List α) (start stop : Nat)
    (beforeStart : ∀ i item, i < start → items[i]? = some item → below item = true)
    (afterStart : ∀ i item, start ≤ i → items[i]? = some item → below item = false)
    (beforeStop : ∀ i item, i < stop → items[i]? = some item → upTo item = true)
    (afterStop : ∀ i item, stop ≤ i → items[i]? = some item → upTo item = false) :
    (items.take stop).drop start = items.filter fun item => !below item && upTo item := by
  have kept := (partition_take_drop upTo items stop beforeStop afterStop).1
  have dropped := (partition_take_drop below (items.take stop) start
    (fun i item under there => beforeStart i item under (getElem?_of_take _ _ i item there).2)
    fun i item past there => afterStart i item past (getElem?_of_take _ _ i item there).2).2
  rw [dropped, kept, List.filter_filter]

/-- The search over a whole array splits its entries by the test. -/
theorem partitionPoint_spec (test : α → Bool) (entries : Array α) (splits : Splits test entries) :
    (∀ i item, i < partitionPoint test entries 0 entries.size → entries.toList[i]? = some item →
        test item = true) ∧
      ∀ i item, partitionPoint test entries 0 entries.size ≤ i → entries.toList[i]? = some item →
        test item = false := by
  obtain ⟨-, -, before, after⟩ :=
    partitionPoint_splits test entries splits 0 entries.size (by omega)
  constructor
  · intro i item under there
    exact before i item (Nat.zero_le i) under (by simpa using there)
  · intro i item above there
    have stands : entries[i]? = some item := by simpa using there
    obtain ⟨inside, -⟩ := Array.getElem?_eq_some_iff.mp stands
    exact after i item above (by omega) stands

theorem compareRow_of_small (row number : Int) (small : number < Value.wordEnd) :
    compareRow row number = compare row number := by
  unfold compareRow
  rw [if_neg]
  omega

end Ascending

namespace Search

/-- The insertion points of a number among others: what stands before the left one is below the number, and
what stands before the right one is not above it. -/
structure FindsIn (search : Search) (numbers : Array Int) (number : Int) : Prop where
  left : ∀ i n, numbers[i]? = some n → (i < search.left numbers number ↔ n < number)
  right : ∀ i n, numbers[i]? = some n → (i < search.right numbers number ↔ n ≤ number)

section Binary

variable (numbers : Array Int) (number : Int)
  (ascending : numbers.toList.Pairwise fun first second => first ≤ second)
  (exact : ∀ n ∈ numbers, compareRow n number = compare n number)

include ascending

theorem splits_of_ascending (test : Int → Bool)
    (downward : ∀ low ∈ numbers, ∀ high ∈ numbers, low ≤ high → test high = true → test low = true) :
    Splits test numbers := by
  intro i j first second order there thereSecond holds
  refine downward first (Array.mem_of_getElem? there) second (Array.mem_of_getElem? thereSecond) ?_ holds
  rcases Nat.lt_or_eq_of_le order with before | same
  · obtain ⟨insideFirst, isFirst⟩ := Array.getElem?_eq_some_iff.mp there
    obtain ⟨insideSecond, isSecond⟩ := Array.getElem?_eq_some_iff.mp thereSecond
    have ordered := List.pairwise_iff_getElem.mp ascending i j (by simpa) (by simpa) before
    simpa [isFirst, isSecond] using ordered
  · subst same
    rw [there] at thereSecond
    exact Int.le_of_eq (Option.some.inj thereSecond)

-- The index at which a downward test begins to fail.
theorem lt_partitionPoint_iff (test : Int → Bool)
    (downward : ∀ low ∈ numbers, ∀ high ∈ numbers, low ≤ high → test high = true → test low = true)
    (i : Nat) (n : Int) (there : numbers[i]? = some n) :
    i < partitionPoint test numbers 0 numbers.size ↔ test n = true := by
  obtain ⟨before, after⟩ :=
    partitionPoint_spec test numbers (splits_of_ascending numbers ascending test downward)
  have stands : numbers.toList[i]? = some n := by simpa using there
  constructor
  · exact fun under => before i n under stands
  · intro holds
    refine Nat.lt_of_not_le fun past => ?_
    rw [after i n past stands] at holds
    cases holds

include exact

/-- Where rounding changes no comparison, halving finds the insertion points. -/
theorem binary_findsIn : binary.FindsIn numbers number where
  left i n there := by
    have downward : ∀ low ∈ numbers, ∀ high ∈ numbers, low ≤ high →
        (compareRow high number == .lt) = true → (compareRow low number == .lt) = true := by
      intro low isLow high isHigh order holds
      rw [exact high isHigh, beq_iff_eq, Int.compare_eq_lt] at holds
      rw [exact low isLow, beq_iff_eq, Int.compare_eq_lt]
      omega
    refine (lt_partitionPoint_iff numbers ascending _ downward i n there).trans ?_
    rw [exact n (Array.mem_of_getElem? there), beq_iff_eq, Int.compare_eq_lt]
  right i n there := by
    have downward : ∀ low ∈ numbers, ∀ high ∈ numbers, low ≤ high →
        (compareRow high number != .gt) = true → (compareRow low number != .gt) = true := by
      intro low isLow high isHigh order holds
      rw [exact high isHigh, bne_iff_ne, ne_eq, Int.compare_eq_gt] at holds
      rw [exact low isLow, bne_iff_ne, ne_eq, Int.compare_eq_gt]
      omega
    refine (lt_partitionPoint_iff numbers ascending _ downward i n there).trans ?_
    rw [exact n (Array.mem_of_getElem? there), bne_iff_ne, ne_eq, Int.compare_eq_gt]
    omega

end Binary

/-- Between its insertion points stand the entries of a row, all of them and no other. -/
theorem FindsIn.slice {α : Type} {search : Search} {row : α → Int} {entries : Array α} {number : Int}
    (finds : search.FindsIn (entries.map row) number) :
    search.rowSlice row entries number = entries.toList.filter fun entry => row entry == number := by
  have there (i : Nat) (entry : α) (stands : entries.toList[i]? = some entry) :
      (entries.map row)[i]? = some (row entry) := by
    have same : entries[i]? = some entry := by simpa using stands
    rw [Array.getElem?_map, same, Option.map_some]
  have left (i : Nat) (entry : α) (stands : entries.toList[i]? = some entry) :=
    finds.left i (row entry) (there i entry stands)
  have right (i : Nat) (entry : α) (stands : entries.toList[i]? = some entry) :=
    finds.right i (row entry) (there i entry stands)
  simp only [rowSlice, Array.toList_extract, List.extract_eq_take_drop, ← List.drop_take]
  rw [drop_take_partition (fun entry => decide (row entry < number)) (fun entry => decide (row entry ≤ number))
    entries.toList _ _
    (fun i entry under stands => decide_eq_true ((left i entry stands).mp under))
    (fun i entry past stands => decide_eq_false fun below =>
      Nat.not_lt_of_le past ((left i entry stands).mpr below))
    (fun i entry under stands => decide_eq_true ((right i entry stands).mp under))
    fun i entry past stands => decide_eq_false fun upTo =>
      Nat.not_lt_of_le past ((right i entry stands).mpr upTo)]
  refine List.filter_congr fun entry _ => ?_
  rw [Bool.eq_iff_iff]
  simp only [Bool.and_eq_true, Bool.not_eq_true', decide_eq_false_iff_not, decide_eq_true_eq, beq_iff_eq]
  omega

end Search

end LinearProgram
