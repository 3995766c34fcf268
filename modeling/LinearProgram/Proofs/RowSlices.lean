import LinearProgram.Proofs.Flattened
import LinearProgram.Proofs.Scans

/-!
The slices of the rows. Looking up the entries of a row by binary search finds what a scan through all entries
finds, for every whole number, and one after another the slices of the rows are all entries. Only the row
numbers matter: columns may have come since the rows were numbered, and may have any numbers.
-/

namespace LinearProgram

namespace NestedNumber

theorem length_nestedItems (values : List Value) (numbers : List NestedNumber)
    (converted : Value.nestedItems values = .ok numbers) : numbers.length = values.length := by
  induction values generalizing numbers with
  | nil =>
      cases converted
      rfl
  | cons first rest ih =>
      rw [Value.nestedItems] at converted
      obtain ⟨number, -, others⟩ := bind_ok converted
      obtain ⟨further, areFurther, same⟩ := bind_ok others
      cases same
      rw [List.length_cons, List.length_cons, ih further areFurther]

theorem length_ofValues (values : List Value) (numbers : List NestedNumber)
    (converted : ofValues values = .ok numbers) : numbers.length = values.length := by
  obtain ⟨_, -, items⟩ := bind_ok converted
  exact length_nestedItems values numbers items

theorem nestedItems_int (numbers : List Int) (words : ∀ n ∈ numbers, (Value.int n).toWord = .ok n) :
    Value.nestedItems (numbers.map .int) = .ok (numbers.map .whole) := by
  induction numbers with
  | nil => rfl
  | cons first rest ih =>
      have here : Value.toNested (.int first) = .ok (.whole first) := by
        have word := words first List.mem_cons_self
        simp only [Value.toNested, word]
        rfl
      rw [List.map_cons, Value.nestedItems, here, ih fun n member => words n (List.mem_cons_of_mem _ member)]
      rfl

-- Whole numbers fill a box that is one list deep.
theorem ofValues_int (numbers : List Int) (words : ∀ n ∈ numbers, (Value.int n).toWord = .ok n) :
    ofValues (numbers.map .int) = .ok (numbers.map .whole) := by
  have plain : (numbers.map Value.int).filterMap Value.items? = [] := by
    simp [Value.items?]
  have boxed : checkBox depthLimit [] [.list (numbers.map .int)] = .ok () := by
    rw [depthLimit, checkBox]
    simp only [List.filterMap_cons, Value.items?, List.filterMap_nil, List.length_nil, List.length_cons,
      List.flatten_nil, List.append_nil, List.all_nil, and_self, if_true]
    rw [checkBox, plain]
  rw [ofValues, boxed]
  exact nestedItems_int numbers words

end NestedNumber

namespace Problem

section Counted

variable (problem : Problem)

/-- Containers hold addresses of eight bytes, and their sizes in bytes are signed words of 64 bits. -/
structure Addressable : Prop where
  columns : 8 * problem.columns.size < Value.wordEnd
  rows : 8 * problem.rows.size < Value.wordEnd

instance : Decidable problem.Addressable :=
  decidable_of_iff (8 * problem.columns.size < Value.wordEnd ∧ 8 * problem.rows.size < Value.wordEnd)
    ⟨fun ⟨columns, rows⟩ => ⟨columns, rows⟩, fun held => ⟨held.columns, held.rows⟩⟩

def countedEntries : List (Int × Value × Binary64) :=
  problem.constraints.flatMap fun entry =>
    (problem.numberedCells entry.2).map fun cell => ((problem.constraintNumber entry.1 : Int), cell)

theorem numberedEntries_of_numbered (numbered : problem.Numbered .row) :
    problem.numberedEntries = problem.countedEntries.map fun entry => (.int entry.1, entry.2) := by
  unfold numberedEntries countedEntries
  rw [List.map_flatMap]
  refine List.flatMap_congr fun entry member => ?_
  dsimp only
  rw [problem.number_of_constraint numbered entry member, List.map_map]
  rfl

theorem countedEntries_ascend :
    RowsAscend (problem.countedEntries.map (·.1)) problem.constraints.length := by
  constructor
  case ascending =>
    apply List.pairwise_map.mpr
    apply problem.pairwise_flatMap_constraints _ (·.1)
    · exact fun _ _ below => Int.le_of_lt below
    · intro entry _ counted inside
      obtain ⟨cell, -, rfl⟩ := List.mem_map.mp inside
      rfl
    · exact fun _ _ => List.pairwise_map.mpr (List.pairwise_of_forall fun _ _ => Int.le_refl _)
  case within =>
    intro number member
    obtain ⟨counted, isCounted, rfl⟩ := List.mem_map.mp member
    obtain ⟨entry, isEntry, inside⟩ := List.mem_flatMap.mp isCounted
    obtain ⟨cell, -, rfl⟩ := List.mem_map.mp inside
    have bounds := countOf_le _ entry.1 (List.mem_map_of_mem (f := (·.1)) isEntry)
    rw [List.length_map] at bounds
    exact ⟨Int.ofNat_le.mpr bounds.1, Int.ofNat_le.mpr bounds.2⟩

theorem length_constraints_le : problem.constraints.length ≤ problem.rows.size :=
  List.length_filter_le _ _

theorem Addressable.small {problem : Problem} (held : problem.Addressable) :
    problem.constraints.length < 2 ^ 61 := by
  have rows := held.rows
  have fewer := problem.length_constraints_le
  have word : Value.wordEnd = 2 ^ 63 := rfl
  omega

theorem toWord_countedEntries (held : problem.Addressable) (entry : Int × Value × Binary64)
    (member : entry ∈ problem.countedEntries) : (Value.int entry.1).toWord = .ok entry.1 := by
  have bounds := problem.countedEntries_ascend.within entry.1 (List.mem_map_of_mem member)
  have small := held.small
  have word : Value.wordEnd = 2 ^ 63 := rfl
  exact toWord_int entry.1 (by omega) (by omega)

def countedWords : Except Fault (List Int) := problem.countedEntries.mapM fun entry => entry.2.1.toWord

def countedTriples (words : List Int) : List Triple :=
  (problem.countedEntries.zip words).map fun pair => ⟨pair.1.1, pair.2, pair.1.2.2⟩

theorem zip_zip_map {α β γ δ ε : Type} (one : α → β) (other : α → γ) (make : (β × δ) × γ → ε)
    (items : List α) (words : List δ) :
    (((items.map one).zip words).zip (items.map other)).map make =
      (items.zip words).map fun pair => make ((one pair.1, pair.2), other pair.1) := by
  induction items generalizing words with
  | nil => rfl
  | cons first rest ih =>
      cases words with
      | nil => rfl
      | cons word more =>
          have tail := ih more
          simp only [List.map_cons, List.zip_cons_cons, tail]

-- Where rows have their counts, only the numbers of columns can fail to convert.
theorem flatten_of_numbered (numbered : problem.Numbered .row) (inOrder : problem.orderFault? = none)
    (held : problem.Addressable) :
    problem.flatten = problem.countedWords.map fun words =>
      ⟨(problem.countedTriples words).toArray, problem.objectiveEntries⟩ := by
  have ordered : problem.checkOrder = .ok () := by rw [checkOrder, inOrder]
  have rows : (problem.countedEntries.mapM fun (entry : Int × Value × Binary64) => (Value.int entry.1).toWord) =
      .ok (problem.countedEntries.map (·.1)) :=
    mapM_ok _ _ _ (problem.toWord_countedEntries held)
  simp only [flatten, ordered, problem.numberedEntries_of_numbered numbered, List.mapM_map, Function.comp_def,
    rows, ok_bind]
  rw [← countedWords]
  cases problem.countedWords with
  | error fault => rfl
  | ok words =>
      show Except.ok (Triples.mk _ _) = Except.ok _
      rw [zip_zip_map]
      rfl

theorem flattenNested_of_numbered (numbered : problem.Numbered .row) (inOrder : problem.orderFault? = none)
    (held : problem.Addressable) :
    problem.flattenNested =
      (NestedNumber.ofValues (problem.countedEntries.map (·.2.1))).map fun columns =>
        { rows := (problem.countedEntries.map (·.1)).map .whole, columns
          values := problem.countedEntries.map (·.2.2), objective := problem.objectiveEntries } := by
  have ordered : problem.checkOrder = .ok () := by rw [checkOrder, inOrder]
  have rows := NestedNumber.ofValues_int (problem.countedEntries.map (·.1)) fun n member => by
    obtain ⟨entry, isEntry, rfl⟩ := List.mem_map.mp member
    exact problem.toWord_countedEntries held entry isEntry
  rw [List.map_map] at rows
  simp only [flattenNested, ordered, problem.numberedEntries_of_numbered numbered, List.map_map,
    Function.comp_def, ok_bind] at rows ⊢
  rw [rows]
  cases NestedNumber.ofValues (problem.countedEntries.map fun entry => entry.2.1) <;> rfl

theorem rows_countedTriples (words : List Int) (isWords : problem.countedWords = .ok words) :
    (problem.countedTriples words).map Triple.row = problem.countedEntries.map (·.1) := by
  have length : words.length = problem.countedEntries.length := by
    have marks := map_of_mapM _ (fun _ => ()) (fun _ => ()) (fun _ _ _ => rfl) _ _ isWords
    simpa using congrArg List.length marks
  have first := List.map_fst_zip (Nat.le_of_eq length.symm)
  rw [countedTriples, List.map_map, ← congrArg (List.map (·.1)) first, List.map_map]
  rfl

theorem singles_counted :
    ((problem.countedEntries.map (·.1)).map NestedNumber.whole).mapM NestedNumber.single =
      .ok (problem.countedEntries.map (·.1)) := by
  rw [List.mapM_map]
  exact (mapM_ok _ id _ fun _ _ => rfl).trans (by rw [List.map_id])

theorem rows_countedNested (columns : List NestedNumber)
    (areColumns : NestedNumber.ofValues (problem.countedEntries.map (·.2.1)) = .ok columns) :
    RowsAscend (((problem.countedEntries.map (·.1)).zip
      (columns.zip (problem.countedEntries.map (·.2.2)))).map Prod.fst) problem.constraints.length := by
  have length : (problem.countedEntries.map (·.1)).length ≤
      (columns.zip (problem.countedEntries.map (·.2.2))).length := by
    have same := NestedNumber.length_ofValues _ _ areColumns
    simp [same]
  exact (List.map_fst_zip length).symm ▸ problem.countedEntries_ascend

-- Numbers that are words are no lists.
theorem items?_of_toWord (value : Value) (word : Int) (converts : value.toWord = .ok word) :
    value.items? = none := by
  cases value with
  | list items => cases converts
  | _ => rfl

theorem hasNestedNumbers_of_words (numbered : problem.Numbered .row)
    (words : ∀ column ∈ problem.columns.entries, ∃ word, column.2.number.toWord = .ok word) :
    problem.hasNestedNumbers = false ∧ ∃ all, problem.countedWords = .ok all := by
  have converts (entry : Int × Value × Binary64) (member : entry ∈ problem.countedEntries) :
      ∃ word, entry.2.1.toWord = .ok word := by
    obtain ⟨row, -, inside⟩ := List.mem_flatMap.mp member
    obtain ⟨cell, isCell, rfl⟩ := List.mem_map.mp inside
    obtain ⟨stored, -, found⟩ := List.mem_filterMap.mp isCell
    obtain ⟨column, isColumn, rfl⟩ := Option.map_eq_some_iff.mp found
    exact words (stored.1, column) ((problem.columns.mem_entries_iff stored.1 column).mpr isColumn)
  constructor
  · rw [hasNestedNumbers, problem.numberedEntries_of_numbered numbered, List.any_map, List.any_eq_false]
    intro entry member
    obtain ⟨word, isWord⟩ := converts entry member
    have plain := items?_of_toWord _ word isWord
    have rowPlain : (Value.int entry.1).items? = none := rfl
    simp [Function.comp_apply, plain, rowPlain]
  · refine ⟨problem.countedEntries.map fun entry => (entry.2.1.toWord.toOption).getD 0, ?_⟩
    refine mapM_ok _ _ _ fun entry member => ?_
    obtain ⟨word, isWord⟩ := converts entry member
    rw [isWord]
    rfl

end Counted

end Problem

section Answers

abbrev NumberedCells := List (Int × NestedNumber × Binary64)

def Answer.listed? : Answer → Option NumberedCells
  | .triples flat => some (flat.entries.toList.map fun triple => (triple.row, .whole triple.column, triple.value))
  | .nestedTriples nested =>
      (nested.rows.mapM NestedNumber.single).toOption.map fun rows =>
        rows.zip (nested.columns.zip nested.values)
  | _ => Option.none

def Answer.slice? : Answer → Option (List (NestedNumber × Binary64))
  | .entries found => some (found.map fun triple => (.whole triple.column, triple.value))
  | .nestedEntries found => some found
  | _ => Option.none

def NumberedCells.under (listed : NumberedCells) (number : Int) : List (NestedNumber × Binary64) :=
  (listed.filter fun entry => entry.1 == number).map (·.2)

/-- Flattening lists coefficients, and a look-up of a row by any whole number gives those under this number, in
order. Those of the rows from one on are, one after another, all of them. -/
structure Session.SlicedByRow (session : Session) (index count : Nat) (listed : NumberedCells) : Prop where
  all : ∃ answer, (session.step (.flatten index)).2.answer = .ok answer ∧ answer.listed? = some listed
  slice : ∀ number, ∃ answer, (session.step (.rowEntries index number)).2.answer = .ok answer ∧
    answer.slice? = some (listed.under number)
  whole : ∀ upTo, count ≤ upTo →
    ((List.range upTo).flatMap fun (i : Nat) => listed.under (i + 1)) = listed.map (·.2)

theorem RowsAscend.whole {listed : NumberedCells} {count : Nat} (rows : RowsAscend (listed.map (·.1)) count)
    (upTo : Nat) (enough : count ≤ upTo) :
    ((List.range upTo).flatMap fun (i : Nat) => listed.under (i + 1)) = listed.map (·.2) := by
  unfold NumberedCells.under
  rw [← List.map_flatMap, rows.flatMap_slices upTo enough]

namespace Session

variable (session : Session) (index : Nat) (problem : Problem) (found : session.problems[index]? = some problem)

include found

theorem step_flatten : (session.step (.flatten index)).2.answer =
    if problem.hasNestedNumbers then problem.flattenNested.map .nestedTriples
    else problem.flatten.map .triples :=
  congrArg (·.2.answer) (session.inspect_found index problem found _)

theorem step_rowEntries (number : Int) :
    (session.step (.rowEntries index number)).2.answer = rowAnswer .binary number problem :=
  congrArg (·.2.answer) (session.inspect_found index problem found _)

-- Every look-up flattens first.
theorem rowEntries_of_fault (fault : Fault) (fails : (session.step (.flatten index)).2.answer = .error fault)
    (number : Int) : (session.step (.rowEntries index number)).2.answer = .error fault := by
  rw [session.step_flatten index problem found] at fails
  rw [session.step_rowEntries index problem found, rowAnswer]
  cases nested : problem.hasNestedNumbers with
  | true =>
      rw [nested, if_pos rfl] at fails
      cases flattened : problem.flattenNested with
      | ok triples => simp [flattened, Except.map] at fails
      | error other => simpa [flattened, Except.map, Bind.bind, Except.bind] using fails
  | false =>
      rw [nested, if_neg (by decide)] at fails
      cases flattened : problem.flatten with
      | ok triples => simp [flattened, Except.map] at fails
      | error other => simpa [flattened, Except.map] using fails

variable (numbered : problem.Numbered .row) (inOrder : problem.orderFault? = none) (held : problem.Addressable)

section Searches

omit found

include numbered inOrder held

variable {search : Search} (finds : search.Finds) (number : Int)

include finds

theorem rowAnswer_flat (flat : problem.hasNestedNumbers = false) (words : List Int)
    (isWords : problem.countedWords = .ok words) :
    rowAnswer search number problem =
      .ok (.entries ((problem.countedTriples words).filter fun triple => triple.row == number)) := by
  have flattened := problem.flatten_of_numbered numbered inOrder held
  have rows : RowsAscend ((problem.countedTriples words).map Triple.row) problem.constraints.length :=
    problem.rows_countedTriples words isWords ▸ problem.countedEntries_ascend
  rw [isWords] at flattened
  rw [rowAnswer, if_neg (by simp [flat]), flattened]
  show Except.ok (Answer.entries (search.rowSlice Triple.row _ number)) = _
  rw [rows.slice held.small finds]

theorem rowAnswer_nested (nested : problem.hasNestedNumbers = true) (columns : List NestedNumber)
    (areColumns : NestedNumber.ofValues (problem.countedEntries.map (·.2.1)) = .ok columns) :
    rowAnswer search number problem = .ok (.nestedEntries (NumberedCells.under
      ((problem.countedEntries.map (·.1)).zip (columns.zip (problem.countedEntries.map (·.2.2)))) number)) := by
  have flattened := problem.flattenNested_of_numbered numbered inOrder held
  have rows := problem.rows_countedNested columns areColumns
  rw [areColumns] at flattened
  rw [rowAnswer, if_pos nested, flattened]
  show (NestedTriples.rowEntries search _ number >>= fun entries => pure (Answer.nestedEntries entries)) = _
  rw [NestedTriples.rowEntries, problem.singles_counted, ok_bind]
  dsimp only
  rw [rows.slice held.small finds]
  rfl

/-- What a look-up answers does not depend on how the row is searched, also where it fails. -/
theorem rowAnswer_of_finds : rowAnswer search number problem = rowAnswer .binary number problem := by
  cases nested : problem.hasNestedNumbers with
  | false =>
      cases converted : problem.countedWords with
      | ok words =>
          rw [rowAnswer_flat problem numbered inOrder held finds number nested words converted,
            rowAnswer_flat problem numbered inOrder held Search.binary_finds number nested words converted]
      | error fault =>
          simp only [rowAnswer, nested, problem.flatten_of_numbered numbered inOrder held, converted]
          rfl
  | true =>
      cases converted : NestedNumber.ofValues (problem.countedEntries.map (·.2.1)) with
      | ok columns =>
          rw [rowAnswer_nested problem numbered inOrder held finds number nested columns converted,
            rowAnswer_nested problem numbered inOrder held Search.binary_finds number nested columns converted]
      | error fault =>
          simp only [rowAnswer, nested, problem.flattenNested_of_numbered numbered inOrder held, converted]
          rfl

end Searches

include numbered inOrder held

theorem sliced_flat (flat : problem.hasNestedNumbers = false) (words : List Int)
    (isWords : problem.countedWords = .ok words) :
    ∃ listed, session.SlicedByRow index problem.constraints.length listed := by
  have flattened := problem.flatten_of_numbered numbered inOrder held
  have rows : RowsAscend ((problem.countedTriples words).map Triple.row) problem.constraints.length :=
    problem.rows_countedTriples words isWords ▸ problem.countedEntries_ascend
  have shown : ((problem.countedTriples words).map fun triple =>
      ((triple.row, .whole triple.column, triple.value) : Int × NestedNumber × Binary64)).map (·.1) =
      (problem.countedTriples words).map Triple.row := by
    rw [List.map_map]
    rfl
  rw [isWords] at flattened
  refine ⟨(problem.countedTriples words).map fun triple => (triple.row, .whole triple.column, triple.value),
    ⟨.triples ⟨(problem.countedTriples words).toArray, problem.objectiveEntries⟩, ?_, rfl⟩,
    fun number => ⟨.entries ((problem.countedTriples words).filter fun triple => triple.row == number), ?_, ?_⟩,
    (shown.symm ▸ rows).whole⟩
  · rw [session.step_flatten index problem found, if_neg (by simp [flat]), flattened]
    rfl
  · rw [session.step_rowEntries index problem found]
    exact rowAnswer_flat problem numbered inOrder held Search.binary_finds number flat words isWords
  · rw [Answer.slice?, NumberedCells.under, List.filter_map, List.map_map]
    rfl

theorem sliced_nested (nested : problem.hasNestedNumbers = true) (columns : List NestedNumber)
    (areColumns : NestedNumber.ofValues (problem.countedEntries.map (·.2.1)) = .ok columns) :
    ∃ listed, session.SlicedByRow index problem.constraints.length listed := by
  have flattened := problem.flattenNested_of_numbered numbered inOrder held
  rw [areColumns] at flattened
  refine ⟨(problem.countedEntries.map (·.1)).zip (columns.zip (problem.countedEntries.map (·.2.2))),
    ⟨.nestedTriples ⟨(problem.countedEntries.map (·.1)).map .whole, columns,
      problem.countedEntries.map (·.2.2), problem.objectiveEntries⟩, ?_, ?_⟩,
    fun number => ⟨.nestedEntries _, ?_, rfl⟩, (problem.rows_countedNested columns areColumns).whole⟩
  · rw [session.step_flatten index problem found, if_pos nested, flattened]
    rfl
  · rw [Answer.listed?, problem.singles_counted]
    rfl
  · rw [session.step_rowEntries index problem found]
    exact rowAnswer_nested problem numbered inOrder held Search.binary_finds number nested columns areColumns

/-- Flattening that succeeds lists coefficients that are sliced by row. -/
theorem sliced_of_flattened (answer : Answer)
    (flattened : (session.step (.flatten index)).2.answer = .ok answer) :
    ∃ listed, session.SlicedByRow index problem.constraints.length listed := by
  rw [session.step_flatten index problem found] at flattened
  cases nested : problem.hasNestedNumbers with
  | false =>
      cases converted : problem.countedWords with
      | ok words => exact session.sliced_flat index problem found numbered inOrder held nested words converted
      | error fault =>
          rw [nested, if_neg (by decide), problem.flatten_of_numbered numbered inOrder held, converted] at flattened
          cases flattened
  | true =>
      cases converted : NestedNumber.ofValues (problem.countedEntries.map (·.2.1)) with
      | ok columns =>
          exact session.sliced_nested index problem found numbered inOrder held nested columns converted
      | error fault =>
          rw [nested, if_pos rfl, problem.flattenNested_of_numbered numbered inOrder held, converted] at flattened
          cases flattened

end Session

end Answers

namespace NumberedRun

variable {earlier later : List Step} {numbering : Step} {index : Nat} {numbered problem : Problem}

/-- Looking up a row by binary search gives what a scan of the triples gives. This holds for every whole number,
on a problem that was numbered and to which no row and no objective has come since and no number of a row was
assigned. A column may have come, and as long as no number of a column was assigned the triples are listed. A
number that was assigned to a column and is no word is met by flattening and by each look-up in the same way. None of this rests
on how the insertion points are found. -/
theorem slices_are_scans (program : NumberedRun earlier numbering later index numbered problem)
    (unassigned : ∀ step ∈ later, step.assignsNumber index .row = false)
    (rows : numbered.GainsNone .row problem) (named : problem.TextObjective) (held : problem.Addressable) :
    let session := (Session.run {} (earlier ++ numbering :: later)).1
    let Sliced := ∃ listed, session.SlicedByRow index problem.constraints.length listed
    let Words := ∀ column ∈ problem.columns.entries, ∃ word, column.2.number.toWord = .ok word
    ((∀ step ∈ later, step.assignsNumber index .column = false) → Words) ∧ (Words → Sliced) ∧
      (Sliced ∨ ∃ fault, (session.step (.flatten index)).2.answer = .error fault ∧
        ∀ number, (session.step (.rowEntries index number)).2.answer = .error fault) ∧
      ∀ search : Search, search.Finds → ∀ number,
        (session.step (.rowEntries index number)).2.answer = Session.rowAnswer search number problem := by
  intro session Sliced Words
  have inOrder := problem.inOrder_of_textObjective named
  have numberedRows := program.numbered_still .row unassigned named rows
  have found := program.reached
  refine ⟨fun columns column member => ?_, fun words => ?_, ?_, fun search finds number => ?_⟩
  · have isThere := (problem.columns.mem_entries_iff column.1 column.2).mp member
    obtain ⟨n, isCount, atMost⟩ := program.columnsCounted_still columns column.1 column.2 isThere
    have sizes := held.columns
    exact ⟨n, by rw [isCount]; exact Problem.toWord_int n (by omega) (by omega)⟩
  · obtain ⟨flat, all, areWords⟩ := problem.hasNestedNumbers_of_words numberedRows words
    exact session.sliced_flat index problem found numberedRows inOrder held flat all areWords
  · cases flattened : (session.step (.flatten index)).2.answer with
    | ok answer =>
        exact Or.inl (session.sliced_of_flattened index problem found numberedRows inOrder held answer flattened)
    | error fault =>
        exact Or.inr ⟨fault, rfl, session.rowEntries_of_fault index problem found fault flattened⟩
  · rw [session.step_rowEntries index problem found]
    exact (Session.rowAnswer_of_finds problem numberedRows inOrder held finds number).symm

end NumberedRun

namespace Session

section Blend

def blendGrowth : List Step :=
  [.add (some ⟨0, .row, .text "stock"⟩) (.int 4) (.text "additive") [], .column 0 (.text "yeast") [],
    .add (some ⟨0, .row, .text "capacity"⟩) (.text "many") (.text "water") []]

theorem blend_sliced : ∃ numbered problem,
    NumberedRun blendSteps (.assignNumbers 0) blendGrowth 0 numbered problem ∧
    numbered.columns.size < problem.columns.size ∧ problem.constraints.length = 2 ∧ ∃ listed,
      (run {} (blendSteps ++ .assignNumbers 0 :: blendGrowth)).1.SlicedByRow 0 problem.constraints.length
        listed := by
  have numbered := found_getD (run {} (blendSteps ++ [.assignNumbers 0])).1 0 (by decide +kernel)
  have reached := found_getD (run {} (blendSteps ++ .assignNumbers 0 :: blendGrowth)).1 0 (by decide +kernel)
  have program : NumberedRun blendSteps (.assignNumbers 0) blendGrowth 0 _ _ :=
    ⟨by decide +kernel, by decide +kernel, numbered, reached⟩
  obtain ⟨words, sliced, -⟩ := program.slices_are_scans (by decide) (by decide +kernel) (by decide +kernel)
    (by decide +kernel)
  exact ⟨_, _, program, by decide +kernel, by decide +kernel, sliced (words (by decide))⟩

end Blend

end Session

end LinearProgram
