import LinearProgram.Proofs.NumberedRuns

/-!
The triples of a numbered problem. Flattening lists each coefficient that was written once, under the numbers of
its row and its column and in the order of these numbers, and the coefficients of the objective apart.
-/

namespace LinearProgram

structure ListsCells (problem : Problem) (written : String → Option Binary64)
    (listed : List (Int × Binary64)) : Prop where
  ascending : listed.Pairwise fun one other => one.1 < other.1
  cell : ∀ column ∈ problem.columns.entries, ∃ n : Int, column.2.number = .int n ∧
    ∀ x, (n, x) ∈ listed ↔ written column.1 = some x
  owned : ∀ pair ∈ listed, ∃ column ∈ problem.columns.entries, column.2.number = .int pair.1
  within : ∀ pair ∈ listed, 1 ≤ pair.1 ∧ pair.1 ≤ problem.columns.size

/-- Triples that list the coefficients of a problem: each that was written, once and in its place. -/
structure Triples.Lists (triples : Triples) (problem : Problem)
    (written : Value → String → Option Binary64) : Prop where
  ascending : triples.entries.toList.Pairwise fun one other =>
    one.row < other.row ∨ one.row = other.row ∧ one.column < other.column
  cell : ∀ row ∈ problem.constraints, ∀ column ∈ problem.columns.entries, ∃ m n : Int,
    row.2.number = .int m ∧ column.2.number = .int n ∧
      ∀ x, ⟨m, n, x⟩ ∈ triples.entries ↔ written (.text row.1) column.1 = some x
  owned : ∀ triple ∈ triples.entries, ∃ row ∈ problem.constraints, ∃ column ∈ problem.columns.entries,
    row.2.number = .int triple.row ∧ column.2.number = .int triple.column
  within : ∀ triple ∈ triples.entries, (1 ≤ triple.row ∧ triple.row ≤ problem.constraints.length) ∧
    1 ≤ triple.column ∧ triple.column ≤ problem.columns.size
  size : triples.size = (problem.constraints.map fun row =>
    problem.columns.keys.countP fun column => (written (.text row.1) column).isSome).sum
  objective : ∃ listed : List (Int × Binary64),
    triples.objective = listed.map (fun pair => (.int pair.1, pair.2)) ∧
      ListsCells problem (fun column => problem.objective.bind fun aim => written aim.key column) listed

namespace Problem

section Numbered

variable (problem : Problem)

def countedCells (row : Row) : List (Int × Binary64) :=
  row.cells.entries.map fun cell => (problem.columnNumber cell.1, cell.2)

theorem number_of_column (numbered : problem.Numbered .column) (column : String × Column)
    (member : column ∈ problem.columns.entries) : column.2.number = .int (problem.columnNumber column.1) := by
  have found := (problem.columns.mem_entries_iff column.1 column.2).mp member
  have count := numbered column.1 (List.mem_map_of_mem member)
  rw [numberOf_column, found] at count
  exact Option.some.inj count

theorem number_of_constraint (numbered : problem.Numbered .row) (row : String × Row)
    (member : row ∈ problem.constraints) : row.2.number = .int (problem.constraintNumber row.1) := by
  obtain ⟨found, -⟩ := (problem.mem_constraints_iff row.1 row.2).mp member
  have count := numbered row.1 (List.mem_map_of_mem member)
  rw [numberOf_row _ _ rfl, found] at count
  exact Option.some.inj count

theorem countedCells_ascending (row : Row)
    (registered : ∀ cell ∈ row.cells.entries, problem.columns.contains cell.1 = true) :
    (problem.countedCells row).Pairwise fun one other => one.1 < other.1 := by
  refine List.pairwise_map.mpr (row.cells.ascending.imp_of_mem fun {one other} isOne isOther below => ?_)
  have member (cell : String × Binary64) (isCell : cell ∈ row.cells.entries) : cell.1 ∈ problem.columns.keys :=
    (problem.columns.mem_keys_iff cell.1).mpr (registered cell isCell)
  have upward := (countOf_lt_iff _ problem.columns.keys_pairwise one.1 other.1 (member one isOne)
    (member other isOther)).mpr below
  exact Int.ofNat_lt.mpr upward

theorem mem_countedCells_iff (row : Row)
    (registered : ∀ cell ∈ row.cells.entries, problem.columns.contains cell.1 = true) (column : String)
    (x : Binary64) : ((problem.columnNumber column : Int), x) ∈ problem.countedCells row ↔
      row.cells.get? column = some x := by
  rw [countedCells, List.mem_map, ← row.cells.mem_entries_iff]
  constructor
  · rintro ⟨cell, member, same⟩
    obtain ⟨sameCount, rfl⟩ := Prod.mk.inj same
    have registeredCell := (problem.columns.mem_keys_iff cell.1).mpr (registered cell member)
    have sameKey := countOf_inj problem.columns.keys cell.1 column registeredCell (Int.ofNat.inj sameCount)
    exact sameKey ▸ member
  · intro member
    exact ⟨(column, x), member, rfl⟩

theorem listsCells (numbered : problem.Numbered .column) (row : Row)
    (registered : ∀ cell ∈ row.cells.entries, problem.columns.contains cell.1 = true) :
    ListsCells problem row.cells.get? (problem.countedCells row) := by
  constructor
  case ascending => exact problem.countedCells_ascending row registered
  case cell =>
    intro column member
    exact ⟨_, problem.number_of_column numbered column member, problem.mem_countedCells_iff row registered column.1⟩
  case owned =>
    intro pair member
    obtain ⟨cell, isCell, rfl⟩ := List.mem_map.mp member
    obtain ⟨column, found⟩ := Option.isSome_iff_exists.mp (registered cell isCell)
    have isColumn := (problem.columns.mem_entries_iff cell.1 column).mpr found
    exact ⟨(cell.1, column), isColumn, problem.number_of_column numbered _ isColumn⟩
  case within =>
    intro pair member
    obtain ⟨cell, isCell, rfl⟩ := List.mem_map.mp member
    have atMost := problem.columnNumber_le cell.1 (registered cell isCell)
    have atLeast : 1 ≤ problem.columnNumber cell.1 := Nat.le_add_left 1 _
    exact ⟨Int.ofNat_le.mpr atLeast, Int.ofNat_le.mpr atMost⟩

theorem mem_outlineTriples_iff (triple : Triple) :
    triple ∈ problem.outlineTriples.entries ↔ ∃ row ∈ problem.constraints,
      (problem.constraintNumber row.1 : Int) = triple.row ∧
        (triple.column, triple.value) ∈ problem.countedCells row.2 := by
  simp only [outlineTriples, List.mem_toArray, List.mem_flatMap, block, countedCells, List.mem_map]
  constructor
  · rintro ⟨row, member, cell, isCell, rfl⟩
    exact ⟨row, member, rfl, cell, isCell, rfl⟩
  · rintro ⟨row, member, same, cell, isCell, pair⟩
    obtain ⟨sameColumn, sameValue⟩ := Prod.mk.inj pair
    refine ⟨row, member, cell, isCell, ?_⟩
    rw [same, sameColumn, sameValue]

-- Row after row, and in a row column after column.
theorem outlineTriples_ascending (closed : problem.Closed) :
    problem.outlineTriples.entries.toList.Pairwise fun one other =>
      one.row < other.row ∨ one.row = other.row ∧ one.column < other.column := by
  apply problem.pairwise_flatMap_constraints problem.block Triple.row
  · exact fun _ _ below => Or.inl below
  · exact fun row _ triple inside => problem.row_of_block row triple inside
  · intro row member
    have cells := problem.countedCells_ascending row.2
      (problem.registered_of_cell closed _ row.2 (problem.row?_of_constraint row member))
    refine List.pairwise_map.mpr ((List.pairwise_map.mp cells).imp fun {one other} below => ?_)
    exact Or.inr ⟨rfl, below⟩

-- The columns with a coefficient in a row are as many as its coefficients.
theorem countP_written (row : Row)
    (registered : ∀ cell ∈ row.cells.entries, problem.columns.contains cell.1 = true) :
    problem.columns.keys.countP (fun column => (row.cells.get? column).isSome) = row.cells.entries.length := by
  have same : problem.columns.keys.filter (fun column => (row.cells.get? column).isSome) = row.cells.keys := by
    refine (problem.columns.keys_pairwise.filter _).eq_of_mem_iff row.cells.keys_pairwise fun key => ?_
    rw [List.mem_filter, row.cells.mem_keys_iff]
    refine and_iff_right_of_imp fun present => ?_
    obtain ⟨x, found⟩ := Option.isSome_iff_exists.mp present
    exact (problem.columns.mem_keys_iff key).mpr (registered (key, x) ((row.cells.mem_entries_iff key x).mpr found))
  rw [List.countP_eq_length_filter, same, Catalog.keys, List.length_map]

theorem size_outlineTriples (closed : problem.Closed) :
    problem.outlineTriples.size = (problem.constraints.map fun row =>
      problem.columns.keys.countP fun column => (problem.cell? (.text row.1) column).isSome).sum := by
  rw [Triples.size, outlineTriples, List.size_toArray, List.length_flatMap]
  refine congrArg List.sum (List.map_congr_left fun row member => ?_)
  have found := problem.row?_of_constraint row member
  have count := problem.countP_written row.2 (problem.registered_of_cell closed _ row.2 found)
  simp only [cell?, found, Option.bind_some, count, block, List.length_map]

-- The coefficients of the objective, none if there is no objective.
theorem cell?_objective (column : String) :
    (problem.objective.bind fun aim => problem.cell? aim.key column) =
      problem.objective?.bind fun aim => aim.2.cells.get? column := by
  unfold objective? cell?
  cases problem.objective with
  | none => rfl
  | some aim =>
      show (problem.row? aim.key).bind _ = Option.bind ((problem.row? aim.key).bind _) _
      cases problem.row? aim.key <;> rfl

theorem objective_outlineTriples (closed : problem.Closed) (numbered : problem.Numbered .column) :
    ∃ listed : List (Int × Binary64),
      problem.outlineTriples.objective = listed.map (fun pair => (.int pair.1, pair.2)) ∧
        ListsCells problem (fun column => problem.objective.bind fun aim => problem.cell? aim.key column)
          listed := by
  simp only [cell?_objective, outlineTriples]
  cases aimed : problem.objective? with
  | none => exact ⟨[], rfl, problem.listsCells numbered {} fun cell member => by cases member⟩
  | some aim =>
      obtain ⟨key, row⟩ := aim
      have registered := problem.registered_of_cell closed key row (problem.row?_of_objective key row aimed)
      refine ⟨problem.countedCells row, ?_, problem.listsCells numbered row registered⟩
      simp [countedCells, Function.comp_def]

/-- The triples of a numbered problem list its coefficients. -/
theorem outlineTriples_lists (closed : problem.Closed) (columns : problem.Numbered .column)
    (rows : problem.Numbered .row) : problem.outlineTriples.Lists problem problem.cell? := by
  have registered (row : String × Row) (member : row ∈ problem.constraints) :=
    problem.registered_of_cell closed _ row.2 (problem.row?_of_constraint row member)
  constructor
  case ascending => exact problem.outlineTriples_ascending closed
  case cell =>
    intro row member column isColumn
    refine ⟨_, _, problem.number_of_constraint rows row member,
      problem.number_of_column columns column isColumn, fun x => ?_⟩
    rw [mem_outlineTriples_iff, cell?, problem.row?_of_constraint row member, Option.bind_some,
      ← problem.mem_countedCells_iff row.2 (registered row member)]
    constructor
    · rintro ⟨other, isOther, sameCount, inside⟩
      have sameKey := countOf_inj _ other.1 row.1 (List.mem_map_of_mem isOther) (Int.ofNat.inj sameCount)
      have found := problem.row?_of_constraint other isOther
      rw [sameKey, problem.row?_of_constraint row member] at found
      exact Option.some.inj found ▸ inside
    · intro inside
      exact ⟨row, member, rfl, inside⟩
  case owned =>
    intro triple member
    obtain ⟨row, isRow, sameCount, inside⟩ := (problem.mem_outlineTriples_iff triple).mp member
    obtain ⟨column, isColumn, number⟩ := (problem.listsCells columns row.2 (registered row isRow)).owned _ inside
    exact ⟨row, isRow, column, isColumn, sameCount ▸ problem.number_of_constraint rows row isRow, number⟩
  case within =>
    intro triple member
    obtain ⟨row, isRow, sameCount, inside⟩ := (problem.mem_outlineTriples_iff triple).mp member
    refine ⟨?_, (problem.listsCells columns row.2 (registered row isRow)).within _ inside⟩
    have bounds := countOf_le _ row.1 (List.mem_map_of_mem (f := (·.1)) isRow)
    rw [List.length_map] at bounds
    rw [← sameCount]
    exact ⟨Int.ofNat_le.mpr bounds.1, Int.ofNat_le.mpr bounds.2⟩
  case size => exact problem.size_outlineTriples closed
  case objective => exact problem.objective_outlineTriples closed columns

theorem hasNestedNumbers_of_numbered (closed : problem.Closed) (inOrder : problem.orderFault? = none) :
    problem.assignNumbers.hasNestedNumbers = false := by
  rw [hasNestedNumbers, numberedEntries_assignNumbers problem closed inOrder]
  simp [Value.items?]

end Numbered

end Problem

theorem Session.found_getD (session : Session) (index : Nat)
    (isThere : (session.problems[index]?).isSome = true) :
    session.problems[index]? = some (session.problems[index]?.getD {}) := by
  obtain ⟨problem, found⟩ := Option.isSome_iff_exists.mp isThere
  rw [found]
  rfl

theorem Session.inspect_found (session : Session) (index : Nat) (problem : Problem)
    (found : session.problems[index]? = some problem) (look : Problem → Except Fault Answer) :
    session.inspect index look = (session, { answer := look problem }) := by
  rw [inspect, (problemAt_ok session index problem).mpr found]
  rfl

namespace NumberedRun

/-- Flattening loses, duplicates and misplaces nothing. A problem that was numbered, and to which neither a
column nor a row nor an objective has come and no number was assigned since, is flattened to triples that list
the coefficients that were last written, each once under the numbers of its row and column and in their order. -/
theorem flatten_lists {earlier later : List Step} {numbering : Step} {index : Nat} {numbered problem : Problem}
    (program : NumberedRun earlier numbering later index numbered problem)
    (unassigned : ∀ kind, ∀ step ∈ later, step.assignsNumber index kind = false)
    (columns : numbered.GainsNone .column problem) (rows : numbered.GainsNone .row problem)
    (named : problem.TextObjective) (fits : problem.Fits) :
    let whole := earlier ++ numbering :: later
    ∃ triples, (Session.run {} whole).1.step (.flatten index) =
        ((Session.run {} whole).1, { answer := .ok (.triples triples) }) ∧
      triples.Lists problem fun row column =>
        lastWrite (Session.cellWrites {} whole) ⟨index, .row, row⟩ ⟨index, .column, .text column⟩ := by
  intro whole
  have closed := program.reachable.closed
  have inOrder := problem.inOrder_of_textObjective named
  have numberedColumns := program.numbered_still .column (unassigned .column) named columns
  have numberedRows := program.numbered_still .row (unassigned .row) named rows
  have unchanged := problem.assignNumbers_of_numbered numberedColumns numberedRows
  have flat := problem.hasNestedNumbers_of_numbered closed inOrder
  have flattened := problem.flatten_assignNumbers closed inOrder fits
  rw [unchanged] at flat flattened
  refine ⟨problem.outlineTriples, ?_, ?_⟩
  · refine (Session.inspect_found _ index problem program.reached _).trans ?_
    simp only [flat, flattened]
    rfl
  · have stored := Session.cell?_of_start whole program.sound index problem program.reached
    have lists := problem.outlineTriples_lists closed numberedColumns numberedRows
    have same : problem.cell? = fun row column =>
        lastWrite (Session.cellWrites {} whole) ⟨index, .row, row⟩ ⟨index, .column, .text column⟩ :=
      funext fun row => funext fun column => stored row column
    rw [same] at lists
    exact lists

end NumberedRun

namespace Session

section Blend

/-- Steps on a numbered blend: coefficients over others and new ones, another problem with a row of its own, a
step that fails, a solve and a coefficient after it. -/
def blendReuse : List Step :=
  let stock : Handle := some ⟨0, .row, .text "stock"⟩
  [.add stock (.int 7) (.text "oil") [], .problem (.text "other"), .row 1 (.text "stock") [],
    .newRow 0 "stock", .solver false, .solve 0 0 plainAnswers, .add stock (.int 4) (.text "spare") []]

theorem blend_flattened : ∃ numbered problem,
    NumberedRun blendSteps (.assignNumbers 0) blendReuse 0 numbered problem ∧ ∃ triples,
      ((run {} (blendSteps ++ .assignNumbers 0 :: blendReuse)).1.step (.flatten 0)).2.answer =
        .ok (.triples triples) ∧ triples.size = 4 := by
  have numbered := found_getD (run {} (blendSteps ++ [.assignNumbers 0])).1 0 (by decide +kernel)
  have reached := found_getD (run {} (blendSteps ++ .assignNumbers 0 :: blendReuse)).1 0 (by decide +kernel)
  have program : NumberedRun blendSteps (.assignNumbers 0) blendReuse 0 _ _ :=
    ⟨by decide +kernel, by decide +kernel, numbered, reached⟩
  have unassigned (kind : EntityKind) : ∀ step ∈ blendReuse, step.assignsNumber 0 kind = false := by
    cases kind <;> decide
  obtain ⟨triples, answers, lists⟩ := program.flatten_lists unassigned (by decide +kernel)
    (by decide +kernel) (by decide +kernel) (by decide +kernel)
  have size := lists.size
  refine ⟨_, _, program, triples, by rw [answers], size.trans ?_⟩
  decide +kernel

end Blend

end Session

end LinearProgram
