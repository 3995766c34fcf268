import LinearProgram.Proofs.Plans

/-!
What solves write, and that a solve reads none of it. Without the numbers, values and duals of its entities a
problem is the same after a solve as before, and two problems that are the same without them are sent to an
engine in the same form.
-/

namespace LinearProgram

namespace Catalog

variable {α β : Type} (catalog : Catalog α)

def mapItems (change : String → α → β) : Catalog β :=
  catalog.mapEntries (fun entries => entries.map fun entry => (entry.1, change entry.1 entry.2))
    fun entries => by simp

theorem entries_mapItems (change : String → α → β) :
    (catalog.mapItems change).entries = catalog.entries.map fun entry => (entry.1, change entry.1 entry.2) := rfl

theorem get?_mapItems (change : String → α → β) (key : String) :
    (catalog.mapItems change).get? key = (catalog.get? key).map (change key) := by
  rw [get?, entries_mapItems, lookup_map_items]
  rfl

theorem mapItems_modify (change : String → α → β) (key : String) (write : α → α)
    (silent : ∀ item, change key (write item) = change key item) :
    (catalog.modify key write).mapItems change = catalog.mapItems change := by
  apply ext_get?
  intro other
  rw [get?_mapItems, get?_mapItems, get?_modify]
  split
  next same =>
    subst same
    rw [Option.map_map]
    exact congrArg (fun act => (catalog.get? other).map act) (funext silent)
  next => rfl

theorem mapItems_number (change : String → α → β) (counted : String → Bool) (setNumber : Nat → α → α)
    (silent : ∀ key n item, counted key = true → change key (setNumber n item) = change key item) :
    (catalog.number counted setNumber).mapItems change = catalog.mapItems change := by
  apply ext_get?
  intro key
  rw [get?_mapItems, get?_mapItems, get?_number, Option.map_map]
  refine congrArg (fun act => (catalog.get? key).map act) (funext fun item => ?_)
  by_cases counts : counted key = true
  · simp only [Function.comp_apply, if_pos counts]
    exact silent key _ item counts
  · simp only [Function.comp_apply, if_neg counts]

theorem size_mapItems (change : String → α → β) : (catalog.mapItems change).size = catalog.size := by
  rw [size, entries_mapItems, List.length_map]
  rfl

theorem keys_mapItems (change : String → α → β) : (catalog.mapItems change).keys = catalog.keys := by
  rw [keys, entries_mapItems, List.map_map]
  rfl

end Catalog

def Attributes.unread (attributes : Attributes) : Attributes :=
  { attributes with value := .float .zero, dual := .float .zero }

def Column.unread (column : Column) : Column := { column with toAttributes := column.toAttributes.unread }

def Row.unread (row : Row) : Row := { row with toAttributes := row.toAttributes.unread }

def Column.unsolved (column : Column) : Column := { column.unread with number := .int 0 }

/-- The row without what solves write about it. No solve gives the objective a number. -/
def Row.unsolved (isObjective : Bool) (row : Row) : Row :=
  { row.unread with number := if isObjective then row.number else .int 0 }

def Aim.unread : Aim → Aim
  | row key => .row key
  | beside name aside earlier => .beside name aside.unread earlier

namespace Problem

def unread (problem : Problem) : Problem :=
  { problem with
    columns := problem.columns.mapItems fun _ column => column.unread
    rows := problem.rows.mapItems fun _ row => row.unread
    objective := problem.objective.map Aim.unread }

def unsolved (problem : Problem) : Problem :=
  { problem with
    columns := problem.columns.mapItems fun _ column => column.unsolved
    rows := problem.rows.mapItems fun key row => row.unsolved (problem.isObjective key)
    objective := problem.objective.map Aim.unread }

section Unsolved

variable (problem : Problem)

theorem unsolved_assignNumbers : problem.assignNumbers.unsolved = problem.unsolved := by
  have columns : problem.assignNumbers.columns.mapItems (fun _ column => column.unsolved) =
      problem.columns.mapItems fun _ column => column.unsolved :=
    problem.columns.mapItems_number _ _ _ fun _ _ _ _ => rfl
  have rows : problem.assignNumbers.rows.mapItems (fun key row => row.unsolved (problem.isObjective key)) =
      problem.rows.mapItems fun key row => row.unsolved (problem.isObjective key) := by
    unfold assignNumbers
    dsimp only
    split
    · rfl
    · apply Catalog.mapItems_number
      intro key n row counted
      rw [Bool.not_eq_true'] at counted
      rw [counted]
      rfl
  simp only [unsolved, Problem.mk.injEq]
  exact ⟨rfl, columns, rows, rfl, rfl⟩

theorem unsolved_changeRow (key : Value) (change : Row → Row)
    (silent : ∀ row, (change row).unread = row.unread) :
    (problem.changeRow key change).unsolved = problem.unsolved := by
  have number (row : Row) : (change row).number = row.number := by
    show (change row).unread.number = row.unread.number
    rw [silent]
  unfold changeRow
  split
  next key =>
    have rows := problem.rows.mapItems_modify (fun key row => row.unsolved (problem.isObjective key)) key change
      fun row => by rw [Row.unsolved, Row.unsolved, silent, number]
    simp only [unsolved, Problem.mk.injEq]
    exact ⟨trivial, trivial, rows, trivial, trivial⟩
  next =>
    split
    next name aside earlier aimed => simp [unsolved, aimed, Aim.unread, silent, isObjective]
    next => rfl

theorem unsolved_changeAttributes (kind : EntityKind) (key : Value) (change : Attributes → Attributes)
    (silent : ∀ attributes, (change attributes).unread = attributes.unread) :
    (problem.changeAttributes kind key change).unsolved = problem.unsolved := by
  cases isRow : kind.isRow with
  | true =>
      rw [changeAttributes_row problem kind isRow]
      apply unsolved_changeRow
      intro row
      simp only [Row.unread, silent]
  | false =>
      cases kind.eq_column isRow
      cases key with
      | text key =>
          have columns := problem.columns.mapItems_modify (fun _ column => column.unsolved) key
            (fun column => { column with toAttributes := change column.toAttributes }) fun column => by
              simp only [Column.unsolved, Column.unread, silent]
          simp only [changeAttributes, changeColumn, unsolved, Problem.mk.injEq]
          exact ⟨trivial, columns, rfl, trivial, trivial⟩
      | _ => rfl

theorem unsolved_storeResults (journey : Journey) :
    (journey.storeResults problem).unsolved = problem.unsolved := by
  rw [storeResults_eq_foldl]
  induction storedIn journey.passed generalizing problem with
  | nil => rfl
  | cons stored rest ih =>
      rw [List.foldl_cons, ih, withResult]
      apply unsolved_changeAttributes
      intro attributes
      cases stored.result <;> rfl

/-- However it ends, a solve changes nothing else. -/
theorem unsolved_solve (solver : Solver) (engine : Engine) :
    (solver.solve problem engine).problem.unsolved = problem.unsolved := by
  rw [solver.problem_solve, unsolved_storeResults, unsolved_assignNumbers]

end Unsolved

section Unread

variable (problem : Problem)

theorem orderFault?_unread : problem.unread.orderFault? = problem.orderFault? := by
  unfold orderFault? unread
  rw [Catalog.size_mapItems]
  cases problem.objective with
  | none => rfl
  | some aim => cases aim <;> rfl

theorem isObjective_unread : problem.unread.isObjective = problem.isObjective := by
  funext key
  unfold isObjective unread
  cases problem.objective with
  | none => rfl
  | some aim => cases aim <;> rfl

theorem constraints_unread :
    problem.unread.constraints = problem.constraints.map fun entry => (entry.1, entry.2.unread) := by
  unfold constraints
  rw [isObjective_unread]
  exact List.filter_map

theorem row?_unread (key : Value) : problem.unread.row? key = (problem.row? key).map Row.unread := by
  cases key with
  | text key => exact problem.rows.get?_mapItems _ key
  | _ =>
      unfold row? beside? unread
      cases problem.objective with
      | none => rfl
      | some aim => cases aim <;> rfl

theorem objective?_unread :
    problem.unread.objective? = problem.objective?.map fun aim => (aim.1, aim.2.unread) := by
  unfold objective?
  have aims : problem.unread.objective = problem.objective.map Aim.unread := rfl
  rw [aims]
  cases problem.objective with
  | none => rfl
  | some aim =>
      have key : aim.unread.key = aim.key := by cases aim <;> rfl
      simp only [Option.map_some, Option.bind_eq_bind, Option.bind_some, key, row?_unread]
      cases problem.row? aim.key <;> rfl

theorem rejection?_unread : problem.unread.rejection? = problem.rejection? := by
  have columns : problem.unread.columnRejection? = problem.columnRejection? := by
    unfold columnRejection? unread
    rw [Catalog.entries_mapItems, List.findSome?_map]
    rfl
  have direction : problem.unread.directionRejection? = problem.directionRejection? := by
    unfold directionRejection?
    rw [objective?_unread]
    cases problem.objective? <;> rfl
  rw [rejection?, rejection?, columns, direction]

theorem direction?_unread : problem.unread.direction? = problem.direction? := by
  unfold direction?
  rw [objective?_unread]
  cases problem.objective? <;> rfl

theorem numberedCells_unread (row : Row) : problem.unread.numberedCells row = problem.numberedCells row := by
  have found (cell : String × Binary64) :
      (problem.unread.columns.get? cell.1).map (fun column => (column.number, cell.2)) =
        (problem.columns.get? cell.1).map fun column => (column.number, cell.2) := by
    unfold unread
    rw [Catalog.get?_mapItems, Option.map_map]
    rfl
  unfold numberedCells
  simp only [found]

theorem numberedEntries_unread : problem.unread.numberedEntries = problem.numberedEntries := by
  unfold numberedEntries
  rw [constraints_unread, List.flatMap_map]
  simp only [numberedCells_unread]
  rfl

theorem objectiveEntries_unread : problem.unread.objectiveEntries = problem.objectiveEntries := by
  unfold objectiveEntries
  rw [objective?_unread, Option.map_map]
  simp only [numberedCells_unread, Function.comp_def]
  rfl

theorem checkOrder_unread : problem.unread.checkOrder = problem.checkOrder := by
  rw [checkOrder, checkOrder, orderFault?_unread]

theorem flatten_unread : problem.unread.flatten = problem.flatten := by
  rw [flatten, flatten, checkOrder_unread, numberedEntries_unread, objectiveEntries_unread]

theorem formulate_unread (triples : Triples) : problem.unread.formulate triples = problem.formulate triples := by
  have size : problem.unread.columns.size = problem.columns.size := problem.columns.size_mapItems _
  have columns (costs : Array Binary64) :
      problem.unread.columns.entries.mapM (variableOf costs) =
        problem.columns.entries.mapM (variableOf costs) :=
    List.mapM_map
  have constraints (names : Array String) :
      problem.unread.constraints.mapM (constraintOf triples names) =
        problem.constraints.mapM (constraintOf triples names) := by
    rw [constraints_unread, List.mapM_map]
    rfl
  have name : problem.unread.name = problem.name := rfl
  have columnKeys : problem.unread.columns.keys = problem.columns.keys := problem.columns.keys_mapItems _
  have rowKeys : problem.unread.constraints.map (·.1) = problem.constraints.map (·.1) := by
    rw [constraints_unread, List.map_map]
    rfl
  unfold formulate
  rw [size, direction?_unread, name, columnKeys, rowKeys]
  simp only [columns, constraints]

/-- Results of a solve do not come to another. -/
theorem prepare_unread : Solver.prepare problem.unread = Solver.prepare problem := by
  have title : problem.unread.title = problem.title := rfl
  unfold Solver.prepare
  rw [checkOrder_unread, rejection?_unread, title, flatten_unread]
  simp only [formulate_unread]

theorem attributes?_unread (kind : EntityKind) (key : Value) :
    problem.unread.attributes? kind key = (problem.attributes? kind key).map Attributes.unread := by
  cases isRow : kind.isRow with
  | true =>
      rw [attributes?_row _ kind isRow, attributes?_row _ kind isRow, row?_unread, Option.map_map,
        Option.map_map]
      rfl
  | false =>
      cases kind.eq_column isRow
      cases key with
      | text key =>
          rw [attributes?_column, attributes?_column]
          unfold unread
          rw [Catalog.get?_mapItems, Option.map_map, Option.map_map]
          rfl
      | _ => rfl

end Unread

section Renumbered

variable (problem : Problem)

theorem orderFault?_unsolved : problem.unsolved.orderFault? = problem.orderFault? := by
  have size : problem.unsolved.rows.size = problem.unread.rows.size := by
    unfold unsolved unread
    rw [Catalog.size_mapItems, Catalog.size_mapItems]
  have aim : problem.unsolved.objective = problem.unread.objective := rfl
  have same : problem.unsolved.orderFault? = problem.unread.orderFault? := by
    rw [orderFault?, orderFault?, size, aim]
  exact same.trans problem.orderFault?_unread

theorem isObjective_unsolved : problem.unsolved.isObjective = problem.isObjective :=
  problem.isObjective_unread

/-- Numbering looks at nothing that solves write. -/
theorem unread_assignNumbers (inOrder : problem.orderFault? = none) :
    problem.assignNumbers.unread = problem.unsolved.assignNumbers := by
  have stillInOrder := problem.orderFault?_unsolved.trans inOrder
  have columns : problem.assignNumbers.unread.columns = problem.unsolved.assignNumbers.columns := by
    apply Catalog.ext_get?
    intro key
    rw [get?_columns_assignNumbers]
    unfold unread unsolved columnNumber
    rw [Catalog.get?_mapItems, get?_columns_assignNumbers, Catalog.get?_mapItems, Catalog.keys_mapItems,
      Option.map_map, Option.map_map]
    rfl
  have rows : problem.assignNumbers.unread.rows = problem.unsolved.assignNumbers.rows := by
    unfold assignNumbers
    rw [inOrder, stillInOrder, isObjective_unsolved]
    apply Catalog.ext_get?
    intro key
    simp only [unread, unsolved, Option.isSome_none, Bool.false_eq_true, if_false, Catalog.get?_mapItems,
      Catalog.get?_number, Catalog.keys_mapItems, Option.map_map]
    refine congrArg (fun act => (problem.rows.get? key).map act) (funext fun row => ?_)
    -- the objective is not counted and keeps the number that it has
    cases problem.isObjective key <;> rfl
  have unread : problem.assignNumbers.unread =
      { problem.unsolved with columns := problem.assignNumbers.unread.columns, rows := problem.assignNumbers.unread.rows } :=
    rfl
  rw [unread, columns, rows]
  rfl

section Twins

variable (other : Problem) (same : other.unsolved = problem.unsolved)

include same

theorem orderFault?_congr : other.orderFault? = problem.orderFault? := by
  rw [← other.orderFault?_unsolved, same, orderFault?_unsolved]

theorem unread_congr (inOrder : problem.orderFault? = none) :
    other.assignNumbers.unread = problem.assignNumbers.unread := by
  have alsoInOrder := (problem.orderFault?_congr other same).trans inOrder
  rw [other.unread_assignNumbers alsoInOrder, problem.unread_assignNumbers inOrder, same]

theorem attributes?_congr (inOrder : problem.orderFault? = none) (kind : EntityKind) (key : Value) :
    (other.assignNumbers.attributes? kind key).map Attributes.unread =
      (problem.assignNumbers.attributes? kind key).map Attributes.unread := by
  rw [← attributes?_unread, ← attributes?_unread, problem.unread_congr other same inOrder]

/-- Two problems that differ in what solves write are sent to an engine in the same form. -/
theorem prepare_congr : Solver.prepare other.assignNumbers = Solver.prepare problem.assignNumbers := by
  cases fault : problem.orderFault? with
  | none =>
      calc Solver.prepare other.assignNumbers
          = Solver.prepare other.assignNumbers.unread := other.assignNumbers.prepare_unread.symm
        _ = Solver.prepare problem.assignNumbers.unread := by rw [problem.unread_congr other same fault]
        _ = Solver.prepare problem.assignNumbers := problem.assignNumbers.prepare_unread
  | some out =>
      have disordered (unordered : Problem) (isFault : unordered.orderFault? = some out) :
          Solver.prepare unordered.assignNumbers = .error out := by
        unfold Solver.prepare checkOrder
        rw [orderFault?_assignNumbers, isFault]
        rfl
      have alsoFault := (problem.orderFault?_congr other same).trans fault
      rw [disordered other alsoFault, disordered problem fault]

theorem aim_congr : other.objective.map Aim.key = problem.objective.map Aim.key := by
  have key (either : Problem) : either.unsolved.objective.map Aim.key = either.objective.map Aim.key := by
    have unread : Aim.key ∘ Aim.unread = Aim.key := funext fun aim => by cases aim <;> rfl
    show (either.objective.map Aim.unread).map Aim.key = _
    rw [Option.map_map, unread]
  rw [← key, same, key]

end Twins

end Renumbered

end Problem

end LinearProgram
