import LinearProgram.Proofs.Arrivals
import Mathlib.Data.List.Basic

/-!
Touches of a problem. A touch names a column and a row, which it creates unless they are there, and writes
some things about them. So touches leave a problem that is decided by what they named and, for each thing,
by what they wrote last.
-/

namespace LinearProgram

structure ColumnChange where
  type? : Option Value := none
  bounds? : Option (Value × Value) := none

structure RowChange where
  bounds? : Option (Value × Value) := none
  cell? : Option (String × Binary64) := none
  direction? : Option Value := none

/-- What a building step does once its names and numbers are read. -/
structure Touch where
  column? : Option (String × ColumnChange) := none
  row? : Option (String × RowChange) := none

namespace ColumnChange

def apply (change : ColumnChange) (column : Column) : Column :=
  { column with
    type := change.type?.getD column.type
    lower := (change.bounds?.map (·.1)).getD column.lower
    upper := (change.bounds?.map (·.2)).getD column.upper }

end ColumnChange

namespace RowChange

def apply (change : RowChange) (row : Row) : Row :=
  { row with
    lower := (change.bounds?.map (·.1)).getD row.lower
    upper := (change.bounds?.map (·.2)).getD row.upper
    direction := change.direction?.or row.direction
    cells := (change.cell?.map fun cell => row.cells.insert cell.1 cell.2).getD row.cells }

end RowChange

section Folding

variable {σ γ κ φ : Type}

-- An item that is made by the first change of it.
theorem foldl_look (act : σ → γ → σ) (look : σ → Option φ) (fresh : φ) (changeAt : γ → Option κ)
    (apply : κ → φ → φ)
    (looks : ∀ state step, look (act state step) =
      ((changeAt step).map fun change => apply change ((look state).getD fresh)).or (look state))
    (steps : List γ) (start : σ) :
    look (steps.foldl act start) =
      if steps.filterMap changeAt = [] then look start
      else some ((steps.filterMap changeAt).foldl (fun item change => apply change item)
        ((look start).getD fresh)) := by
  induction steps generalizing start with
  | nil => rfl
  | cons first rest ih =>
      rw [List.foldl_cons, ih, looks]
      cases isChanged : changeAt first with
      | none =>
          rw [List.filterMap_cons_none isChanged]
          rfl
      | some change =>
          rw [List.filterMap_cons_some isChanged, if_neg (List.cons_ne_nil _ _), List.foldl_cons]
          split
          next none =>
            rw [none]
            rfl
          next some => rfl

-- Lists that are permuted and hold at most one item are the same.
theorem perm_eq_of_length_le_one (first second : List γ) (perm : first.Perm second)
    (few : first.length ≤ 1) : first = second := by
  match first, few with
  | [], _ => exact perm.nil_eq
  | [item], _ => exact (List.perm_singleton.mp perm.symm).symm

end Folding

namespace Touch

def columnAt (touch : Touch) (key : String) : Option ColumnChange :=
  touch.column?.bind fun named => if key = named.1 then some named.2 else none

def rowAt (touch : Touch) (key : String) : Option RowChange :=
  touch.row?.bind fun named => if key = named.1 then some named.2 else none

def aim? (touch : Touch) : Option (String × Value) :=
  touch.row?.bind fun named => named.2.direction?.map fun direction => (named.1, direction)

end Touch

namespace RowChange

def cellAt (column : String) (cell : String × Binary64) : Option Binary64 :=
  if column = cell.1 then some cell.2 else none

end RowChange

section Changes

-- Changes of a column make one change, of what was written last.
theorem foldl_columnChanges (changes : List ColumnChange) (column : Column) :
    changes.foldl (fun column change => change.apply column) column =
      ColumnChange.apply
        { type? := (changes.filterMap ColumnChange.type?).getLast?
          bounds? := (changes.filterMap ColumnChange.bounds?).getLast? } column := by
  induction changes generalizing column with
  | nil => rfl
  | cons first rest ih =>
      rw [List.foldl_cons, ih]
      obtain ⟨type?, bounds?⟩ := first
      cases type? <;> cases bounds? <;> simp only [List.filterMap_cons, List.getLast?_cons] <;>
        cases (rest.filterMap ColumnChange.type?).getLast? <;>
        cases (rest.filterMap ColumnChange.bounds?).getLast? <;> rfl

-- What was written last into a cell stays in it.
theorem get?_foldl_insert (cells : List (String × Binary64)) (catalog : Catalog Binary64)
    (column : String) :
    (cells.foldl (fun catalog cell => catalog.insert cell.1 cell.2) catalog).get? column =
      ((cells.filterMap (RowChange.cellAt column)).getLast?).or (catalog.get? column) := by
  induction cells generalizing catalog with
  | nil => rfl
  | cons first rest ih =>
      rw [List.foldl_cons, ih, Catalog.get?_insert]
      by_cases same : column = first.1 <;>
        simp [RowChange.cellAt, same, List.getLast?_cons]

-- Changes of a row make one change, of what was written last, but for the cells.
theorem foldl_rowChanges (changes : List RowChange) (row : Row) :
    changes.foldl (fun row change => change.apply row) row =
      { RowChange.apply
          { bounds? := (changes.filterMap RowChange.bounds?).getLast?
            direction? := (changes.filterMap RowChange.direction?).getLast? } row with
        cells := (changes.filterMap RowChange.cell?).foldl
          (fun catalog cell => catalog.insert cell.1 cell.2) row.cells } := by
  induction changes generalizing row with
  | nil => rfl
  | cons first rest ih =>
      rw [List.foldl_cons, ih]
      obtain ⟨bounds?, cell?, direction?⟩ := first
      cases bounds? <;> cases cell? <;> cases direction? <;>
        simp only [List.filterMap_cons, List.getLast?_cons] <;>
        cases (rest.filterMap RowChange.bounds?).getLast? <;>
        cases (rest.filterMap RowChange.direction?).getLast? <;> rfl

end Changes

namespace Problem

variable (problem : Problem)

def touchColumn (key : String) (change : ColumnChange) : Problem :=
  (problem.ensureColumn key).changeColumn key change.apply

def touchRow (key : String) (change : RowChange) : Problem :=
  { (problem.ensureRow key).changeRow (.text key) change.apply with
    objective := (change.direction?.map fun _ => .row key).or problem.objective }

def touch (touch : Touch) : Problem :=
  let made := (touch.column?.map fun named => problem.touchColumn named.1 named.2).getD problem
  (touch.row?.map fun named => made.touchRow named.1 named.2).getD made

theorem get?_ensureColumn (key other : String) :
    (problem.ensureColumn key).columns.get? other =
      if other = key then some ((problem.columns.get? key).getD {}) else problem.columns.get? other := by
  unfold ensureColumn
  by_cases present : problem.columns.contains key = true
  · obtain ⟨column, found⟩ := Option.isSome_iff_exists.mp present
    rw [if_pos present, found, Option.getD_some]
    split
    next same => rw [same, found]
    next => rfl
  · rw [if_neg present, problem.columns.get?_of_not_contains key present]
    exact problem.columns.get?_insert key other {}

theorem get?_ensureRow (key other : String) :
    (problem.ensureRow key).rows.get? other =
      if other = key then some ((problem.rows.get? key).getD {}) else problem.rows.get? other := by
  unfold ensureRow addRow
  by_cases present : problem.rows.contains key = true
  · obtain ⟨row, found⟩ := Option.isSome_iff_exists.mp present
    rw [if_pos present, found, Option.getD_some]
    split
    next same => rw [same, found]
    next => rfl
  · rw [if_neg present, problem.rows.get?_of_not_contains key present]
    exact problem.rows.get?_insert key other {}

theorem get?_touchColumn (key other : String) (change : ColumnChange) :
    (problem.touchColumn key change).columns.get? other =
      if other = key then some (change.apply ((problem.columns.get? key).getD {}))
      else problem.columns.get? other := by
  simp only [touchColumn, changeColumn, Catalog.get?_modify, get?_ensureColumn]
  split <;> rfl

theorem rows_touchColumn (key : String) (change : ColumnChange) :
    (problem.touchColumn key change).rows = problem.rows ∧
      (problem.touchColumn key change).name = problem.name ∧
      (problem.touchColumn key change).objective = problem.objective := by
  unfold touchColumn ensureColumn changeColumn
  split <;> exact ⟨rfl, rfl, rfl⟩

theorem get?_touchRow (key other : String) (change : RowChange) :
    (problem.touchRow key change).rows.get? other =
      if other = key then some (change.apply ((problem.rows.get? key).getD {}))
      else problem.rows.get? other := by
  simp only [touchRow, changeRow, Catalog.get?_modify, get?_ensureRow]
  split <;> rfl

theorem columns_touchRow (key : String) (change : RowChange) :
    (problem.touchRow key change).columns = problem.columns ∧
      (problem.touchRow key change).name = problem.name := by
  unfold touchRow ensureRow
  by_cases present : problem.rows.contains key = true <;> simp [present, changeRow, addRow]

theorem get?_columns_touch (touch : Touch) (key : String) :
    (problem.touch touch).columns.get? key =
      ((touch.columnAt key).map fun change => change.apply ((problem.columns.get? key).getD {})).or
        (problem.columns.get? key) := by
  obtain ⟨column?, row?⟩ := touch
  have rows : ∀ made : Problem, ((row?.map fun named => made.touchRow named.1 named.2).getD made).columns =
      made.columns := by
    intro made
    cases row? with
    | none => rfl
    | some named => exact (made.columns_touchRow named.1 named.2).1
  simp only [Problem.touch, rows, Touch.columnAt]
  cases column? with
  | none => rfl
  | some named =>
      simp only [Option.map_some, Option.getD_some, get?_touchColumn, Option.bind_some]
      split
      next same => rw [same]; rfl
      next => rfl

theorem get?_rows_touch (touch : Touch) (key : String) :
    (problem.touch touch).rows.get? key =
      ((touch.rowAt key).map fun change => change.apply ((problem.rows.get? key).getD {})).or
        (problem.rows.get? key) := by
  obtain ⟨column?, row?⟩ := touch
  have columns : ((column?.map fun named => problem.touchColumn named.1 named.2).getD problem).rows =
      problem.rows := by
    cases column? with
    | none => rfl
    | some named => exact (problem.rows_touchColumn named.1 named.2).1
  simp only [Problem.touch, Touch.rowAt]
  cases row? with
  | none => simp [columns]
  | some named =>
      simp only [Option.map_some, Option.getD_some, get?_touchRow, Option.bind_some, columns]
      split
      next same => rw [same]; rfl
      next => rfl

theorem name_touch (touch : Touch) : (problem.touch touch).name = problem.name := by
  obtain ⟨column?, row?⟩ := touch
  cases column? <;> cases row? <;>
    simp [Problem.touch, (rows_touchColumn _ _ _).2.1, (columns_touchRow _ _ _).2]

theorem objective_touch (touch : Touch) :
    (problem.touch touch).objective =
      (touch.aim?.map fun aim => .row aim.1).or problem.objective := by
  obtain ⟨column?, row?⟩ := touch
  cases column? <;> cases row? <;>
    simp [Problem.touch, Touch.aim?, touchRow, (rows_touchColumn _ _ _).2.2, Option.map_map,
      Function.comp_def]

theorem columns_foldl_touch (touches : List Touch) (key : String) :
    (touches.foldl Problem.touch problem).columns.get? key =
      if touches.filterMap (·.columnAt key) = [] then problem.columns.get? key
      else some ((touches.filterMap (·.columnAt key)).foldl (fun column change => change.apply column)
        ((problem.columns.get? key).getD {})) :=
  foldl_look Problem.touch (fun problem => problem.columns.get? key) {} _ ColumnChange.apply
    (fun problem touch => problem.get?_columns_touch touch key) touches problem

theorem rows_foldl_touch (touches : List Touch) (key : String) :
    (touches.foldl Problem.touch problem).rows.get? key =
      if touches.filterMap (·.rowAt key) = [] then problem.rows.get? key
      else some ((touches.filterMap (·.rowAt key)).foldl (fun row change => change.apply row)
        ((problem.rows.get? key).getD {})) :=
  foldl_look Problem.touch (fun problem => problem.rows.get? key) {} _ RowChange.apply
    (fun problem touch => problem.get?_rows_touch touch key) touches problem

theorem name_foldl_touch (touches : List Touch) :
    (touches.foldl Problem.touch problem).name = problem.name := by
  induction touches generalizing problem with
  | nil => rfl
  | cons first rest ih => rw [List.foldl_cons, ih, name_touch]

theorem objective_foldl_touch (touches : List Touch) :
    (touches.foldl Problem.touch problem).objective =
      ((touches.filterMap Touch.aim?).getLast?.map fun aim => .row aim.1).or problem.objective := by
  induction touches generalizing problem with
  | nil => rfl
  | cons first rest ih =>
      rw [List.foldl_cons, ih, objective_touch]
      cases isAim : first.aim? with
      | none =>
          rw [List.filterMap_cons_none isAim]
          rfl
      | some aim =>
          rw [List.filterMap_cons_some isAim, List.getLast?_cons]
          cases (rest.filterMap Touch.aim?).getLast? <;> rfl

end Problem

/-- Two lists of steps name the same columns and rows, and write each thing in the same order. -/
structure SameWrites (ones twos : List Touch) : Prop where
  columns : ∀ key, ones.filterMap (·.columnAt key) = [] ↔ twos.filterMap (·.columnAt key) = []
  rows : ∀ key, ones.filterMap (·.rowAt key) = [] ↔ twos.filterMap (·.rowAt key) = []
  types : ∀ key, (ones.filterMap (·.columnAt key)).filterMap ColumnChange.type? =
    (twos.filterMap (·.columnAt key)).filterMap ColumnChange.type?
  columnBounds : ∀ key, (ones.filterMap (·.columnAt key)).filterMap ColumnChange.bounds? =
    (twos.filterMap (·.columnAt key)).filterMap ColumnChange.bounds?
  rowBounds : ∀ key, (ones.filterMap (·.rowAt key)).filterMap RowChange.bounds? =
    (twos.filterMap (·.rowAt key)).filterMap RowChange.bounds?
  cells : ∀ key column,
    ((ones.filterMap (·.rowAt key)).filterMap RowChange.cell?).filterMap (RowChange.cellAt column) =
      ((twos.filterMap (·.rowAt key)).filterMap RowChange.cell?).filterMap (RowChange.cellAt column)
  aims : ones.filterMap Touch.aim? = twos.filterMap Touch.aim?

section Same

variable (ones twos : List Touch) (same : SameWrites ones twos)

-- The direction of a row was given to it as an objective.
theorem filterMap_direction (touches : List Touch) (key : String) :
    (touches.filterMap (·.rowAt key)).filterMap RowChange.direction? =
      (touches.filterMap Touch.aim?).filterMap fun aim => if key = aim.1 then some aim.2 else none := by
  rw [List.filterMap_filterMap, List.filterMap_filterMap]
  refine List.filterMap_congr fun touch _ => ?_
  unfold Touch.rowAt Touch.aim?
  cases touch.row? with
  | none => rfl
  | some named =>
      by_cases here : key = named.1 <;> cases directed : named.2.direction? <;> simp [here, directed]

include same

/-- Steps that write alike lead to problems that differ in nothing but the order of arrival. -/
theorem forget_foldl_touch (problem : Problem) :
    (ones.foldl Problem.touch problem).forget = (twos.foldl Problem.touch problem).forget := by
  rw [Problem.forget_eq_iff]
  refine ⟨?_, Catalog.ext_get? fun key => ?_, Catalog.ext_get? fun key => ?_, ?_⟩
  · rw [Problem.name_foldl_touch, Problem.name_foldl_touch]
  · rw [Problem.columns_foldl_touch, Problem.columns_foldl_touch]
    simp only [same.columns key, foldl_columnChanges, same.types key, same.columnBounds key]
  · have cells : ∀ start : Catalog Binary64,
        ((ones.filterMap (·.rowAt key)).filterMap RowChange.cell?).foldl
            (fun catalog cell => catalog.insert cell.1 cell.2) start =
          ((twos.filterMap (·.rowAt key)).filterMap RowChange.cell?).foldl
            (fun catalog cell => catalog.insert cell.1 cell.2) start := by
      intro start
      refine Catalog.ext_get? fun column => ?_
      rw [get?_foldl_insert, get?_foldl_insert, same.cells key column]
    rw [Problem.rows_foldl_touch, Problem.rows_foldl_touch]
    simp only [same.rows key, foldl_rowChanges, same.rowBounds key, filterMap_direction, same.aims, cells]
  · rw [Problem.objective_foldl_touch, Problem.objective_foldl_touch, same.aims]

end Same

end LinearProgram
