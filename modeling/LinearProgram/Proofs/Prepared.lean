import LinearProgram.Proofs.Journeys
import Mathlib.Data.List.Basic

/-!
What a prepared problem is made of. Its variables and constraints stand in the order of its columns and
rows, so what is read back position by position goes to the column and row of the same key.
-/

namespace LinearProgram

def Column.variableType (column : Column) : ColumnType :=
  match column.type with
  | .columnType type => type
  | _ => .float

namespace Formulation

/-- Each result goes to the column or row that its variable or constraint is named after. -/
structure Aligned (formulation : Formulation) : Prop where
  columns : formulation.columnKeys = formulation.columns.map (·.key)
  rows : formulation.rowKeys = formulation.constraints.map (·.key)

variable {formulation : Formulation} (aligned : formulation.Aligned)

include aligned

theorem Aligned.zip_columns :
    formulation.columnKeys.zip formulation.columns = formulation.columns.map fun v => (v.key, v) := by
  have positions : (formulation.columns.map (·.key)).zip (formulation.columns.map id) =
      formulation.columns.map fun v => (v.key, v) := List.zip_map'
  rwa [List.map_id, ← aligned.columns] at positions

theorem Aligned.zip_rows {α : Type} (part : Constraint → α) :
    formulation.rowKeys.zip (formulation.constraints.map part) =
      formulation.constraints.map fun c => (c.key, part c) := by
  rw [aligned.rows]
  exact List.zip_map'

end Formulation

section Prepared

variable (problem : Problem)

/-- A formulation has the columns of its problem, with their types, and its constraints. -/
theorem formulate_keys (triples : Triples) (formulation : Formulation)
    (made : problem.formulate triples = .ok formulation) :
    (formulation.columns.map fun v => (v.key, v.type)) =
        problem.columns.entries.map (fun entry => (entry.1, entry.2.variableType)) ∧
      formulation.constraints.map (·.key) = problem.constraints.map (·.1) ∧
      formulation.columnKeys = problem.columns.keys ∧
      formulation.rowKeys = problem.constraints.map (·.1) := by
  obtain ⟨costs, -, placed⟩ := bind_ok made
  obtain ⟨columns, areColumns, joined⟩ := bind_ok placed
  obtain ⟨constraints, areConstraints, same⟩ := bind_ok joined
  cases same
  refine ⟨?_, ?_, rfl, rfl⟩
  · refine map_of_mapM _ _ _ ?_ _ _ areColumns
    rintro ⟨key, column⟩ v isVariable
    obtain ⟨number, -, numbered⟩ := bind_ok isVariable
    obtain ⟨cost, -, typed⟩ := bind_ok numbered
    cases isType : column.type with
    | columnType type =>
        simp only [isType] at typed
        cases typed
        simp [Column.variableType, isType]
    | _ =>
        simp only [isType] at typed
        cases typed
  · refine map_of_mapM _ _ _ ?_ _ _ areConstraints
    rintro ⟨key, row⟩ constraint isConstraint
    obtain ⟨number, -, written⟩ := bind_ok isConstraint
    obtain ⟨expression, -, same⟩ := bind_ok written
    cases same
    rfl

theorem aligned_of_formulate (triples : Triples) (formulation : Formulation)
    (made : problem.formulate triples = .ok formulation) : formulation.Aligned := by
  obtain ⟨columns, constraints, columnKeys, rowKeys⟩ := formulate_keys problem triples formulation made
  refine ⟨?_, rowKeys.trans constraints.symm⟩
  have keys := congrArg (List.map Prod.fst) columns
  rw [List.map_map, List.map_map] at keys
  exact columnKeys.trans keys.symm

/-- What stands behind a prepared problem: its rows are in order, nothing refuses it, and its parts are
made. -/
theorem prepare_accepted (prepared : Solver.Prepared)
    (isPrepared : Solver.prepare problem = .ok (.ok prepared)) :
    problem.checkOrder = .ok () ∧ problem.rejection? = none ∧ problem.title = .ok prepared.title ∧
      problem.flatten = .ok prepared.triples ∧
      problem.formulate prepared.triples = .ok prepared.formulation := by
  obtain ⟨⟨⟩, ordered, checked⟩ := bind_ok isPrepared
  cases refused : problem.rejection? with
  | some rejection =>
      rw [refused] at checked
      obtain ⟨_, _, titled⟩ := bind_ok checked
      obtain ⟨_, _, rejected⟩ := bind_ok titled
      cases rejected
  | none =>
      rw [refused] at checked
      obtain ⟨triples, isFlat, titled⟩ := bind_ok checked
      obtain ⟨title, isTitle, formulated⟩ := bind_ok titled
      obtain ⟨formulation, isFormulation, same⟩ := bind_ok formulated
      cases same
      exact ⟨ordered, rfl, isTitle, isFlat, isFormulation⟩

theorem aligned_of_prepared (prepared : Solver.Prepared)
    (isPrepared : Solver.prepare problem = .ok (.ok prepared)) : prepared.formulation.Aligned := by
  obtain ⟨-, -, -, -, made⟩ := prepare_accepted problem prepared isPrepared
  exact aligned_of_formulate problem prepared.triples prepared.formulation made

theorem prepare_rejected (title : String) (rejection : Rejection)
    (rejected : Solver.prepare problem = .ok (.error (title, rejection))) :
    problem.rejection? = some rejection := by
  obtain ⟨⟨⟩, -, checked⟩ := bind_ok rejected
  cases refused : problem.rejection? with
  | some other =>
      rw [refused] at checked
      obtain ⟨_, -, titled⟩ := bind_ok checked
      obtain ⟨_, -, same⟩ := bind_ok titled
      cases same
      rfl
  | none =>
      rw [refused] at checked
      obtain ⟨_, -, flattened⟩ := bind_ok checked
      obtain ⟨_, -, formulated⟩ := bind_ok flattened
      obtain ⟨_, -, same⟩ := bind_ok formulated
      cases same

end Prepared

end LinearProgram
