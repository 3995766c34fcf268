import LinearProgram.Catalog.Lemmas
import LinearProgram.Problem.Build

/-!
Look-ups after each change of a problem. A change is described by the entities that it touches: two
keys lead to one entity when they are the same key, and all keys that are no text lead to the
objective beside the rows.
-/

namespace LinearProgram

namespace Catalog

variable {α : Type}

theorem contains_insert (catalog : Catalog α) (key other : String) (item : α) :
    (catalog.insert key item).contains other = (decide (other = key) || catalog.contains other) := by
  by_cases same : other = key <;> simp [contains, get?_insert, same]

theorem contains_of_get? (catalog : Catalog α) (key : String) (item : α)
    (found : catalog.get? key = some item) : catalog.contains key = true := by
  simp [contains, found]

theorem forall_get?_iff (catalog : Catalog α) (holds : String → α → Prop) :
    (∀ key item, catalog.get? key = some item → holds key item) ↔
      ∀ entry ∈ catalog.entries, holds entry.1 entry.2 := by
  constructor
  · intro all entry member
    exact all entry.1 entry.2 ((mem_entries_iff catalog _ _).mp member)
  · intro all key item found
    exact all (key, item) ((mem_entries_iff catalog key item).mpr found)

instance (catalog : Catalog α) (holds : String → α → Prop) [∀ key item, Decidable (holds key item)] :
    Decidable (∀ key item, catalog.get? key = some item → holds key item) :=
  decidable_of_iff _ (forall_get?_iff catalog holds).symm

theorem get?_of_not_contains (catalog : Catalog α) (key : String)
    (absent : ¬ catalog.contains key = true) : catalog.get? key = none := by
  simpa [contains] using absent

end Catalog

namespace Problem

variable (problem : Problem)

@[simp] theorem row?_text (key : String) : problem.row? (.text key) = problem.rows.get? key := rfl

theorem row?_changeRow (key other : Value) (change : Row → Row) :
    (problem.changeRow key change).row? other =
      if other.sameKey key then (problem.row? other).map change else problem.row? other := by
  cases key with
  | text key =>
      cases other with
      | text other =>
          by_cases same : other = key <;> simp [changeRow, Value.sameKey, Catalog.get?_modify, same]
      | _ => rfl
  | _ =>
      cases aimed : problem.objective with
      | none => cases other <;> simp [changeRow, row?, Value.sameKey, aimed, beside?]
      | some aim =>
          cases aim <;> cases other <;> simp [changeRow, row?, Value.sameKey, aimed, beside?]

@[simp] theorem columns_changeRow (key : Value) (change : Row → Row) :
    (problem.changeRow key change).columns = problem.columns := by
  unfold changeRow
  split
  · rfl
  · split <;> rfl

theorem attributes?_column (key : String) :
    problem.attributes? .column (.text key) = (problem.columns.get? key).map (·.toAttributes) := by
  simp [attributes?, view?, EntityView.attributes, Option.map_map, Function.comp_def]

theorem attributes?_row (kind : EntityKind) (isRow : kind.isRow = true) (key : Value) :
    problem.attributes? kind key = (problem.row? key).map (·.toAttributes) := by
  cases kind with
  | column => simp [EntityKind.isRow] at isRow
  | row => simp [attributes?, view?, EntityView.attributes, Option.map_map, Function.comp_def]
  | objective => simp [attributes?, view?, EntityView.attributes, Option.map_map, Function.comp_def]

def valueOf (kind : EntityKind) (key : Value) : Option Value :=
  (problem.attributes? kind key).map (·.value)

def dualOf (kind : EntityKind) (key : Value) : Option Value :=
  (problem.attributes? kind key).map (·.dual)

theorem attributes?_of_column (key : String) (column : Column)
    (found : problem.columns.get? key = some column) :
    problem.attributes? .column (.text key) = some column.toAttributes := by
  rw [attributes?_column, found, Option.map_some]

theorem attributes?_of_row (kind : EntityKind) (isRow : kind.isRow = true) (key : String) (row : Row)
    (found : problem.rows.get? key = some row) :
    problem.attributes? kind (.text key) = some row.toAttributes := by
  rw [attributes?_row problem kind isRow, row?_text, found, Option.map_some]

def sameEntity (kind other : EntityKind) (key otherKey : Value) : Bool :=
  kind.isRow == other.isRow && key.sameKey otherKey

theorem changeAttributes_row (kind : EntityKind) (isRow : kind.isRow = true) (key : Value)
    (change : Attributes → Attributes) :
    problem.changeAttributes kind key change =
      problem.changeRow key fun row => { row with toAttributes := change row.toAttributes } := by
  cases kind with
  | column => simp [EntityKind.isRow] at isRow
  | row => rfl
  | objective => rfl

theorem attributes?_congr_columns (other : Problem) (same : other.columns = problem.columns)
    (key : Value) : other.attributes? .column key = problem.attributes? .column key := by
  cases key <;> simp [attributes?, view?, same]

theorem attributes?_changeAttributes (kind other : EntityKind) (key otherKey : Value)
    (change : Attributes → Attributes) :
    (problem.changeAttributes kind key change).attributes? other otherKey =
      if sameEntity other kind otherKey key then (problem.attributes? other otherKey).map change
      else problem.attributes? other otherKey := by
  cases isRow : kind.isRow with
  | true =>
      rw [changeAttributes_row problem kind isRow]
      cases otherRow : other.isRow with
      | true =>
          rw [attributes?_row _ other otherRow, attributes?_row _ other otherRow, row?_changeRow]
          simp only [sameEntity, isRow, otherRow, beq_self_eq_true, Bool.true_and]
          split <;> simp [Option.map_map, Function.comp_def]
      | false =>
          have column : other = .column := by cases other <;> simp [EntityKind.isRow] at otherRow ⊢
          subst column
          rw [attributes?_congr_columns problem _ (columns_changeRow problem key _)]
          simp [sameEntity, isRow, otherRow]
  | false =>
      have column : kind = .column := by cases kind <;> simp [EntityKind.isRow] at isRow ⊢
      subst column
      cases otherRow : other.isRow with
      | true =>
          rw [attributes?_row _ other otherRow, attributes?_row _ other otherRow]
          have rows : (problem.changeAttributes .column key change).row? = problem.row? := by
            cases key <;> rfl
          simp [sameEntity, isRow, otherRow, rows]
      | false =>
          have column : other = .column := by cases other <;> simp [EntityKind.isRow] at otherRow ⊢
          subst column
          cases key with
          | text key =>
              cases otherKey with
              | text otherKey =>
                  rw [attributes?_column, attributes?_column]
                  by_cases same : otherKey = key <;>
                    simp [changeAttributes, changeColumn, Catalog.get?_modify, sameEntity,
                      Value.sameKey, same, Option.map_map, Function.comp_def]
              | _ => simp [attributes?, view?, sameEntity, Value.sameKey]
          | _ => cases otherKey <;> simp [changeAttributes, attributes?, view?, sameEntity, Value.sameKey]

end Problem

end LinearProgram
