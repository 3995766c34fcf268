import LinearProgram.Proofs.Numbers
import Mathlib.Data.List.Nodup

/-!
Problems that are built from lists. Entries with different keys that are put into an empty catalogue one after
another are its entries; terms that are added to a row become its cells, and rows that are added to a problem its
rows.
-/

namespace LinearProgram

namespace Catalog

variable {α : Type}

def fill (catalog : Catalog α) (entries : List (String × α)) : Catalog α :=
  entries.foldl (fun filled entry => filled.insert entry.1 entry.2) catalog

variable (catalog : Catalog α) (entries others : List (String × α))

@[simp] theorem fill_nil : catalog.fill [] = catalog := rfl

@[simp] theorem fill_cons (entry : String × α) :
    catalog.fill (entry :: entries) = (catalog.insert entry.1 entry.2).fill entries := rfl

theorem fill_append : catalog.fill (entries ++ others) = (catalog.fill entries).fill others :=
  List.foldl_append

theorem get?_fill (distinct : (entries.map (·.1)).Nodup) (key : String) (item : α) :
    (catalog.fill entries).get? key = some item ↔
      (key, item) ∈ entries ∨ key ∉ entries.map (·.1) ∧ catalog.get? key = some item := by
  induction entries generalizing catalog with
  | nil => simp
  | cons entry rest ih =>
      obtain ⟨name, first⟩ := entry
      obtain ⟨absent, distinct⟩ := List.nodup_cons.mp distinct
      rw [fill_cons, ih _ distinct, get?_insert]
      by_cases here : key = name
      · subst here
        have outside : (key, item) ∉ rest := fun inside => absent (List.mem_map.mpr ⟨_, inside, rfl⟩)
        simp only [if_true, Option.some.injEq, List.mem_cons, Prod.mk.injEq, true_and, List.map_cons, true_or,
          not_true_eq_false, false_and, or_false, outside, false_or]
        exact ⟨fun found => found.2.symm, fun same => ⟨absent, same.symm⟩⟩
      · simp [here]

theorem mem_fill (distinct : (entries.map (·.1)).Nodup) (key : String) (item : α) :
    ((empty : Catalog α).fill entries).get? key = some item ↔ (key, item) ∈ entries := by
  simp [get?_fill _ _ distinct]

theorem contains_fill (distinct : (entries.map (·.1)).Nodup) (key : String) :
    ((empty : Catalog α).fill entries).contains key = true ↔ key ∈ entries.map (·.1) := by
  simp [contains, Option.isSome_iff_exists, mem_fill _ distinct]

-- The entries of the catalogue are those that were put in, in the order of their keys.
theorem entries_fill (distinct : (entries.map (·.1)).Nodup) :
    ((empty : Catalog α).fill entries).entries.Perm entries := by
  have once := (ascending_keys_nodup _ ((empty : Catalog α).fill entries).ascending).of_map
  refine (List.perm_ext_iff_of_nodup once (List.Nodup.of_map _ distinct)).mpr fun entry => ?_
  rw [mem_entries_iff, mem_fill _ distinct]

theorem modify_modify (key : String) (first second : α → α) :
    (catalog.modify key first).modify key second = catalog.modify key (second ∘ first) := by
  refine ext_get? fun other => ?_
  simp only [get?_modify]
  split <;> simp

theorem modify_insert (key : String) (item : α) (change : α → α) :
    (catalog.insert key item).modify key change = catalog.insert key (change item) := by
  refine ext_get? fun other => ?_
  simp only [get?_modify, get?_insert]
  split <;> simp

end Catalog

namespace Problem

variable (problem : Problem)

def fillRow (key : String) (terms : List (String × Binary64)) : Problem :=
  problem.changeRow (.text key) fun row => { row with cells := row.cells.fill terms }

def addRows (rows : List (String × Row)) : Problem :=
  rows.foldl (fun added entry => added.addRow entry.1 entry.2) problem

theorem fillRow_nil (key : String) : problem.fillRow key [] = problem := by
  have same : problem.rows.modify key (fun row => { row with cells := row.cells.fill [] }) = problem.rows :=
    problem.rows.modify_self key _ fun _ _ => rfl
  simp only [fillRow, changeRow, same]

theorem fillRow_fillRow (key : String) (terms others : List (String × Binary64)) :
    (problem.fillRow key terms).fillRow key others = problem.fillRow key (terms ++ others) := by
  simp only [fillRow, changeRow, Catalog.modify_modify, Function.comp_def, Catalog.fill_append]

theorem fillRow_addRow (key : String) (row : Row) (terms : List (String × Binary64)) :
    (problem.addRow key row).fillRow key terms =
      problem.addRow key { row with cells := row.cells.fill terms } := by
  simp only [fillRow, changeRow, addRow, Catalog.modify_insert]

theorem rows_addRows (rows : List (String × Row)) : (problem.addRows rows).rows = problem.rows.fill rows := by
  induction rows generalizing problem with
  | nil => rfl
  | cons entry rest ih => exact ih _

theorem addRows_frame (rows : List (String × Row)) :
    (problem.addRows rows).name = problem.name ∧ (problem.addRows rows).columns = problem.columns ∧
      (problem.addRows rows).objective = problem.objective := by
  induction rows generalizing problem with
  | nil => exact ⟨rfl, rfl, rfl⟩
  | cons entry rest ih => exact ih _

theorem contains_addRow (key other : String) (row : Row) :
    (problem.addRow key row).rows.contains other = (decide (other = key) || problem.rows.contains other) :=
  problem.rows.contains_insert key other row

section Folds

variable {ι : Type} (act : Problem → ι → Except Fault Problem) (items : List ι) (columns : Catalog Column)

-- Steps that each add terms to one row of a problem add them all.
theorem foldlM_fillRow (key : String) (terms : ι → List (String × Binary64))
    (each : ∀ item ∈ items, ∀ before : Problem, before.columns = columns →
      act before item = .ok (before.fillRow key (terms item)))
    (same : problem.columns = columns) :
    items.foldlM act problem = .ok (problem.fillRow key (items.flatMap terms)) := by
  induction items generalizing problem with
  | nil => exact congrArg Except.ok (problem.fillRow_nil key).symm
  | cons item rest ih =>
      rw [List.foldlM_cons, each item List.mem_cons_self problem same, List.flatMap_cons, ← fillRow_fillRow]
      exact ih _ (fun item inside => each item (List.mem_cons_of_mem _ inside)) same

-- Steps that each add a new row to a problem add them all, if the rows have different keys.
theorem foldlM_addRow (row : ι → String × Row)
    (each : ∀ item ∈ items, ∀ before : Problem, before.columns = columns →
      before.rows.contains (row item).1 = false →
        act before item = .ok (before.addRow (row item).1 (row item).2))
    (distinct : (items.map fun item => (row item).1).Nodup)
    (fresh : ∀ item ∈ items, problem.rows.contains (row item).1 = false) (same : problem.columns = columns) :
    items.foldlM act problem = .ok (problem.addRows (items.map row)) := by
  induction items generalizing problem with
  | nil => rfl
  | cons item rest ih =>
      obtain ⟨absent, distinct⟩ := List.nodup_cons.mp distinct
      rw [List.foldlM_cons, each item List.mem_cons_self problem same (fresh item List.mem_cons_self)]
      refine ih _ (fun item inside => each item (List.mem_cons_of_mem _ inside)) distinct ?_ same
      intro other inside
      have different : (row other).1 ≠ (row item).1 := fun equal =>
        absent (List.mem_map.mpr ⟨other, inside, equal⟩)
      rw [contains_addRow, fresh other (List.mem_cons_of_mem _ inside), decide_eq_false different]
      rfl

end Folds

end Problem

end LinearProgram
