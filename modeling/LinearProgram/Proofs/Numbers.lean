import LinearProgram.Proofs.Entities
import LinearProgram.Problem.Numbering
import Mathlib.Data.List.Basic

/-!
Numbers after numbering. The number of a counted entry is one more than the position of its key among
the counted keys, whatever number it had before, and nothing else of any entry changes.
-/

namespace LinearProgram

theorem ascending_keys_nodup {α : Type} (entries : List (String × α)) (ascending : Ascending entries) :
    (entries.map (·.1)).Nodup := by
  refine List.pairwise_map.mpr (List.Pairwise.imp ?_ ascending)
  intro before after below same
  exact String.lt_irrefl _ (same ▸ below)

theorem numberEntries_eq_map {α : Type} (counted : String → Bool) (setNumber : Nat → α → α)
    (next : Nat) (entries : List (String × α)) (distinct : (entries.map (·.1)).Nodup) :
    numberEntries counted setNumber next entries =
      entries.map fun entry =>
        (entry.1,
          if counted entry.1 then
            setNumber (((entries.map (·.1)).filter counted).idxOf entry.1 + next) entry.2
          else entry.2) := by
  induction entries generalizing next with
  | nil => rfl
  | cons first rest ih =>
      have fresh := List.nodup_cons.mp distinct
      have later : ∀ entry ∈ rest, first.1 ≠ entry.1 := by
        intro entry member same
        exact fresh.1 (List.mem_map.mpr ⟨entry, member, same.symm⟩)
      simp only [numberEntries, List.map_cons]
      split
      next isCounted =>
        rw [ih (next + 1) fresh.2]
        simp only [isCounted, List.filter_cons_of_pos, List.idxOf_cons_self, Nat.zero_add]
        -- every later key stands one place behind the counted head
        refine congrArg _ (List.map_congr_left fun entry member => ?_)
        have apart : (first.1 == entry.1) = false := beq_false_of_ne (later entry member)
        simp [List.idxOf_cons, apart, Nat.add_comm 1, Nat.add_assoc]
      next notCounted =>
        rw [ih next fresh.2]
        simp [notCounted]

theorem lookup_map_items {α β : Type} (change : String → α → β) (entries : List (String × α))
    (key : String) :
    (entries.map fun entry => (entry.1, change entry.1 entry.2)).lookup key =
      (entries.lookup key).map (change key) := by
  induction entries with
  | nil => rfl
  | cons first rest ih =>
      obtain ⟨name, item⟩ := first
      by_cases same : key = name
      · subst same
        simp
      · simp [List.lookup_cons, beq_false_of_ne same, ih]

theorem lookup_of_fresh {α : Type} (entries : List (String × α)) (key : String)
    (fresh : key ∉ entries.map (·.1)) : entries.lookup key = none := by
  refine List.lookup_eq_none_iff.mpr fun entry member => ?_
  refine bne_iff_ne.mpr fun equal => fresh ?_
  exact List.mem_map.mpr ⟨entry, member, equal.symm⟩

namespace Catalog

variable {α : Type} (catalog : Catalog α)

theorem entries_number (counted : String → Bool) (setNumber : Nat → α → α) :
    (catalog.number counted setNumber).entries =
      catalog.entries.map fun entry =>
        (entry.1,
          if counted entry.1 then
            setNumber ((catalog.keys.filter counted).idxOf entry.1 + 1) entry.2
          else entry.2) :=
  numberEntries_eq_map counted setNumber 1 catalog.entries
    (ascending_keys_nodup _ catalog.ascending)

theorem get?_number (counted : String → Bool) (setNumber : Nat → α → α) (key : String) :
    (catalog.number counted setNumber).get? key =
      (catalog.get? key).map fun item =>
        if counted key then setNumber ((catalog.keys.filter counted).idxOf key + 1) item
        else item := by
  simp only [get?, entries_number]
  exact lookup_map_items
    (fun key item =>
      if counted key then setNumber ((catalog.keys.filter counted).idxOf key + 1) item else item)
    catalog.entries key

end Catalog

namespace Problem

variable (problem : Problem)

def columnNumber (key : String) : Nat := problem.columns.keys.idxOf key + 1

def constraintNumber (key : String) : Nat := (problem.constraints.map (·.1)).idxOf key + 1

theorem get?_columns_assignNumbers (key : String) :
    problem.assignNumbers.columns.get? key =
      (problem.columns.get? key).map fun column =>
        { column with number := .int (problem.columnNumber key) } := by
  simp [assignNumbers, Catalog.get?_number, columnNumber, List.filter_true]

theorem columns_assignNumbers :
    problem.assignNumbers.columns.entries =
      problem.columns.entries.map fun entry =>
        (entry.1, { entry.2 with number := .int (problem.columnNumber entry.1) }) := by
  simp [assignNumbers, Catalog.entries_number, columnNumber, List.filter_true]

theorem keys_constraints :
    problem.constraints.map (·.1) = problem.rows.keys.filter fun key => !problem.isObjective key := by
  simp [constraints, Catalog.keys, List.filter_map, Function.comp_def]

theorem rows_assignNumbers (inOrder : problem.orderFault? = none) :
    problem.assignNumbers.rows.entries =
      problem.rows.entries.map fun entry =>
        (entry.1,
          if !problem.isObjective entry.1 then
            { entry.2 with number := .int (problem.constraintNumber entry.1) }
          else entry.2) := by
  simp [assignNumbers, inOrder, Catalog.entries_number, constraintNumber, keys_constraints]

theorem constraints_assignNumbers (inOrder : problem.orderFault? = none) :
    problem.assignNumbers.constraints =
      problem.constraints.map fun entry =>
        (entry.1, { entry.2 with number := .int (problem.constraintNumber entry.1) }) := by
  have aim : problem.assignNumbers.isObjective = problem.isObjective := rfl
  unfold constraints
  rw [rows_assignNumbers problem inOrder, List.filter_map, aim]
  refine List.map_congr_left fun entry member => ?_
  have counted := (List.mem_filter.mp member).2
  simp only [Function.comp_apply] at counted
  simp [counted]

-- Numbering changes nothing of a row but its number.
theorem row?_assignNumbers (key : Value) :
    ∃ number : Row → Value, problem.assignNumbers.row? key =
      (problem.row? key).map fun row => { row with number := number row } := by
  cases key with
  | text key =>
      by_cases fault : problem.orderFault?.isSome = true
      · exact ⟨(·.number), by simp [assignNumbers, fault]⟩
      · refine ⟨fun row =>
          if !problem.isObjective key then .int (problem.constraintNumber key) else row.number, ?_⟩
        simp only [row?_text, assignNumbers, fault, Bool.false_eq_true, if_false,
          Catalog.get?_number, constraintNumber, keys_constraints]
        refine congrArg (fun change => (problem.rows.get? key).map change) (funext fun row => ?_)
        split <;> simp
  | _ => exact ⟨(·.number), (congrFun Option.map_id _).symm⟩

theorem row_attributes?_assignNumbers (kind : EntityKind) (isRow : kind.isRow = true) (key : Value) :
    ∃ number : Value, problem.assignNumbers.attributes? kind key =
      (problem.attributes? kind key).map fun attributes => { attributes with number } := by
  obtain ⟨number, found⟩ := row?_assignNumbers problem key
  rw [attributes?_row _ kind isRow, attributes?_row _ kind isRow, found]
  cases problem.row? key with
  | none => exact ⟨.null, rfl⟩
  | some row => exact ⟨number row, rfl⟩

-- Numbering changes nothing of what columns and rows have in common but their numbers.
theorem attributes?_assignNumbers (kind : EntityKind) (key : Value) :
    ∃ number : Value, problem.assignNumbers.attributes? kind key =
      (problem.attributes? kind key).map fun attributes => { attributes with number } := by
  cases kind with
  | column =>
      cases key with
      | text key =>
          refine ⟨.int (problem.columnNumber key), ?_⟩
          rw [attributes?_column, attributes?_column, get?_columns_assignNumbers, Option.map_map,
            Option.map_map]
          rfl
      | _ => exact ⟨.null, rfl⟩
  | row => exact row_attributes?_assignNumbers problem .row rfl key
  | objective => exact row_attributes?_assignNumbers problem .objective rfl key

theorem valueOf_assignNumbers (kind : EntityKind) (key : Value) :
    problem.assignNumbers.valueOf kind key = problem.valueOf kind key := by
  obtain ⟨number, found⟩ := attributes?_assignNumbers problem kind key
  simp only [valueOf, found, Option.map_map]
  rfl

theorem dualOf_assignNumbers (kind : EntityKind) (key : Value) :
    problem.assignNumbers.dualOf kind key = problem.dualOf kind key := by
  obtain ⟨number, found⟩ := attributes?_assignNumbers problem kind key
  simp only [dualOf, found, Option.map_map]
  rfl

end Problem

end LinearProgram
