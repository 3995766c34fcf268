import LinearProgram.Problem.Basic

/-!
Numbers of columns and constraints: one after another from one, in the order of the keys. The
objective is not counted and keeps its number. Rows that cannot be ordered keep theirs.
-/

namespace LinearProgram

def numberEntries {α : Type} (counted : String → Bool) (setNumber : Nat → α → α) :
    Nat → List (String × α) → List (String × α)
  | _, [] => []
  | next, (key, item) :: rest =>
      if counted key then (key, setNumber next item) :: numberEntries counted setNumber (next + 1) rest
      else (key, item) :: numberEntries counted setNumber next rest

theorem keys_numberEntries {α : Type} (counted : String → Bool) (setNumber : Nat → α → α)
    (next : Nat) (entries : List (String × α)) :
    (numberEntries counted setNumber next entries).map (·.1) = entries.map (·.1) := by
  induction entries generalizing next with
  | nil => rfl
  | cons entry rest ih =>
      obtain ⟨key, item⟩ := entry
      simp only [numberEntries]
      split <;> simp [ih]

namespace Catalog

def number {α : Type} (catalog : Catalog α) (counted : String → Bool) (setNumber : Nat → α → α) :
    Catalog α :=
  catalog.mapEntries (numberEntries counted setNumber 1) (keys_numberEntries counted setNumber 1)

end Catalog

namespace Problem

def assignNumbers (problem : Problem) : Problem :=
  { problem with
    columns := problem.columns.number (fun _ => true) fun n column => { column with number := .int n }
    rows :=
      if problem.orderFault?.isSome then problem.rows
      else problem.rows.number (fun key => !problem.isObjective key) fun n row =>
        { row with number := .int n } }

end Problem

end LinearProgram
