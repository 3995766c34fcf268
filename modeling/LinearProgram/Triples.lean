import LinearProgram.Problem.Basic
import LinearProgram.Value.Numeric

/-!
The coefficients as triples of row number, column number and value, row after row; those of the
objective stand apart as pairs. Row and column numbers are signed words of 64 bits. A row's triples
are found by a search for its number, which supposes that the row numbers ascend.
-/

namespace LinearProgram

structure Triple where
  row : Int
  column : Int
  value : Binary64
  deriving DecidableEq

structure Triples where
  entries : Array Triple
  objective : List (Value × Binary64)

/-- The first index from `low` on, within a span, at which a test that holds up to some index fails:
the middle entry tells which half to search. -/
def partitionPoint {α : Type} (test : α → Bool) (entries : Array α) (low span : Nat) : Nat :=
  if _h : span = 0 then low
  else
    let half := span / 2
    match entries[low + half]? with
    | none => low
    | some entry =>
        if test entry then partitionPoint test entries (low + half + 1) (span - half - 1)
        else partitionPoint test entries low half
  termination_by span

/-- How a row number compares with a whole number. With a number that only an unsigned word of 64
bits holds it is compared as the nearest binary64 number, with any other exactly. -/
def compareRow (row number : Int) : Ordering :=
  if Value.wordEnd ≤ number ∧ number < 2 * Value.wordEnd then
    ((Number.float (.ofInt row)).compare? (.float (.ofInt number))).getD .eq
  else compare row number

/-- Where a number is looked up among ascending ones: the first index whose number is not below it, and
the first whose number is above it. -/
structure Search where
  left : Array Int → Int → Nat
  right : Array Int → Int → Nat

namespace Search

def binary : Search where
  left numbers number := partitionPoint (compareRow · number == .lt) numbers 0 numbers.size
  right numbers number := partitionPoint (compareRow · number != .gt) numbers 0 numbers.size

def rowSlice {α : Type} (search : Search) (row : α → Int) (entries : Array α) (number : Int) : List α :=
  let rows := entries.map row
  (entries.extract (search.left rows number) (search.right rows number)).toList

end Search

namespace Triples

def size (triples : Triples) : Nat := triples.entries.size

def rowEntries (search : Search) (triples : Triples) (number : Int) : List Triple :=
  search.rowSlice Triple.row triples.entries number

end Triples

namespace Problem

def numberedCells (problem : Problem) (row : Row) : List (Value × Binary64) :=
  row.cells.entries.filterMap fun (key, x) =>
    (problem.columns.get? key).map fun column => (column.number, x)

def numberedEntries (problem : Problem) : List (Value × Value × Binary64) :=
  problem.constraints.flatMap fun (_, row) =>
    (problem.numberedCells row).map fun (column, x) => (row.number, column, x)

def objectiveEntries (problem : Problem) : List (Value × Binary64) :=
  (problem.objective?.map fun (_, row) => problem.numberedCells row).getD []

/-- The coefficients by the numbers that rows and columns have now, none of them a list. Row numbers
are taken before column numbers, so a bad one among them is met first. -/
def flatten (problem : Problem) : Except Fault Triples := do
  problem.checkOrder
  let cells := problem.numberedEntries
  let rowNumbers ← cells.mapM fun cell => cell.1.toWord
  let columnNumbers ← cells.mapM fun cell => cell.2.1.toWord
  let entries := (rowNumbers.zip columnNumbers).zip cells |>.map fun ((row, column), cell) =>
    (⟨row, column, cell.2.2⟩ : Triple)
  pure ⟨entries.toArray, problem.objectiveEntries⟩

end Problem

end LinearProgram
