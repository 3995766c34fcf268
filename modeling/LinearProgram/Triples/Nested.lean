import LinearProgram.Triples

/-!
Coefficients of rows and columns whose numbers are lists. Such numbers have to fill a box: at each
depth all of them are lists of one size or none is a list. Whether they do is settled before any of
them is converted. Coefficients cannot be looked up by a row number that is a list.
-/

namespace LinearProgram

inductive NestedNumber where
  | whole (n : Int)
  | list (items : List NestedNumber)

structure NestedTriples where
  rows : List NestedNumber
  columns : List NestedNumber
  values : List Binary64
  objective : List (Value × Binary64)

namespace Value

def items? : Value → Option (List Value)
  | list items => some items
  | _ => none

mutual

def toNested : Value → Except Fault NestedNumber
  | list items => (nestedItems items).map .list
  | value => value.toWord.map .whole

def nestedItems : List Value → Except Fault (List NestedNumber)
  | [] => .ok []
  | item :: rest => do pure ((← toNested item) :: (← nestedItems rest))

end

end Value

namespace NestedNumber

def depthLimit : Nat := 64

/-- Checks that the values at one depth, and at so many depths below it, fill a box. The extents are
the sizes of the lists above. -/
def checkBox : Nat → List Nat → List Value → Except Fault Unit
  | left, extents, values =>
      match values.filterMap Value.items? with
      | [] => .ok ()
      | first :: others =>
          match left with
          | 0 => .error (.numbersTooDeep depthLimit)
          | left + 1 =>
              if others.length + 1 = values.length ∧ others.all (·.length == first.length) then
                checkBox left (extents ++ [first.length]) (first ++ others.flatten)
              else .error (.raggedNumbers extents)

def ofValues (values : List Value) : Except Fault (List NestedNumber) := do
  checkBox depthLimit [] [.list values]
  Value.nestedItems values

def single : NestedNumber → Except Fault Int
  | whole n => .ok n
  | list _ => .error .nestedNumber

end NestedNumber

namespace NestedTriples

def rowEntries (search : Search) (triples : NestedTriples) (number : Int) :
    Except Fault (List (NestedNumber × Binary64)) := do
  let rows ← triples.rows.mapM NestedNumber.single
  let entries := rows.zip (triples.columns.zip triples.values)
  pure ((search.rowSlice (·.1) entries.toArray number).map (·.2))

end NestedTriples

namespace Problem

def hasNestedNumbers (problem : Problem) : Bool :=
  problem.numberedEntries.any fun (row, column, _) => row.items?.isSome || column.items?.isSome

def flattenNested (problem : Problem) : Except Fault NestedTriples := do
  problem.checkOrder
  let entries := problem.numberedEntries
  let rows ← NestedNumber.ofValues (entries.map (·.1))
  let columns ← NestedNumber.ofValues (entries.map (·.2.1))
  pure { rows, columns, values := entries.map (·.2.2), objective := problem.objectiveEntries }

end Problem

end LinearProgram
