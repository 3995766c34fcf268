import LinearProgram.Engine.Call
import LinearProgram.Triples

/-!
A numbered problem in the form that an engine takes: variables with costs, an optional direction,
and the expressions of the constraints. Variables stand in the order of their numbers, so a column
number minus one is the index of its variable.
-/

namespace LinearProgram

structure Variable where
  key : String
  lower : Value
  upper : Value
  cost : Binary64
  type : ColumnType

structure Constraint where
  key : String
  expression : Expression
  lower : Value
  upper : Value

/-- Results go to the columns and rows under the keys, which stand in the order of the variables and of
the constraints. -/
structure Formulation where
  name : Value
  columnKeys : List String
  columns : List Variable
  direction : Option Direction
  rowKeys : List String
  constraints : List Constraint

inductive Rejection where
  | untypedColumn (key : String)
  | badColumnType (key : String) (type : Value)
  | badDirection (key direction : Value)
  | engine (code : Value) (message : String)

namespace Rejection

def message : Rejection → String
  | untypedColumn key => "Column " ++ key ++ " has no column type"
  | badColumnType key type => "Column " ++ key ++ " has invalid column type " ++ type.quoted
  | badDirection key direction =>
      "Objective " ++ key.display ++ " has invalid direction " ++ direction.quoted
  | engine code message => "Gurobi error " ++ code.display ++ ": " ++ message

/-- Fails when the message names an objective that has no text, or shows a value that has none. -/
def check : Rejection → Except Fault Unit
  | untypedColumn _ => .ok ()
  | badColumnType _ type => type.checkShown
  | badDirection key direction => do
      let _ ← key.written
      direction.checkShown
  | engine code _ => code.written.map fun _ => ()

end Rejection

def unbounded (negative : Bool) : Value := .float (.ofRatio negative (Nat.pow 10 100) 1)

namespace Column

/-- The bounds of a column as an engine takes them. A binary column is between zero and one on each
side that has no bound. -/
def engineBounds (column : Column) : Value × Value :=
  let isBinary := match column.type with
    | .columnType .binary => true
    | _ => false
  let lower := match column.lower with
    | .null => if isBinary then .float .zero else .null
    | bound => bound
  let upper := match column.upper with
    | .null => if isBinary then .float (.ofInt 1) else .null
    | bound => bound
  match BoundKind.ofBounds lower upper with
  | .free => (unbounded true, unbounded false)
  | .lower => (lower, unbounded false)
  | .upper => (unbounded true, upper)
  | .fixed => (lower, lower)
  | .ranged => (lower, upper)

end Column

namespace Constraint

def call? (constraint : Constraint) : Option Call :=
  match BoundKind.ofBounds constraint.lower constraint.upper with
  | .free => none
  | .ranged =>
      some (.addRange constraint.expression constraint.lower constraint.upper constraint.key)
  | .lower => some (.addConstraint constraint.expression .atLeast constraint.lower constraint.key)
  | .upper => some (.addConstraint constraint.expression .atMost constraint.upper constraint.key)
  | .fixed => some (.addConstraint constraint.expression .equal constraint.lower constraint.key)

def handle? (constraint : Constraint) : Option String := constraint.call?.map fun _ => constraint.key

end Constraint

def numbered {α : Type} (items : Array α) (number : Int) : Except Fault α :=
  match number with
  | .ofNat (n + 1) =>
      match items[n]? with
      | some item => .ok item
      | none => .error .indexOutOfRange
  | _ => .error .indexOutOfRange

def placeCosts (count : Nat) (pairs : List (Value × Binary64)) : Except Fault (Array Binary64) :=
  pairs.foldlM (fun costs (number, x) => do
    match ← number.toWhole with
    | .ofNat (n + 1) => if n < costs.size then pure (costs.setIfInBounds n x) else .error .indexOutOfRange
    | _ => .error .indexOutOfRange) (Array.replicate count .zero)

namespace Problem

def columnRejection? (problem : Problem) : Option Rejection :=
  problem.columns.entries.findSome? fun (key, column) =>
    match column.type with
    | .columnType _ => none
    | .null => some (.untypedColumn key)
    | type => some (.badColumnType key type)

def directionRejection? (problem : Problem) : Option Rejection := do
  let (key, row) ← problem.objective?
  match row.direction with
  | some (.direction _) | none => none
  | some direction => some (.badDirection key direction)

/-- Why the problem cannot go to an engine; a column comes before the objective. -/
def rejection? (problem : Problem) : Option Rejection :=
  problem.columnRejection?.or problem.directionRejection?

def direction? (problem : Problem) : Option Direction := do
  match (← problem.objective?).2.direction with
  | some (.direction direction) => some direction
  | _ => none

def variableOf (costs : Array Binary64) (entry : String × Column) : Except Fault Variable := do
  let (key, column) := entry
  let cost ← numbered costs (← column.number.toWhole)
  let (lower, upper) := column.engineBounds
  match column.type with
  | .columnType type => pure { key, lower, upper, cost, type }
  | _ => .error (.notHashable column.type.kindName)

def constraintOf (triples : Triples) (names : Array String) (entry : String × Row) :
    Except Fault Constraint := do
  let (key, row) := entry
  let number ← row.number.toWhole
  let expression ← (triples.rowEntries .binary number).mapM fun triple => do
    pure (triple.value, ← numbered names triple.column)
  pure { key, expression, lower := row.lower, upper := row.upper }

def formulate (problem : Problem) (triples : Triples) : Except Fault Formulation := do
  let costs ← placeCosts problem.columns.size triples.objective
  let columns ← problem.columns.entries.mapM (variableOf costs)
  let names := (columns.map (·.key)).toArray
  let constraints ← problem.constraints.mapM (constraintOf triples names)
  pure
    { name := if problem.name.isTruthy then problem.name else .text ""
      columnKeys := problem.columns.keys, columns, direction := problem.direction?
      rowKeys := problem.constraints.map (·.1), constraints }

end Problem

end LinearProgram
