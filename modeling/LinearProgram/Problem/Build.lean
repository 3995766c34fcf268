import LinearProgram.Problem.Basic
import LinearProgram.Value.Numeric

/-!
Building a problem. A column or row comes into being when it is first named. Creating one under a
key that is taken fails and leaves the problem as it was. A pair of bounds is converted and stored
one after the other, so a bad upper bound leaves the new lower bound in place.
-/

namespace LinearProgram

namespace Attributes

def bound : Value → Except Fault Value
  | .null => .ok .null
  | value => value.toBinary64.map .float

def setBounds (attributes : Attributes) (lower upper : Value) : Attributes × Except Fault Unit :=
  match bound lower with
  | .error fault => (attributes, .error fault)
  | .ok lower =>
      let lowered := { attributes with lower }
      match bound upper with
      | .error fault => (lowered, .error fault)
      | .ok upper => ({ lowered with upper }, .ok ())

end Attributes

namespace Problem

def ensureColumn (problem : Problem) (key : String) : Problem :=
  if problem.columns.contains key then problem
  else { problem with columns := problem.columns.insert key {} }

def addRow (problem : Problem) (key : String) (row : Row) : Problem :=
  { problem with rows := problem.rows.insert key row, arrivals := problem.arrivals.push key }

def ensureRow (problem : Problem) (key : String) : Problem :=
  if problem.rows.contains key then problem else problem.addRow key {}

def createColumn (problem : Problem) (key : String) : Except Fault Problem :=
  if problem.columns.contains key then .error (.keyTaken "Column" key)
  else .ok { problem with columns := problem.columns.insert key {} }

def createRow (problem : Problem) (key : String) (direction : Option Value) :
    Except Fault Problem :=
  if problem.rows.contains key then .error (.keyTaken "Row" key)
  else .ok (problem.addRow key { direction })

/-- A new objective of a problem without one. A text names a new row; another value names an
objective beside the rows, and has to be one that keys can be looked up by. -/
def createObjective (problem : Problem) (name direction : Value) : Except Fault Problem :=
  match problem.objective with
  | some aim => do throw (.objectiveDefined (← aim.key.written))
  | none =>
      match name with
      | .text key =>
          (problem.createRow key (some direction)).map fun created =>
            { created with objective := some (.row key) }
      | name =>
          if name.isKey then
            .ok { problem with
              objective :=
                some (.beside name { direction := some direction } problem.arrivals.toList) }
          else .error (.notHashable name.kindName)

def changeColumn (problem : Problem) (key : String) (change : Column → Column) : Problem :=
  { problem with columns := problem.columns.modify key change }

def changeRow (problem : Problem) (key : Value) (change : Row → Row) : Problem :=
  match key with
  | .text key => { problem with rows := problem.rows.modify key change }
  | _ =>
      match problem.objective with
      | some (.beside name row earlier) =>
          { problem with objective := some (.beside name (change row) earlier) }
      | _ => problem

def setCoefficient (problem : Problem) (row : Value) (column : String) (x : Binary64) : Problem :=
  problem.changeRow row fun r => { r with cells := r.cells.insert column x }

def changeAttributes (problem : Problem) (kind : EntityKind) (key : Value)
    (change : Attributes → Attributes) : Problem :=
  match kind, key with
  | .column, .text key =>
      problem.changeColumn key fun column =>
        { column with toAttributes := change column.toAttributes }
  | .column, _ => problem
  | .row, key | .objective, key =>
      problem.changeRow key fun row => { row with toAttributes := change row.toAttributes }

def attributes? (problem : Problem) (kind : EntityKind) (key : Value) : Option Attributes :=
  (problem.view? kind key).map EntityView.attributes

/-- New bounds on a column or row; what was stored before a fault stays. -/
def setBounds (problem : Problem) (kind : EntityKind) (key : Value) (lower upper : Value) :
    Problem × Except Fault Unit :=
  match problem.attributes? kind key with
  | none => (problem, .ok ())
  | some attributes =>
      let (bounded, outcome) := attributes.setBounds lower upper
      (problem.changeAttributes kind key fun _ => bounded, outcome)

end Problem

end LinearProgram
