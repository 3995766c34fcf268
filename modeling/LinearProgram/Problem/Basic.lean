import LinearProgram.Catalog
import LinearProgram.Value.Written

/-!
Linear problems with named columns and rows. Columns and rows stand in catalogues under their keys,
which identify them; a row holds its coefficients under the keys of their columns. At most one row
is the objective of the problem. Attributes that are set without conversion hold any value.

An objective may be named by a value that is no text. It stands beside the rows, since its name has no
place in the order of their keys; a problem with such a name and other rows cannot show its rows. Keys are
put in order run by run: the keys at the head that rise, or fall from each to the next, make a run, which
takes in the keys behind it up to a least length; the next run begins where it ends. While a run is made, a
key is compared with the ones before it in the run, so the first key of a run meets the one after it as the
other side.
-/

namespace LinearProgram

inductive BoundKind where
  | free
  | lower
  | upper
  | fixed
  | ranged
  deriving DecidableEq, Repr

namespace BoundKind

def word : BoundKind → String
  | free => "free"
  | lower => "lower"
  | upper => "upper"
  | fixed => "fixed"
  | ranged => "ranged"

def ofBounds : Value → Value → BoundKind
  | .null, .null => free
  | _, .null => lower
  | .null, _ => upper
  | low, high => if low.equals high then fixed else ranged

end BoundKind

namespace Runs

/-- The least length of a run among so many keys: all of them if they are fewer than 64, else between
32 and 64, so that runs of this length are a power of two in number or a few less. -/
def leastLength (count : Nat) : Nat :=
  if count < 64 then count
  else
    let scale := Nat.pow 2 (Nat.log2 count - 5)
    (count + scale - 1) / scale

def goingOn (falls : Bool) (last : String) : List String → Nat
  | [] => 0
  | next :: rest => if decide (next < last) = falls then goingOn falls next rest + 1 else 0

def headLength : List String → Nat
  | [] => 0
  | [_] => 1
  | first :: second :: rest => goingOn (decide (second < first)) second rest + 2

/-- Whether the key that comes behind these is the first of a run. It belongs to the run before it when
that run goes on up to it, or is still below the least length. -/
def startsRun (least : Nat) : List String → Bool
  | [] => true
  | first :: rest =>
      let inOrder := headLength (first :: rest)
      let taken := max inOrder least
      if inOrder ≤ rest.length && taken ≤ rest.length + 1 then startsRun least (rest.drop (taken - 1))
      else false
  termination_by keys => keys.length
  decreasing_by simp only [List.length_drop, List.length_cons]; omega

end Runs

/-- What columns and rows have in common. A null bound is no bound. The number belongs to one
solve; value and dual come from the last successful one. -/
structure Attributes where
  lower : Value := .null
  upper : Value := .null
  number : Value := .int 0
  value : Value := .float .zero
  dual : Value := .float .zero

structure Column extends Attributes where
  type : Value := .null

/-- A constraint; an objective has a direction besides. A row has no type of its own, but keeps one that
it is given. -/
structure Row extends Attributes where
  direction : Option Value := none
  type : Option Value := none
  cells : Catalog Binary64 := .empty

/-- The row that is the objective: the one under a key, or one beside the rows whose name is no text.
For the latter the keys of the rows that were there when it came are kept, in the order in which they
had come. -/
inductive Aim where
  | row (key : String)
  | beside (name : Value) (row : Row) (earlier : List String)

/-- A problem. The arrivals are the keys of its rows in the order in which they came. -/
structure Problem where
  name : Value := .null
  columns : Catalog Column := .empty
  rows : Catalog Row := .empty
  arrivals : Array String := #[]
  objective : Option Aim := none

instance : Inhabited Problem := ⟨⟨.null, .empty, .empty, #[], none⟩⟩

namespace Aim

def key : Aim → Value
  | row key => .text key
  | beside name .. => name

end Aim

namespace Row

def kind (row : Row) : EntityKind :=
  if row.direction.isSome then .objective else .row

def asColumn? (row : Row) : Option Column :=
  row.type.map fun type => { row.toAttributes with type }

end Row

inductive EntityView where
  | column (key : String) (attributes : Column)
  | row (key : Value) (attributes : Row)

namespace EntityView

def attributes : EntityView → Attributes
  | .column _ found => found.toAttributes
  | .row _ found => found.toAttributes

end EntityView

namespace Problem

def isObjective (problem : Problem) (key : String) : Bool :=
  match problem.objective with
  | some (.row aimed) => aimed == key
  | _ => false

def constraints (problem : Problem) : List (String × Row) :=
  problem.rows.entries.filter fun entry => !problem.isObjective entry.1

def beside? (problem : Problem) : Option (Value × Row) :=
  match problem.objective with
  | some (.beside name row _) => some (name, row)
  | _ => none

/-- The row under a key; a key that is no text can only be the objective's. -/
def row? (problem : Problem) : Value → Option Row
  | .text key => problem.rows.get? key
  | _ => problem.beside?.map (·.2)

def objective? (problem : Problem) : Option (Value × Row) := do
  let aim ← problem.objective
  let row ← problem.row? aim.key
  pure (aim.key, row)

def allRows (problem : Problem) : List (Value × Row) :=
  (problem.rows.entries.map fun (key, row) => (Value.text key, row)) ++ problem.beside?.toList

/-- Why the rows cannot be ordered: a name that is no text is met by a key. The keys are put in order as
they came, run by run, so the name comes first in the comparison unless it is the first of a run
and a key follows it. -/
def orderFault? (problem : Problem) : Option Fault :=
  match problem.objective with
  | some (.beside name _ earlier) =>
      let others := problem.rows.size
      if others = 0 then none
      else
        let met := earlier.length < others && Runs.startsRun (Runs.leastLength (others + 1)) earlier
        match if met then Value.before (.text "") name else Value.before name (.text "") with
        | .error fault => some fault
        | .ok _ => none
  | _ => none

def checkOrder (problem : Problem) : Except Fault Unit :=
  match problem.orderFault? with
  | some fault => .error fault
  | none => .ok ()

def coefficient (problem : Problem) (row : Value) (column : String) : Binary64 :=
  ((problem.row? row).bind (·.cells.get? column)).getD .zero

def view? (problem : Problem) (kind : EntityKind) (key : Value) : Option EntityView :=
  match kind, key with
  | .column, .text key => (problem.columns.get? key).map (.column key)
  | .column, _ => none
  | .row, key | .objective, key => (problem.row? key).map (.row key)

def title (problem : Problem) : Except Fault String :=
  if problem.name.isTruthy then problem.name.written else .ok "problem"

def summary (problem : Problem) : Except Fault String := do
  let name ← problem.name.shown
  pure ("Problem(name=" ++ name ++ ", columns=" ++ toString problem.columns.size ++ ", rows=" ++
    toString problem.allRows.length ++ ")")

end Problem

end LinearProgram
