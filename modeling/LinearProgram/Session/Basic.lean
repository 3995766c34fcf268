import LinearProgram.Config.Loader
import LinearProgram.Problem.Listing
import LinearProgram.Solver.Solve
import LinearProgram.Triples.Nested

/-!
Sessions: any number of problems and solvers, and the steps that a program takes on them. A step
answers with a result or a fault; what it changed before a fault stays. A program holds handles of
entities, and a handle may hold nothing, as when a problem without an objective was asked for it.
-/

namespace LinearProgram

structure Session where
  problems : List Problem := []
  solvers : List Solver := []

abbrev Handle := Option EntityRef

def handleValue (handle : Handle) : Value := (handle.map EntityRef.value).getD .null

inductive Field where
  | value
  | dual
  | number
  | lower
  | upper
  | type
  deriving DecidableEq, Repr

namespace Field

def name : Field → String
  | value => "value"
  | dual => "dual"
  | number => "number"
  | lower => "lower_bound"
  | upper => "upper_bound"
  | type => "column_type"

end Field

inductive ConfigChoice where
  | values (config : SolverConfig)
  | source (source : SettingsSource)

inductive Step where
  | problem (name : Value)
  | setName (problem : Nat) (name : Value)
  | column (problem : Nat) (name : Value) (indices : List Value)
  | row (problem : Nat) (name : Value) (indices : List Value)
  | objective (problem : Nat) (name direction : Value)
  | newColumn (problem : Nat) (key : String)
  | newRow (problem : Nat) (key : String)
  | newObjective (problem : Nat) (key : String) (direction : Value)
  | coefficient (problem : Nat) (row column : Handle)
  | columns (problem : Nat)
  | rows (problem : Nat)
  | matrix (problem : Nat)
  | listing (problem : Nat)
  | summary (problem : Nat)
  | display (on : Handle)
  | quote (on : Handle)
  | dump (problem : Nat)
  | setType (on : Handle) (type : Value)
  | setBounds (on : Handle) (lower upper : Value)
  | add (on : Handle) (coefficient target : Value) (indices : List Value)
  | setDirection (on : Handle) (direction : Value)
  | assign (on : Handle) (field : Field) (value : Value)
  | get (on : Handle)
  | less (a b : Handle)
  | same (a b : Handle)
  | columnText (on : Handle)
  | rowText (on : Handle)
  | engineBounds (on : Handle)
  | assignNumbers (problem : Nat)
  | flatten (problem : Nat)
  | rowEntries (problem : Nat) (number : Int)
  | solver (listens : Bool)
  | solverFromConfig (config : ConfigChoice)
  | configure (solver : Nat) (config : ConfigChoice)
  | setPresolve (solver : Nat) (value : Value)
  | setGap (solver : Nat) (value : Value)
  | setTimeLimit (solver : Nat) (value : Value)
  | setCallback (solver : Nat) (listens : Bool)
  | settings (solver : Nat)
  | state (solver : Nat)
  | solve (solver problem : Nat) (engine : Engine)

abbrev MatrixView := List (Value × List (String × Binary64))

namespace Problem

def matrixView (problem : Problem) : MatrixView :=
  problem.allRows.map fun (key, row) => (key, row.cells.entries)

def columnViews (problem : Problem) : List EntityView :=
  problem.columns.entries.map fun (key, column) => .column key column

def rowViews (problem : Problem) : List EntityView :=
  problem.allRows.map fun (key, row) => .row key row

end Problem

inductive Answer where
  | none
  | flag (b : Bool)
  | text (s : String)
  | value (v : Value)
  | bounds (lower upper : Value)
  | entity (ref : EntityRef) (view : EntityView)
  | keys (keys : List Value)
  | matrix (matrix : MatrixView)
  | problem (problem : Problem)
  | numbers (columns rows : List (String × Value))
  | triples (triples : Triples)
  | nestedTriples (triples : NestedTriples)
  | entries (entries : List Triple)
  | nestedEntries (entries : List (NestedNumber × Binary64))
  | settings (settings : Settings)
  | state (state : SolverState)

structure Reply where
  answer : Except Fault Answer
  notices : List Notice := []
  calls : List Call := []
  messages : List String := []

end LinearProgram
