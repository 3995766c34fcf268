import LinearProgram.Engine.Call
import LinearProgram.Value.Numeric

/-!
What an engine answers in a solve: the attributes of the solved model, the results of its variables,
expressions and constraints, the messages that arrive while it optimises, and at most one point from
which on it fails. Any value may be an answer; a step that needs a number of one fails when it is none.
-/

namespace LinearProgram

inductive EngineFailure where
  | reported (code : Value) (message : String)
  | broken (message : String)

/-- The first hits of a point succeed, as many as are skipped; the next one fails. -/
structure FailurePoint where
  point : Point
  skipped : Nat
  failure : EngineFailure

structure Engine where
  status : Value
  solutionCount : Value
  runtime : Value
  nodeCount : Value
  iterationCount : Value
  objectiveValue : Value
  gap : Value
  /-- Whether a model counts as mixed, when it has variables of these types. -/
  mixed : List ColumnType → Value
  variableValue : String → Value
  expressionValue : Expression → Except Fault Value
  reducedCost : String → Value
  price : String → Value
  /-- Kinds of events with what is fetched at them. -/
  messages : List (Value × Value)
  failure : Option FailurePoint

namespace Engine

def messageEvent : Value := .int 6

end Engine

structure Script where
  status : Value := .int 2
  solutionCount : Value := .int 1
  runtime : Value := .float .zero
  nodeCount : Value := .float .zero
  iterationCount : Value := .float .zero
  objectiveValue : Value := .float .zero
  gap : Value := .float .zero
  mixed : Option Value := none
  values : List (String × Value) := []
  reducedCosts : List (String × Value) := []
  prices : List (String × Value) := []
  messages : List (Value × Value) := []
  failure : Option FailurePoint := none

namespace Script

def answer (answers : List (String × Value)) (name : String) : Value :=
  (answers.lookup name).getD (.float .zero)

def evaluate (script : Script) (expression : Expression) : Except Fault Binary64 :=
  expression.foldlM (fun sum (coefficient, name) => do
    pure (sum.add (← (answer script.values name).times coefficient))) .zero

/-- The engine that answers by a script. A model is mixed if it has a variable that is not continuous,
unless the script says otherwise. -/
def engine (script : Script) : Engine where
  status := script.status
  solutionCount := script.solutionCount
  runtime := script.runtime
  nodeCount := script.nodeCount
  iterationCount := script.iterationCount
  objectiveValue := script.objectiveValue
  gap := script.gap
  mixed types := script.mixed.getD (.int (if types.any (· != .float) then 1 else 0))
  variableValue := answer script.values
  expressionValue expression := (script.evaluate expression).map Value.float
  reducedCost := answer script.reducedCosts
  price := answer script.prices
  messages := script.messages
  failure := script.failure

instance : Coe Script Engine := ⟨engine⟩

end Script

end LinearProgram
