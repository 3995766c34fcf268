import LinearProgram.Value.Basic

/-!
The calls that a solve makes on an optimisation engine. Each call, and each attribute read from a
solved model, has a point at which the engine may fail.
-/

namespace LinearProgram

inductive Sense where
  | atMost
  | atLeast
  | equal
  deriving DecidableEq, Repr

namespace Sense

def symbol : Sense → String
  | atMost => "<"
  | atLeast => ">"
  | equal => "="

end Sense

namespace ColumnType

def letter : ColumnType → String
  | float => "C"
  | integer => "I"
  | binary => "B"

end ColumnType

namespace Direction

def senseNumber : Direction → Int
  | minimize => 1
  | maximize => -1

end Direction

abbrev Expression := List (Binary64 × String)

inductive Call where
  | openEnvironment
  | setParameter (name : String) (value : Int)
  | start
  | openModel (name : Value)
  | addVariable (lower upper : Value) (cost : Binary64) (type : ColumnType) (name : String)
  | setSense (direction : Direction)
  | addRange (expression : Expression) (lower upper : Value) (name : String)
  | addConstraint (expression : Expression) (sense : Sense) (bound : Value) (name : String)
  | tune (name : String) (value : Value)
  | optimize (withCallback : Bool)
  | fetchMessage
  | closeModel
  | closeEnvironment

/-- Where the engine may fail: at a call, or at the reading of an attribute. -/
inductive Point where
  | openEnvironment
  | setParameter
  | start
  | openModel
  | addVariable
  | setSense
  | addRange
  | addConstraint
  | tune
  | optimize
  | fetchMessage
  | status
  | solutionCount
  | runtime
  | nodeCount
  | iterationCount
  | isMixed
  | objectiveValue
  | gap
  | variableValue
  | expressionValue
  | reducedCost
  | price
  deriving DecidableEq, Repr

namespace Call

/-- The point of a call. Closing never fails. -/
def point? : Call → Option Point
  | openEnvironment => some .openEnvironment
  | setParameter .. => some .setParameter
  | start => some .start
  | openModel _ => some .openModel
  | addVariable .. => some .addVariable
  | setSense _ => some .setSense
  | addRange .. => some .addRange
  | addConstraint .. => some .addConstraint
  | tune .. => some .tune
  | optimize _ => some .optimize
  | fetchMessage => some .fetchMessage
  | closeModel | closeEnvironment => none

end Call

end LinearProgram
