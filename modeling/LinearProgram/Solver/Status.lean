import LinearProgram.Value.Numeric

/-!
Outcomes of a solve. An engine reports a status code and a count of solutions; four codes have a
meaning of their own, nine say that the search stopped early, and the rest are errors. The count
matters only after an early stop.
-/

namespace LinearProgram

inductive SolveStatus where
  | notSolved
  | optimal
  | feasible
  | infeasible
  | unbounded
  | infeasibleOrUnbounded
  | noSolution
  | error
  deriving DecidableEq, Repr

namespace SolveStatus

def word : SolveStatus → String
  | notSolved => "NOT_SOLVED"
  | optimal => "OPTIMAL"
  | feasible => "FEASIBLE"
  | infeasible => "INFEASIBLE"
  | unbounded => "UNBOUNDED"
  | infeasibleOrUnbounded => "INF_OR_UNBD"
  | noSolution => "NO_SOLUTION"
  | error => "ERROR"

def all : List SolveStatus :=
  [notSolved, optimal, feasible, infeasible, unbounded, infeasibleOrUnbounded, noSolution, error]

def ofWord (word : String) : Except Fault SolveStatus :=
  match all.find? (·.word == word) with
  | some status => .ok status
  | none => .error (.notStatus word)

def isSuccess : SolveStatus → Bool
  | optimal | feasible => true
  | _ => false

def settledCodes : List (Int × SolveStatus) :=
  [(2, optimal), (3, infeasible), (5, unbounded), (4, infeasibleOrUnbounded)]

/-- The codes of a search that a limit, an interruption or lack of accuracy ended: suboptimal, time,
nodes, solutions, iterations, interrupted, objective, work, memory. -/
def limitCodes : List Int := [13, 9, 8, 10, 7, 11, 15, 16, 17]

def ofCode (code solutions : Value) : Except Fault SolveStatus :=
  if !code.isKey then .error (.notHashable code.kindName)
  else match settledCodes.find? fun entry => code.equals (.int entry.1) with
    | some (_, status) => .ok status
    | none =>
        if limitCodes.any fun limit => code.equals (.int limit) then do
          let count ← solutions.comparable ">" "int"
          pure (if Number.less (.int 0) count then feasible else noSolution)
        else .ok error

end SolveStatus

end LinearProgram
