import LinearProgram.Problem.Build
import LinearProgram.Problem.Numbering
import LinearProgram.Solver.Events

/-!
Solving a problem. The problem is numbered and checked, formulated, sent to the engine call by call,
optimised, and the results are stored on its columns and rows. Each solve opens its own environment
and model and closes both however it ends. A rejection or an engine error becomes a failed state, if
its message can be written; any other fault escapes.
-/

namespace LinearProgram

structure Solved where
  problem : Problem
  solver : Solver
  outcome : Except Fault Bool
  calls : List Call
  messages : List String
  notices : List Notice

namespace Attributes

def setResult (attributes : Attributes) (result : Result) (x : Value) : Attributes :=
  match result with
  | .value => { attributes with value := x }
  | .dual => { attributes with dual := x }

end Attributes

namespace Journey

def storeResults (journey : Journey) (problem : Problem) : Problem :=
  journey.passed.foldl (fun problem event =>
    match event with
    | .store kind key result x =>
        problem.changeAttributes kind key fun attributes => attributes.setResult result x
    | _ => problem) problem

def lastState (journey : Journey) (state : SolverState) : SolverState :=
  journey.passed.foldl (fun state event =>
    match event with
    | .record recorded => recorded
    | _ => state) state

end Journey

namespace Solver

def failedState (rejection : Rejection) : SolverState :=
  { status := .error, message := rejection.message }

def run (solver : Solver) (problem : Problem) (title : String) (formulation : Formulation)
    (engine : Engine) : Solved :=
  let journey := travel engine.failure
    (Itinerary.events solver title (problem.objective.map Aim.key) formulation engine)
  let state := journey.lastState solver.state
  let outcome : Except Fault Bool × SolverState × List Notice :=
    match journey.ended with
    | none => (.ok state.status.isSuccess, state, [])
    | some (_, .fault fault) => (.error fault, state, [])
    | some (_, .engine code message) =>
        let rejection := Rejection.engine code message
        match rejection.check with
        | .ok _ => (.ok false, failedState rejection, [.failed title rejection.message])
        | .error fault => (.error fault, state, [])
  { problem := journey.storeResults problem
    solver := { solver with state := outcome.2.1 }
    outcome := outcome.1
    calls := journey.calls
    messages := journey.delivered
    notices := journey.notices ++ outcome.2.2 }

structure Prepared where
  title : String
  triples : Triples
  formulation : Formulation

/-- Checks that the rows of a numbered problem are in order and that an engine accepts the problem,
and formulates it. What stands in the way is a rejection, unless it is a fault. -/
def prepare (problem : Problem) : Except Fault (Except (String × Rejection) Prepared) := do
  problem.checkOrder
  match problem.rejection? with
  | some rejection =>
      rejection.check
      pure (.error (← problem.title, rejection))
  | none =>
      let triples ← problem.flatten
      let title ← problem.title
      pure (.ok ⟨title, triples, ← problem.formulate triples⟩)

def solve (solver : Solver) (problem : Problem) (engine : Engine) : Solved :=
  let problem := problem.assignNumbers
  match prepare problem with
  | .error fault =>
      { problem, solver, outcome := .error fault, calls := [], messages := [], notices := [] }
  | .ok (.error (title, rejection)) =>
      { problem, solver := { solver with state := failedState rejection }, outcome := .ok false
        calls := [], messages := [], notices := [.failed title rejection.message] }
  | .ok (.ok prepared) =>
      let solved := solver.run problem prepared.title prepared.formulation engine
      { solved with
        notices := .formulated prepared.title problem.columns.size problem.constraints.length
          prepared.triples.size :: solved.notices }

end Solver

end LinearProgram
