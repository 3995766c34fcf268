import LinearProgram.Engine.Itinerary
import LinearProgram.Solver.Settings
import LinearProgram.Formulation

/-!
The events of a solve, in order: opening the environment and the model, adding variables, direction
and constraints, tuning, optimising with the messages that arrive, reading the status, and then
either reading and storing the solution or reporting that there is none.
-/

namespace LinearProgram

structure Solver where
  settings : Settings := {}
  /-- Whether somebody receives the engine's messages. -/
  listens : Bool := false
  state : SolverState := {}

instance : Inhabited Solver := ⟨{}⟩

namespace Formulation

def openingCalls (listens : Bool) (name : Value) : List Call :=
  [.openEnvironment] ++
    (if listens then [.setParameter "OutputFlag" 1, .setParameter "LogToConsole" 0]
      else [.setParameter "OutputFlag" 0]) ++
    [.start, .openModel name]

def buildingCalls (formulation : Formulation) : List Call :=
  (formulation.columns.map fun v => Call.addVariable v.lower v.upper v.cost v.type v.key) ++
    (formulation.direction.map Call.setSense).toList ++
    formulation.constraints.filterMap Constraint.call?

end Formulation

namespace Settings

def tuningCalls (settings : Settings) : List Call :=
  [.tune "Presolve" (.int (if settings.presolve then -1 else 0)),
    .tune "MIPGap" (.float settings.gap)] ++
    (settings.timeLimit.map fun limit => Call.tune "TimeLimit" (.float limit)).toList

end Settings

namespace Itinerary

def trimmedMessage (text : String) : String :=
  String.ofList ((text.toList.reverse.dropWhile (· == '\n')).reverse)

/-- Each message event is fetched, reported and delivered; other events pass. What was fetched has to
be a text. -/
def messageEvents (messages : List (Value × Value)) : List Event :=
  messages.flatMap fun (kind, message) =>
    if kind.equals Engine.messageEvent then
      .call .fetchMessage ::
        match message with
        | .text text =>
            let trimmed := trimmedMessage text
            [.report (.engineMessage trimmed), .deliver trimmed]
        | other => [.stop (.noSuchMember other.kindName "rstrip")]
    else []

def outward (solver : Solver) (formulation : Formulation) (engine : Engine) : List Event :=
  (Formulation.openingCalls solver.listens formulation.name ++ formulation.buildingCalls ++
      solver.settings.tuningCalls ++ [Call.optimize solver.listens]).map Event.call ++
    (if solver.listens then messageEvents engine.messages else [])

def isMixed (formulation : Formulation) (engine : Engine) : Bool :=
  (engine.mixed (formulation.columns.map (·.type))).isTruthy

def wholeEvents (value : Value) : List Event :=
  match value.toWhole with
  | .ok _ => []
  | .error fault => [.stop fault]

def wholePart (value : Value) : Int :=
  match value.toWhole with
  | .ok n => n
  | .error _ => 0

def answeredState (status : SolveStatus) (formulation : Formulation) (engine : Engine) :
    SolverState :=
  { status, seconds := engine.runtime
    nodes := if isMixed formulation engine then wholePart engine.nodeCount else 0
    iterations := wholePart engine.iterationCount }

def countEvents (state : SolverState) (formulation : Formulation) (engine : Engine) : List Event :=
  [.read .runtime, .read .isMixed] ++
    (if isMixed formulation engine then .read .nodeCount :: wholeEvents engine.nodeCount else []) ++
    .read .iterationCount :: wholeEvents engine.iterationCount ++ [.record state]

/-- Without a solution the status is read once more and written into the message. -/
def unsolvedEvents (title : String) (state : SolverState) (engine : Engine) : List Event :=
  .read .status ::
    match engine.status.written with
    | .ok code =>
        [.record { state with message := "Gurobi status " ++ code },
          .report (.unsolved title state.status)]
    | .error fault => [.stop fault]

def rowValueEvents (engine : Engine) (row : String × Expression) : List Event :=
  .read .expressionValue ::
    match engine.expressionValue row.2 with
    | .ok x => [.store .row (.text row.1) .value x]
    | .error fault => [.stop fault]

/-- Storing values: of the objective, then column by column and row by row, where the first column gets
the value of the first variable and the first row that of the first expression. -/
def valueEvents (objective : Option Value) (formulation : Formulation) (engine : Engine) :
    List Event :=
  (objective.toList.flatMap fun key =>
      [.read .objectiveValue, .store .row key .value engine.objectiveValue]) ++
    ((formulation.columnKeys.zip formulation.columns).flatMap fun (key, v) =>
      [.read .variableValue, .store .column (.text key) .value (engine.variableValue v.key)]) ++
    (formulation.rowKeys.zip (formulation.constraints.map (·.expression))).flatMap
      (rowValueEvents engine)

def priceEvents (engine : Engine) (row : String × Option String) : List Event :=
  match row.2 with
  | some handle => [.read .price, .store .row (.text row.1) .dual (engine.price handle)]
  | none => [.store .row (.text row.1) .dual (.float .zero)]

def dualEvents (formulation : Formulation) (engine : Engine) : List Event :=
  ((formulation.columnKeys.zip formulation.columns).flatMap fun (key, v) =>
      [.read .reducedCost, .store .column (.text key) .dual (engine.reducedCost v.key)]) ++
    (formulation.rowKeys.zip (formulation.constraints.map (·.handle?))).flatMap (priceEvents engine)

def solvedEvents (title : String) (status : SolveStatus) (engine : Engine) : List Event :=
  match engine.objectiveValue.written, engine.runtime.fixedText with
  | .ok objective, .ok seconds => [.report (.solved title status objective seconds)]
  | .error fault, _ | .ok _, .error fault => [.stop fault]

/-- Reading and storing a solution. Duals exist only for continuous models solved to optimality. -/
def readingEvents (objective : Option Value) (state : SolverState) (formulation : Formulation)
    (engine : Engine) : List Event :=
  let mixed := isMixed formulation engine
  let valued := { state with objective := engine.objectiveValue }
  [.read .objectiveValue, .record valued, .read .isMixed] ++
    (if mixed then [.read .gap, .record { valued with gap := engine.gap }] else []) ++
    valueEvents objective formulation engine ++
    .read .isMixed ::
    (if !mixed && state.status = .optimal then dualEvents formulation engine else [])

def solutionEvents (title : String) (objective : Option Value) (state : SolverState)
    (formulation : Formulation) (engine : Engine) : List Event :=
  readingEvents objective state formulation engine ++ solvedEvents title state.status engine

def homeward (title : String) (objective : Option Value) (formulation : Formulation)
    (engine : Engine) : List Event :=
  match SolveStatus.ofCode engine.status engine.solutionCount with
  | .error fault => [.stop fault]
  | .ok status =>
      let state := answeredState status formulation engine
      countEvents state formulation engine ++
        if status.isSuccess then solutionEvents title objective state formulation engine
        else unsolvedEvents title state engine

def events (solver : Solver) (title : String) (objective : Option Value)
    (formulation : Formulation) (engine : Engine) : List Event :=
  outward solver formulation engine ++ [.read .status, .read .solutionCount] ++
    homeward title objective formulation engine

end Itinerary

end LinearProgram
