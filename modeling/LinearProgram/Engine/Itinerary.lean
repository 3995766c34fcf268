import LinearProgram.Engine.Script
import LinearProgram.Solver.Notice

/-!
Itineraries. With its answers known beforehand, everything that a solve does is a list of events:
calls, reads, and what is stored or reported between them. An engine that fails cuts the list short
at the failing event; that event's call is still recorded, and nothing after it happens.
-/

namespace LinearProgram

structure SolverState where
  status : SolveStatus := .notSolved
  objective : Value := .null
  gap : Value := .null
  seconds : Value := .float .zero
  nodes : Int := 0
  iterations : Int := 0
  message : String := ""

inductive Result where
  | value
  | dual
  deriving DecidableEq, Repr

inductive Event where
  | call (call : Call)
  | read (point : Point)
  | stop (fault : Fault)
  | report (notice : Notice)
  | deliver (text : String)
  | record (state : SolverState)
  | store (kind : EntityKind) (key : Value) (result : Result) (x : Value)

inductive Stop where
  | engine (code : Value) (message : String)
  | fault (fault : Fault)

namespace EngineFailure

def stop : EngineFailure → Stop
  | reported code message => .engine code message
  | broken message => .fault (.engineBroke message)

end EngineFailure

namespace Event

def point? : Event → Option Point
  | call c => c.point?
  | read point => some point
  | _ => none

def call? : Event → Option Call
  | call c => some c
  | _ => none

end Event

/-- How far an itinerary went: the events that happened, and the event that ended it early. -/
structure Journey where
  passed : List Event
  ended : Option (Event × Stop)

def travel : Option FailurePoint → List Event → Journey
  | _, [] => ⟨[], none⟩
  | failure, event :: rest =>
      let onward (failure : Option FailurePoint) : Journey :=
        let journey := travel failure rest
        { journey with passed := event :: journey.passed }
      match event, failure with
      | .stop fault, _ => ⟨[], some (event, .fault fault)⟩
      | _, none => onward none
      | _, some failing =>
          if event.point? = some failing.point then
            match failing.skipped with
            | 0 => ⟨[], some (event, failing.failure.stop)⟩
            | skipped + 1 => onward (some { failing with skipped })
          else onward failure

namespace Journey

/-- The calls up to the end, the failing one included. -/
def attempted (journey : Journey) : List Call :=
  journey.passed.filterMap Event.call? ++
    (journey.ended.bind fun (event, _) => event.call?).toList

def opened (journey : Journey) (isOpening : Call → Bool) : Bool :=
  (journey.passed.filterMap Event.call?).any isOpening

def closings (journey : Journey) : List Call :=
  (if journey.opened (fun | .openModel _ => true | _ => false) then [.closeModel] else []) ++
    (if journey.opened (fun | .openEnvironment => true | _ => false) then [.closeEnvironment] else [])

def calls (journey : Journey) : List Call := journey.attempted ++ journey.closings

def notices (journey : Journey) : List Notice :=
  journey.passed.filterMap fun | .report notice => some notice | _ => none

def delivered (journey : Journey) : List String :=
  journey.passed.filterMap fun | .deliver text => some text | _ => none

end Journey

end LinearProgram
