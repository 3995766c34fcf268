import LinearProgram.Proofs.Escapes
import LinearProgram.Proofs.Sent

/-!
The plan of a solve: the events that it goes through with an engine that does not fail. It makes the calls
up to the optimisation and fetches messages. From then on it only reads answers and keeps them, before it
concludes with one report.
-/

namespace LinearProgram

namespace Event

def IsReading : Event → Prop
  | .read _ | .stop _ | .record _ | .store .. => True
  | .call _ | .report _ | .deliver _ => False

end Event

def Reads (events : List Event) : Prop := ∀ event ∈ events, event.IsReading

section Homeward

variable (title : String) (objective : Option Value) (formulation : Formulation) (engine : Engine)

theorem reads_nil : Reads [] := by
  intro event member
  cases member

theorem reads_append (events others : List Event) :
    Reads (events ++ others) ↔ Reads events ∧ Reads others :=
  List.forall_mem_append

theorem reads_cons (event : Event) (events : List Event) :
    Reads (event :: events) ↔ event.IsReading ∧ Reads events :=
  List.forall_mem_cons

theorem reads_flatMap {α : Type} (items : List α) (block : α → List Event)
    (each : ∀ item ∈ items, Reads (block item)) : Reads (items.flatMap block) := by
  intro event member
  obtain ⟨item, inside, found⟩ := List.mem_flatMap.mp member
  exact each item inside event found

theorem reads_wholeEvents (value : Value) : Reads (Itinerary.wholeEvents value) := by
  unfold Itinerary.wholeEvents
  split
  · exact reads_nil
  · simp [Reads, Event.IsReading]

theorem reads_countEvents (state : SolverState) :
    Reads (Itinerary.countEvents state formulation engine) := by
  have whole := reads_wholeEvents
  unfold Itinerary.countEvents
  split <;> simp [reads_append, reads_cons, reads_nil, whole, Event.IsReading]

theorem reads_valueEvents : Reads (Itinerary.valueEvents objective formulation engine) := by
  unfold Itinerary.valueEvents
  refine (reads_append _ _).mpr ⟨(reads_append _ _).mpr ⟨?_, ?_⟩, ?_⟩
  · apply reads_flatMap
    intro key _
    simp [reads_cons, reads_nil, Event.IsReading]
  · apply reads_flatMap
    intro column _
    simp [reads_cons, reads_nil, Event.IsReading]
  · apply reads_flatMap
    intro row _
    unfold Itinerary.rowValueEvents
    split <;> simp [reads_cons, reads_nil, Event.IsReading]

theorem reads_dualEvents : Reads (Itinerary.dualEvents formulation engine) := by
  apply (reads_append _ _).mpr
  constructor
  · apply reads_flatMap
    intro column _
    simp [reads_cons, reads_nil, Event.IsReading]
  · apply reads_flatMap
    intro row _
    unfold Itinerary.priceEvents
    split <;> simp [reads_cons, reads_nil, Event.IsReading]

theorem reads_readingEvents (state : SolverState) :
    Reads (Itinerary.readingEvents objective state formulation engine) := by
  have values := reads_valueEvents objective formulation engine
  have duals := reads_dualEvents formulation engine
  unfold Itinerary.readingEvents
  dsimp only
  split <;> split <;> simp [reads_append, reads_cons, reads_nil, values, duals, Event.IsReading]

namespace Itinerary

def conclusion : Event :=
  match SolveStatus.ofCode engine.status engine.solutionCount with
  | .error fault => .stop fault
  | .ok status =>
      if status.isSuccess then
        match engine.objectiveValue.written, engine.runtime.fixedText with
        | .ok objective, .ok seconds => .report (.solved title status objective seconds)
        | .error fault, _ | .ok _, .error fault => .stop fault
      else
        match engine.status.written with
        | .ok _ => .report (.unsolved title status)
        | .error fault => .stop fault

/-- From the optimisation on a solve only reads, before it concludes. -/
theorem homeward_concludes : ∃ reading, homeward title objective formulation engine =
    reading ++ [conclusion title engine] ∧ Reads reading := by
  unfold homeward conclusion
  cases SolveStatus.ofCode engine.status engine.solutionCount with
  | error fault => exact ⟨[], rfl, reads_nil⟩
  | ok status =>
      have counts := reads_countEvents formulation engine (answeredState status formulation engine)
      dsimp only
      by_cases success : status.isSuccess = true
      · rw [if_pos success, if_pos success]
        have reads := reads_readingEvents objective formulation engine
          (answeredState status formulation engine)
        unfold solutionEvents solvedEvents
        refine ⟨_, ?_, (reads_append _ _).mpr ⟨counts, reads⟩⟩
        rw [List.append_assoc]
        cases engine.objectiveValue.written with
        | error fault => rfl
        | ok text => cases engine.runtime.fixedText <;> rfl
      · rw [if_neg success, if_neg success]
        unfold unsolvedEvents
        cases engine.status.written with
        | ok code =>
            refine ⟨_, (List.append_assoc _ [Event.read .status, Event.record _] [_]).symm, ?_⟩
            simp [reads_append, reads_cons, reads_nil, counts, Event.IsReading]
        | error fault =>
            refine ⟨_, (List.append_assoc _ [Event.read .status] [_]).symm, ?_⟩
            simp [reads_append, reads_cons, reads_nil, counts, Event.IsReading]

end Itinerary

end Homeward

inductive Stage where
  | opening
  | building
  | tuning
  | solving
  | closing
  deriving DecidableEq

def Call.stage : Call → Stage
  | openEnvironment | setParameter .. | start | openModel _ => .opening
  | addVariable .. | setSense _ | addRange .. | addConstraint .. => .building
  | tune .. => .tuning
  | optimize _ | fetchMessage => .solving
  | closeModel | closeEnvironment => .closing

section Stages

theorem stage_openingCalls (listens : Bool) (name : Value) (call : Call)
    (member : call ∈ Formulation.openingCalls listens name) : call.stage = .opening := by
  cases listens <;> simp [Formulation.openingCalls] at member <;>
    rcases member with rfl | rfl | rfl | rfl | rfl <;> rfl

theorem stage_buildingCalls (formulation : Formulation) (call : Call)
    (member : call ∈ formulation.buildingCalls) : call.stage = .building := by
  rcases List.mem_append.mp member with first | constraints
  · rcases List.mem_append.mp first with columns | direction
    · obtain ⟨v, -, rfl⟩ := List.mem_map.mp columns
      rfl
    · obtain ⟨direction, -, rfl⟩ := Option.map_eq_some_iff.mp (Option.mem_toList.mp direction)
      rfl
  · obtain ⟨constraint, -, called⟩ := List.mem_filterMap.mp constraints
    unfold Constraint.call? at called
    split at called <;> cases called <;> rfl

theorem stage_tuningCalls (settings : Settings) (call : Call) (member : call ∈ settings.tuningCalls) :
    call.stage = .tuning := by
  rcases List.mem_append.mp member with fixed | limit
  · simp only [List.mem_cons, List.not_mem_nil, or_false] at fixed
    rcases fixed with rfl | rfl <;> rfl
  · obtain ⟨limit, -, rfl⟩ := Option.map_eq_some_iff.mp (Option.mem_toList.mp limit)
    rfl

/-- Up to the optimisation nothing is closed. -/
theorem open_outwardCalls (solver : Solver) (formulation : Formulation) (call : Call)
    (member : call ∈ outwardCalls solver formulation) : call.stage ≠ .closing := by
  unfold outwardCalls at member
  rcases List.mem_append.mp member with early | last
  · rcases List.mem_append.mp early with first | tuning
    · rcases List.mem_append.mp first with opening | building
      · simp [stage_openingCalls _ _ call opening]
      · simp [stage_buildingCalls formulation call building]
    · simp [stage_tuningCalls _ call tuning]
  · cases List.mem_singleton.mp last
    simp [Call.stage]

end Stages

section Calls

theorem calls_reading (events : List Event) (reads : Reads events) :
    events.filterMap Event.call? = [] := by
  apply List.filterMap_eq_nil_iff.mpr
  intro event member
  have reading := reads event member
  cases event with
  | call _ => cases reading
  | _ => rfl

theorem calls_messageEvents (messages : List (Value × Value)) (call : Call)
    (member : call ∈ (Itinerary.messageEvents messages).filterMap Event.call?) : call = .fetchMessage := by
  obtain ⟨event, inside, isCall⟩ := List.mem_filterMap.mp member
  rcases mem_messageEvents messages event inside with rfl | ⟨_, rfl | rfl⟩ | ⟨_, rfl⟩ <;> cases isCall
  rfl

variable (solver : Solver) (title : String) (objective : Option Value) (formulation : Formulation)
  (engine : Engine)

theorem calls_outward : ∃ fetches, (∀ call ∈ fetches, call = Call.fetchMessage) ∧
    (Itinerary.outward solver formulation engine).filterMap Event.call? =
      outwardCalls solver formulation ++ fetches := by
  unfold Itinerary.outward
  rw [List.filterMap_append, filterMap_calls]
  by_cases listens : solver.listens = true
  · rw [if_pos listens]
    exact ⟨_, calls_messageEvents engine.messages, rfl⟩
  · rw [if_neg listens]
    exact ⟨[], by simp, rfl⟩

/-- A solve makes the calls up to the optimisation, and then fetches messages. -/
theorem calls_events : ∃ fetches, (∀ call ∈ fetches, call = Call.fetchMessage) ∧
    (Itinerary.events solver title objective formulation engine).filterMap Event.call? =
      outwardCalls solver formulation ++ fetches := by
  obtain ⟨fetches, only, outward⟩ := calls_outward solver formulation engine
  obtain ⟨reading, homeward, reads⟩ := Itinerary.homeward_concludes title objective formulation engine
  have concludes : [Itinerary.conclusion title engine].filterMap Event.call? = [] := by
    unfold Itinerary.conclusion
    split
    · rfl
    · split <;> split <;> rfl
  refine ⟨fetches, only, ?_⟩
  unfold Itinerary.events
  simp only [List.filterMap_append, outward, homeward, calls_reading reading reads, concludes]
  simp [Event.call?]

end Calls

section Attempted

variable (failure : Option FailurePoint) (events : List Event)

theorem attempted_cons (event : Event) (journey : Journey) :
    Journey.attempted { journey with passed := event :: journey.passed } =
      event.call?.toList ++ journey.attempted := by
  cases isCall : event.call? <;> simp [Journey.attempted, isCall]

-- The failing call is recorded like those before it, so all attempted calls are among the events'.
theorem attempted_within : (travel failure events).attempted <+: events.filterMap Event.call? := by
  rcases travel_cases failure events with ⟨-, whole⟩ | ⟨before, event, after, stop, split, -, -, cut⟩
  · rw [whole]
    simp [Journey.attempted]
  · rw [cut, split, Journey.attempted, List.filterMap_append]
    apply (List.prefix_append_right_inj _).mpr
    cases isCall : event.call? <;> simp [isCall]

/-- A failure cuts the calls short: they begin those that are made without it. -/
theorem attempted_begins : (travel failure events).attempted <+: (travel none events).attempted := by
  induction events generalizing failure with
  | nil => cases failure <;> exact List.prefix_rfl
  | cons event rest ih =>
      by_cases stops : ∃ fault, event = .stop fault
      · obtain ⟨fault, rfl⟩ := stops
        simp only [travel_stop]
        exact List.prefix_rfl
      · have onward := travel_onward event rest fun fault same => stops ⟨fault, same⟩
        rw [onward, attempted_cons]
        rcases travel_event event rest failure with ⟨stop, ended, -⟩ | ⟨-, next, goes, -, -⟩
        · rw [ended]
          exact List.prefix_append _ _
        · rw [goes, attempted_cons]
          exact (List.prefix_append_right_inj _).mpr (ih next)

end Attempted

namespace Solver

variable (solver : Solver) (problem : Problem) (engine : Engine)

/-- The events of a solve with an engine that does not fail. A problem that does not get to the engine has
none. -/
def plan : List Event :=
  match prepare problem.assignNumbers with
  | .ok (.ok prepared) =>
      Itinerary.events solver prepared.title (problem.objective.map Aim.key) prepared.formulation engine
  | _ => []

theorem plan_of_prepared (prepared : Prepared)
    (isPrepared : prepare problem.assignNumbers = .ok (.ok prepared)) :
    solver.plan problem engine = Itinerary.events solver prepared.title
      (problem.objective.map Aim.key) prepared.formulation engine := by
  simp only [plan, isPrepared]

theorem plan_of_unprepared
    (unprepared : ∀ prepared, prepare problem.assignNumbers ≠ .ok (.ok prepared)) :
    solver.plan problem engine = [] := by
  unfold plan
  split
  next prepared isPrepared => exact absurd isPrepared (unprepared prepared)
  next => rfl

def journey : Journey := travel engine.failure (solver.plan problem engine)

theorem journey_of_prepared (prepared : Prepared)
    (isPrepared : prepare problem.assignNumbers = .ok (.ok prepared)) :
    solver.journey problem engine = travel engine.failure (Itinerary.events solver prepared.title
      (problem.objective.map Aim.key) prepared.formulation engine) := by
  rw [journey, plan_of_prepared solver problem engine prepared isPrepared]

theorem journey_nowhere (nothing : solver.plan problem engine = []) :
    solver.journey problem engine = ⟨[], none⟩ := by
  rw [journey, nothing]
  exact travel_passes engine.failure [] (passes_nil engine.failure)

/-- A solve makes the calls of its journey, and leaves a numbered problem with the results that were stored on
the way. -/
theorem solve_goes :
    (solver.solve problem engine).calls = (solver.journey problem engine).calls ∧
      (solver.solve problem engine).problem =
        (solver.journey problem engine).storeResults problem.assignNumbers := by
  by_cases ready : ∃ prepared, prepare problem.assignNumbers = .ok (.ok prepared)
  · obtain ⟨prepared, isPrepared⟩ := ready
    obtain ⟨notice, solved⟩ := solver.solve_of_prepared problem engine prepared isPrepared
    rw [solved, journey_of_prepared solver problem engine prepared isPrepared]
    exact ⟨rfl, rfl⟩
  · have unprepared := fun prepared isPrepared => ready ⟨prepared, isPrepared⟩
    rw [solver.journey_nowhere problem engine (solver.plan_of_unprepared problem engine unprepared)]
    cases isPrepared : prepare problem.assignNumbers with
    | error fault =>
        rw [solver.solve_of_fault problem engine fault isPrepared]
        exact ⟨rfl, rfl⟩
    | ok result =>
        cases result with
        | error rejected =>
            rw [solver.solve_of_rejected problem engine rejected.1 rejected.2 isPrepared]
            exact ⟨rfl, rfl⟩
        | ok prepared => exact absurd isPrepared (unprepared prepared)

theorem calls_solve : (solver.solve problem engine).calls = (solver.journey problem engine).calls :=
  (solver.solve_goes problem engine).1

theorem problem_solve : (solver.solve problem engine).problem =
    (solver.journey problem engine).storeResults problem.assignNumbers :=
  (solver.solve_goes problem engine).2

end Solver

end LinearProgram
