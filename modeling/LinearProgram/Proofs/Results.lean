import LinearProgram.Proofs.Numbers
import LinearProgram.Proofs.Prepared

/-!
The results of a solve. They are stored after a status of success only, and the last state that is
recorded then tells the status and the value of the objective.
-/

namespace LinearProgram

section Results

variable (objective : Option Value) (formulation : Formulation) (engine : Engine)

def objectiveResults : List StoredResult :=
  objective.toList.map fun key => ⟨.row, key, .value, engine.objectiveValue⟩

def columnResults : List StoredResult :=
  formulation.columns.map fun v => ⟨.column, .text v.key, .value, engine.variableValue v.key⟩

def rowResults : List StoredResult :=
  formulation.constraints.filterMap fun c =>
    match engine.expressionValue c.expression with
    | .ok x => some ⟨.row, .text c.key, .value, x⟩
    | .error _ => none

def reducedCostResults : List StoredResult :=
  formulation.columns.map fun v => ⟨.column, .text v.key, .dual, engine.reducedCost v.key⟩

def Constraint.price (c : Constraint) : Value :=
  if c.call?.isSome then engine.price c.key else .float .zero

def priceResults : List StoredResult :=
  formulation.constraints.map fun c => ⟨.row, .text c.key, .dual, c.price engine⟩

def readsDuals (status : SolveStatus) : Bool :=
  !Itinerary.isMixed formulation engine && status = .optimal

def allResults (status : SolveStatus) : List StoredResult :=
  objectiveResults objective engine ++ columnResults formulation engine ++ rowResults formulation engine ++
    if readsDuals formulation engine status then
      reducedCostResults formulation engine ++ priceResults formulation engine
    else []

theorem storedIn_append (events others : List Event) :
    storedIn (events ++ others) = storedIn events ++ storedIn others :=
  List.filterMap_append

theorem storedIn_flatMap {α : Type} (items : List α) (block : α → List Event) :
    storedIn (items.flatMap block) = items.flatMap fun item => storedIn (block item) :=
  List.filterMap_flatMap

theorem storedIn_calls (calls : List Call) : storedIn (calls.map Event.call) = [] := by
  refine List.filterMap_eq_nil_iff.mpr fun event member => ?_
  obtain ⟨call, -, rfl⟩ := List.mem_map.mp member
  rfl

section Aligned

variable {formulation} (aligned : formulation.Aligned)

include aligned

-- Read position by position, each result comes to the key that it was asked under.
theorem valueEvents_of_aligned : Itinerary.valueEvents objective formulation engine =
    (objective.toList.flatMap fun key =>
        [.read .objectiveValue, .store .row key .value engine.objectiveValue]) ++
      (formulation.columns.flatMap fun v =>
        [.read .variableValue, .store .column (.text v.key) .value (engine.variableValue v.key)]) ++
      formulation.constraints.flatMap fun c => Itinerary.rowValueEvents engine (c.key, c.expression) := by
  unfold Itinerary.valueEvents
  rw [aligned.zip_columns, aligned.zip_rows, List.flatMap_map, List.flatMap_map]

theorem dualEvents_of_aligned : Itinerary.dualEvents formulation engine =
    (formulation.columns.flatMap fun v =>
        [.read .reducedCost, .store .column (.text v.key) .dual (engine.reducedCost v.key)]) ++
      formulation.constraints.flatMap fun c => Itinerary.priceEvents engine (c.key, c.handle?) := by
  unfold Itinerary.dualEvents
  rw [aligned.zip_columns, aligned.zip_rows, List.flatMap_map, List.flatMap_map]

theorem storedIn_valueEvents :
    storedIn (Itinerary.valueEvents objective formulation engine) =
      objectiveResults objective engine ++ columnResults formulation engine ++
        rowResults formulation engine := by
  have rows : storedIn (formulation.constraints.flatMap fun c =>
      Itinerary.rowValueEvents engine (c.key, c.expression)) = rowResults formulation engine := by
    rw [storedIn_flatMap, rowResults, List.filterMap_eq_flatMap_toList]
    refine List.flatMap_congr fun c _ => ?_
    unfold Itinerary.rowValueEvents
    cases engine.expressionValue c.expression <;> rfl
  rw [valueEvents_of_aligned objective engine aligned, storedIn_append, storedIn_append, rows,
    storedIn_flatMap, storedIn_flatMap]
  simp only [objectiveResults, columnResults, List.map_eq_flatMap]
  rfl

theorem storedIn_dualEvents :
    storedIn (Itinerary.dualEvents formulation engine) =
      reducedCostResults formulation engine ++ priceResults formulation engine := by
  rw [dualEvents_of_aligned engine aligned, storedIn_append, storedIn_flatMap, storedIn_flatMap,
    reducedCostResults, priceResults, List.map_eq_flatMap, List.map_eq_flatMap]
  refine congrArg₂ (· ++ ·) rfl (List.flatMap_congr fun c _ => ?_)
  unfold Itinerary.priceEvents Constraint.price Constraint.handle?
  cases c.call? <;> rfl

end Aligned

-- A message is fetched, and then told or the end of the solve.
theorem mem_messageEvents (messages : List (Value × Value)) (event : Event)
    (member : event ∈ Itinerary.messageEvents messages) :
    event = .call .fetchMessage ∨ (∃ text, event = .report (.engineMessage text) ∨ event = .deliver text) ∨
      ∃ fault, event = .stop fault := by
  obtain ⟨⟨kind, message⟩, -, inBlock⟩ := List.mem_flatMap.mp member
  dsimp only at inBlock
  split at inBlock
  · rcases List.mem_cons.mp inBlock with rfl | answered
    · exact Or.inl rfl
    · split at answered
      · simp only [List.mem_cons, List.not_mem_nil, or_false] at answered
        exact Or.inr (Or.inl ⟨_, answered⟩)
      · cases List.mem_singleton.mp answered
        exact Or.inr (Or.inr ⟨_, rfl⟩)
  · cases inBlock

theorem storedIn_messageEvents (messages : List (Value × Value)) :
    storedIn (Itinerary.messageEvents messages) = [] := by
  refine List.filterMap_eq_nil_iff.mpr fun event member => ?_
  rcases mem_messageEvents messages event member with rfl | ⟨_, rfl | rfl⟩ | ⟨_, rfl⟩ <;> rfl

theorem storedIn_outward (solver : Solver) : storedIn (Itinerary.outward solver formulation engine) = [] := by
  unfold Itinerary.outward
  rw [storedIn_append, storedIn_calls]
  split
  · exact storedIn_messageEvents engine.messages
  · rfl

theorem storedIn_wholeEvents (value : Value) : storedIn (Itinerary.wholeEvents value) = [] := by
  unfold Itinerary.wholeEvents
  split <;> rfl

theorem storedIn_cons_read (point : Point) (events : List Event) :
    storedIn (.read point :: events) = storedIn events := rfl

theorem storedIn_cons_record (state : SolverState) (events : List Event) :
    storedIn (.record state :: events) = storedIn events := rfl

theorem storedIn_nil : storedIn [] = [] := rfl

theorem storedIn_countEvents (state : SolverState) :
    storedIn (Itinerary.countEvents state formulation engine) = [] := by
  unfold Itinerary.countEvents
  split <;>
    simp only [storedIn_append, storedIn_cons_read, storedIn_cons_record, storedIn_nil,
      storedIn_wholeEvents, List.cons_append, List.append_nil]

theorem storedIn_solvedEvents (title : String) (status : SolveStatus) :
    storedIn (Itinerary.solvedEvents title status engine) = [] := by
  unfold Itinerary.solvedEvents
  split <;> rfl

theorem storedIn_unsolvedEvents (title : String) (state : SolverState) :
    storedIn (Itinerary.unsolvedEvents title state engine) = [] := by
  unfold Itinerary.unsolvedEvents
  split <;> rfl

theorem storedIn_readingEvents (aligned : formulation.Aligned) (state : SolverState) :
    storedIn (Itinerary.readingEvents objective state formulation engine) =
      allResults objective formulation engine state.status := by
  have gap : ∀ mixed : Bool, ∀ recorded : SolverState,
      storedIn (if mixed then [.read .gap, .record recorded] else []) = [] := by
    intro mixed recorded
    cases mixed <;> rfl
  unfold Itinerary.readingEvents
  simp only [storedIn_append, storedIn_cons_read, storedIn_cons_record, gap,
    storedIn_valueEvents objective engine aligned, List.cons_append, List.nil_append,
    allResults, readsDuals]
  rw [apply_ite storedIn, storedIn_dualEvents engine aligned, storedIn_nil]
  rfl

theorem storedIn_solutionEvents (aligned : formulation.Aligned) (title : String) (state : SolverState) :
    storedIn (Itinerary.solutionEvents title objective state formulation engine) =
      allResults objective formulation engine state.status := by
  rw [Itinerary.solutionEvents, storedIn_append, storedIn_solvedEvents, List.append_nil,
    storedIn_readingEvents objective formulation engine aligned]

-- A solve stores results only after a status of success, and then these.
theorem storedIn_events (aligned : formulation.Aligned) (solver : Solver) (title : String)
    (status : SolveStatus) (answered : SolveStatus.ofCode engine.status engine.solutionCount = .ok status) :
    storedIn (Itinerary.events solver title objective formulation engine) =
      if status.isSuccess then allResults objective formulation engine status else [] := by
  unfold Itinerary.events Itinerary.homeward
  simp only [answered, storedIn_append, storedIn_outward, storedIn_cons_read, storedIn_nil,
    storedIn_countEvents, List.nil_append]
  split
  · exact storedIn_solutionEvents objective formulation engine aligned title _
  · exact storedIn_unsolvedEvents engine title _

theorem storedIn_events_error (solver : Solver) (title : String) (fault : Fault)
    (unanswered : SolveStatus.ofCode engine.status engine.solutionCount = .error fault) :
    storedIn (Itinerary.events solver title objective formulation engine) = [] := by
  unfold Itinerary.events Itinerary.homeward
  simp only [unanswered, storedIn_append, storedIn_outward, storedIn_cons_read, storedIn_nil,
    List.nil_append]
  rfl

end Results

section Recorded

variable (engine : Engine) (title : String) (objective : Option Value)

def Event.recorded? : Event → Option SolverState
  | .record state => some state
  | _ => none

theorem lastState_eq (journey : Journey) (state : SolverState) :
    journey.lastState state = (journey.passed.filterMap Event.recorded?).getLastD state := by
  unfold Journey.lastState
  induction journey.passed generalizing state with
  | nil => rfl
  | cons event rest ih =>
      rw [List.foldl_cons, ih]
      cases event with
      | record recorded => exact (List.getLastD_cons ..).symm
      | _ => rfl

theorem recorded_valueEvents (formulation : Formulation) :
    (Itinerary.valueEvents objective formulation engine).filterMap Event.recorded? = [] := by
  refine List.filterMap_eq_nil_iff.mpr fun event member => ?_
  unfold Itinerary.valueEvents at member
  simp only [List.mem_append, List.mem_flatMap, Itinerary.rowValueEvents, List.mem_cons,
    List.not_mem_nil, or_false] at member
  rcases member with (⟨_, -, rfl | rfl⟩ | ⟨_, -, rfl | rfl⟩) | ⟨row, -, rfl | member⟩
  · rfl
  · rfl
  · rfl
  · rfl
  · rfl
  · split at member <;> cases List.mem_singleton.mp member <;> rfl

theorem recorded_dualEvents (formulation : Formulation) :
    (Itinerary.dualEvents formulation engine).filterMap Event.recorded? = [] := by
  refine List.filterMap_eq_nil_iff.mpr fun event member => ?_
  unfold Itinerary.dualEvents at member
  simp only [List.mem_append, List.mem_flatMap, Itinerary.priceEvents, List.mem_cons, List.not_mem_nil,
    or_false] at member
  rcases member with ⟨_, -, rfl | rfl⟩ | ⟨row, -, member⟩
  · rfl
  · rfl
  · split at member
    · simp only [List.mem_cons, List.not_mem_nil, or_false] at member
      rcases member with rfl | rfl <;> rfl
    · cases List.mem_singleton.mp member
      rfl

/-- While a solution is read its state is recorded with the value of the objective, and again with the gap. -/
theorem recorded_readingEvents (formulation : Formulation) (state : SolverState) :
    let valued := { state with objective := engine.objectiveValue }
    (Itinerary.readingEvents objective state formulation engine).filterMap Event.recorded? =
      valued :: if Itinerary.isMixed formulation engine then [{ valued with gap := engine.gap }] else [] := by
  have duals : (if !Itinerary.isMixed formulation engine && state.status = .optimal then
      Itinerary.dualEvents formulation engine else []).filterMap Event.recorded? = [] := by
    split
    · exact recorded_dualEvents engine formulation
    · rfl
  unfold Itinerary.readingEvents
  simp only [List.filterMap_append, List.filterMap_cons, Event.recorded?, recorded_valueEvents,
    duals, List.append_nil, List.filterMap_nil]
  cases Itinerary.isMixed formulation engine <;> rfl

theorem recorded_solvedEvents (status : SolveStatus) :
    (Itinerary.solvedEvents title status engine).filterMap Event.recorded? = [] := by
  unfold Itinerary.solvedEvents
  split <;> rfl

-- The state after a solution was read tells the status and the value of the objective.
theorem lastState_reading (before after : List Event) (ended : Option (Event × Stop))
    (formulation : Formulation) (state first : SolverState)
    (quiet : after.filterMap Event.recorded? = []) :
    let last := Journey.lastState
      ⟨before ++ Itinerary.readingEvents objective state formulation engine ++ after, ended⟩ first
    last.status = state.status ∧ last.objective = engine.objectiveValue := by
  dsimp only
  rw [lastState_eq, List.filterMap_append, List.filterMap_append, recorded_readingEvents, quiet]
  cases Itinerary.isMixed formulation engine <;> simp

end Recorded

section Runs

variable (solver : Solver) (problem : Problem) (engine : Engine)

theorem run_passes (title : String) (formulation : Formulation) (events : List Event)
    (isEvents : Itinerary.events solver title (problem.objective.map Aim.key) formulation engine = events)
    (whole : travel engine.failure events = ⟨events, none⟩) :
    (solver.run problem title formulation engine).outcome =
        .ok (Journey.lastState ⟨events, none⟩ solver.state).status.isSuccess ∧
      (solver.run problem title formulation engine).solver.state =
        Journey.lastState ⟨events, none⟩ solver.state := by
  unfold Solver.run
  rw [isEvents, whole]
  exact ⟨rfl, rfl⟩

-- A run leaves the results that it stored on its way, and all else as it was before numbering.
theorem run_hasStored (title : String) (formulation : Formulation) :
    (solver.run problem.assignNumbers title formulation engine).problem.HasStored problem
      (storedIn (travel engine.failure (Itinerary.events solver title (problem.objective.map Aim.key)
        formulation engine)).passed) := by
  constructor
  · intro kind key
    rw [← problem.valueOf_assignNumbers, ← valueOf_storeResults]
    rfl
  · intro kind key
    rw [← problem.dualOf_assignNumbers, ← dualOf_storeResults]
    rfl

def counting (formulation : Formulation) (status : SolveStatus) : List Event :=
  Itinerary.outward solver formulation engine ++ [.read .status, .read .solutionCount] ++
    Itinerary.countEvents (Itinerary.answeredState status formulation engine) formulation engine

-- After a status of success a solution is read and reported.
theorem events_solution (status : SolveStatus) (title : String) (objective : Option Value)
    (formulation : Formulation)
    (answered : SolveStatus.ofCode engine.status engine.solutionCount = .ok status)
    (success : status.isSuccess = true) :
    Itinerary.events solver title objective formulation engine =
      counting solver engine formulation status ++
        Itinerary.readingEvents objective (Itinerary.answeredState status formulation engine) formulation
          engine ++ Itinerary.solvedEvents title status engine := by
  unfold Itinerary.events Itinerary.homeward counting
  rw [answered]
  dsimp only
  rw [if_pos success, Itinerary.solutionEvents]
  simp only [List.append_assoc]
  rfl

theorem events_unsolved (status : SolveStatus) (title : String) (objective : Option Value)
    (formulation : Formulation)
    (answered : SolveStatus.ofCode engine.status engine.solutionCount = .ok status)
    (failure : status.isSuccess = false) :
    Itinerary.events solver title objective formulation engine =
      counting solver engine formulation status ++
        Itinerary.unsolvedEvents title (Itinerary.answeredState status formulation engine) engine := by
  unfold Itinerary.events Itinerary.homeward counting
  rw [answered]
  dsimp only
  rw [if_neg (Bool.eq_false_iff.mp failure)]
  simp only [List.append_assoc]

end Runs

end LinearProgram
