import LinearProgram.Proofs.Journeys
import LinearProgram.Proofs.Meaning

/-!
What is sent. Opening and tuning say nothing of the model, and the calls between them state it:
variables with their costs, the direction, and the constraints that bound something.
-/

namespace LinearProgram

section Stating

variable (problem : Problem)

structure Call.IsPlain (call : Call) : Prop where
  name : call.variableName? = none
  sense : call.sense? = none
  cost : ∀ x, call.costAt x = 0

theorem plain_of_constraint (constraint : Constraint) (call : Call)
    (called : constraint.call? = some call) : call.IsPlain := by
  unfold Constraint.call? at called
  split at called <;> cases called <;> exact ⟨rfl, rfl, fun _ => rfl⟩

structure Call.IsSetup (call : Call) : Prop extends call.IsPlain where
  early : call.isOptimize = false
  asks : ∀ x, call.Holds x

theorem setup_of_opening (listens : Bool) (name : Value) (call : Call)
    (member : call ∈ Formulation.openingCalls listens name) : call.IsSetup := by
  cases listens <;> simp [Formulation.openingCalls] at member <;>
    rcases member with rfl | rfl | rfl | rfl | rfl <;>
      exact ⟨⟨rfl, rfl, fun _ => rfl⟩, rfl, fun _ => trivial⟩

theorem setup_of_tuning (settings : Settings) (call : Call) (member : call ∈ settings.tuningCalls) :
    call.IsSetup := by
  unfold Settings.tuningCalls at member
  have isTune : ∃ name value, call = .tune name value := by
    rcases List.mem_append.mp member with fixed | limit
    · simp only [List.mem_cons, List.not_mem_nil, or_false] at fixed
      rcases fixed with rfl | rfl <;> exact ⟨_, _, rfl⟩
    · obtain ⟨limit, -, rfl⟩ := Option.map_eq_some_iff.mp (Option.mem_toList.mp limit)
      exact ⟨_, _, rfl⟩
  obtain ⟨name, value, rfl⟩ := isTune
  exact ⟨⟨rfl, rfl, fun _ => rfl⟩, rfl, fun _ => trivial⟩

theorem names_plain (calls : List Call) (plain : ∀ call ∈ calls, call.IsPlain) :
    calls.filterMap Call.variableName? = [] ∧ calls.filterMap Call.sense? = [] ∧
      ∀ x, (calls.map (Call.costAt x)).sum = 0 := by
  refine ⟨List.filterMap_eq_nil_iff.mpr fun call member => (plain call member).name,
    List.filterMap_eq_nil_iff.mpr fun call member => (plain call member).sense, fun x => ?_⟩
  refine List.sum_eq_zero fun q member => ?_
  obtain ⟨call, inside, rfl⟩ := List.mem_map.mp member
  exact (plain call inside).cost x

-- Calls around those that state the model change nothing of it.
theorem statedBy_around (before calls after : List Call) (stated : problem.StatedBy calls)
    (setupBefore : ∀ call ∈ before, call.IsSetup) (setupAfter : ∀ call ∈ after, call.IsSetup) :
    problem.StatedBy (before ++ calls ++ after) := by
  obtain ⟨namesBefore, senseBefore, costBefore⟩ :=
    names_plain before fun call member => (setupBefore call member).toIsPlain
  obtain ⟨namesAfter, senseAfter, costAfter⟩ :=
    names_plain after fun call member => (setupAfter call member).toIsPlain
  have senses : (before ++ calls ++ after).filterMap Call.sense? = calls.filterMap Call.sense? := by
    simp [List.filterMap_append, senseBefore, senseAfter]
  refine ⟨?_, fun x => ?_, fun x => ?_, ?_, ?_⟩
  · simp [List.filterMap_append, namesBefore, namesAfter, stated.names]
  · rw [← stated.solutions x]
    constructor
    · intro holds call member
      exact holds call (by simp [member])
    · intro holds call member
      rcases List.mem_append.mp member with first | last
      · rcases List.mem_append.mp first with early | inside
        · exact (setupBefore call early).asks x
        · exact holds call inside
      · exact (setupAfter call last).asks x
  · rw [List.map_append, List.map_append, List.sum_append, List.sum_append, costBefore, costAfter,
      stated.objective, zero_add, add_zero]
  · intro none
    rw [senses, stated.noSense none]
  · intro key row direction aimed directed
    rw [senses, stated.sense key row direction aimed directed]

section Building

def variableCalls : List Call :=
  problem.outline.columns.map fun v => Call.addVariable v.lower v.upper v.cost v.type v.key

def senseCalls : List Call := (problem.direction?.map Call.setSense).toList

def constraintCalls : List Call := problem.outline.constraints.filterMap Constraint.call?

theorem names_variableCalls :
    (variableCalls problem).filterMap Call.variableName? = problem.columns.keys ∧
      (variableCalls problem).filterMap Call.sense? = [] := by
  simp [variableCalls, Problem.outline, List.filterMap_map, Function.comp_def, Call.variableName?,
    Call.sense?, Catalog.keys]

theorem plain_constraintCalls (call : Call) (member : call ∈ constraintCalls problem) :
    call.IsPlain := by
  obtain ⟨constraint, -, called⟩ := List.mem_filterMap.mp member
  exact plain_of_constraint constraint call called

theorem sense_senseCalls :
    (senseCalls problem).filterMap Call.sense? = problem.direction?.toList ∧
      (senseCalls problem).filterMap Call.variableName? = [] ∧
      (∀ x, ((senseCalls problem).map (Call.costAt x)).sum = 0) ∧
      ∀ call ∈ senseCalls problem, ∀ x, call.Holds x := by
  unfold senseCalls
  cases problem.direction? <;> simp [Call.sense?, Call.variableName?, Call.costAt, Call.Holds]

-- The variables cost what the objective is worth.
theorem cost_variableCalls (closed : problem.Closed) (x : String → ℚ) :
    ((variableCalls problem).map (Call.costAt x)).sum = problem.objectiveValue x := by
  have costs : (variableCalls problem).map (Call.costAt x) =
      problem.columns.keys.map fun key => (problem.cost key).rational * x key := by
    simp [variableCalls, Problem.outline, Function.comp_def, Call.costAt, Catalog.keys]
  have distinct := ascending_keys_nodup _ problem.columns.ascending
  rw [costs]
  unfold Problem.cost Problem.objectiveValue
  cases aimed : problem.objective? with
  | none => exact sum_lookup problem.columns.keys distinct [] (by simp) (by simp) x
  | some aim =>
      obtain ⟨key, row⟩ := aim
      have found := problem.row?_of_objective key row aimed
      refine sum_lookup problem.columns.keys distinct row.cells.entries
        (ascending_keys_nodup _ row.cells.ascending) (fun cell member => ?_) x
      exact (Catalog.mem_keys_iff _ _).mpr
        (problem.registered_of_cell closed key row found cell member)

theorem hold_variableCalls (accepted : problem.columnRejection? = none) (bounded : problem.Bounded)
    (x : String → ℚ) :
    (∀ call ∈ variableCalls problem, call.Holds x) ↔
      ∀ key column, problem.columns.get? key = some column → column.Admits (x key) := by
  have each : ∀ entry ∈ problem.columns.entries,
      ((Call.addVariable entry.2.engineBounds.1 entry.2.engineBounds.2 (problem.cost entry.1)
        entry.2.variableType entry.1).Holds x ↔ entry.2.Admits (x entry.1)) := by
    intro entry member
    obtain ⟨type, isType⟩ := problem.typed_of_accepted accepted entry member
    have bounds := bounded.columns entry.1 entry.2 ((Catalog.mem_entries_iff _ _ _).mp member)
    exact entry.2.holds_variable type isType bounds.1 bounds.2 _ entry.1 x
  simp only [variableCalls, Problem.outline, List.map_map, List.forall_mem_map]
  constructor
  · intro holds key column found
    have member := (Catalog.mem_entries_iff _ key column).mpr found
    exact (each (key, column) member).mp (holds (key, column) member)
  · intro admits entry member
    exact (each entry member).mpr
      (admits entry.1 entry.2 ((Catalog.mem_entries_iff _ _ _).mp member))

theorem hold_constraintCalls (bounded : problem.Bounded) (x : String → ℚ) :
    (∀ call ∈ constraintCalls problem, call.Holds x) ↔
      ∀ key row, problem.rows.get? key = some row → problem.isObjective key = false → row.Admits x := by
  have isConstraint := problem.mem_constraints_iff
  have each : ∀ entry ∈ problem.constraints,
      ((∀ call ∈ Constraint.call? ⟨entry.1, entry.2.expression, entry.2.lower, entry.2.upper⟩,
        call.Holds x) ↔ entry.2.Admits x) := by
    intro entry member
    obtain ⟨found, isRow⟩ := (isConstraint entry.1 entry.2).mp member
    have bounds := bounded.rows entry.1 entry.2 found isRow
    rw [holds_constraint _ bounds.1 bounds.2 x, valueAt_expression]
    rfl
  constructor
  · intro holds key row found isRow
    have member := (isConstraint key row).mpr ⟨found, isRow⟩
    refine (each (key, row) member).mp fun call called => holds call ?_
    refine List.mem_filterMap.mpr ⟨_, List.mem_map_of_mem member, called⟩
  · intro admits call member
    obtain ⟨constraint, inOutline, called⟩ := List.mem_filterMap.mp member
    obtain ⟨entry, inConstraints, rfl⟩ := List.mem_map.mp inOutline
    obtain ⟨found, isRow⟩ := (isConstraint entry.1 entry.2).mp inConstraints
    exact (each entry inConstraints).mpr (admits entry.1 entry.2 found isRow) call called

theorem direction?_of_objective (key : Value) (row : Row) (direction : Direction)
    (aimed : problem.objective? = some (key, row))
    (directed : row.direction = some (.direction direction)) :
    problem.direction? = some direction := by
  simp [Problem.direction?, aimed, directed]

/-- The calls that build the model of a problem state it. -/
theorem statedBy_buildingCalls (closed : problem.Closed) (accepted : problem.columnRejection? = none)
    (bounded : problem.Bounded) : problem.StatedBy problem.outline.buildingCalls := by
  have parts : problem.outline.buildingCalls =
      variableCalls problem ++ senseCalls problem ++ constraintCalls problem := rfl
  obtain ⟨names, noSense⟩ := names_variableCalls problem
  obtain ⟨senses, noNames, noCost, noAsk⟩ := sense_senseCalls problem
  obtain ⟨plainNames, plainSense, plainCost⟩ := names_plain _ (plain_constraintCalls problem)
  rw [parts]
  refine ⟨?_, fun x => ?_, fun x => ?_, ?_, ?_⟩
  · simp [List.filterMap_append, names, noNames, plainNames]
  · have columns := hold_variableCalls problem accepted bounded x
    have rows := hold_constraintCalls problem bounded x
    constructor
    · intro holds
      refine ⟨columns.mp fun call member => holds call ?_, rows.mp fun call member => holds call ?_⟩
      · simp [member]
      · simp [member]
    · intro feasible call member
      rcases List.mem_append.mp member with early | last
      · rcases List.mem_append.mp early with first | second
        · exact columns.mpr feasible.columns call first
        · exact noAsk call second x
      · exact rows.mpr feasible.rows call last
  · rw [List.map_append, List.map_append, List.sum_append, List.sum_append, noCost, plainCost,
      cost_variableCalls problem closed, add_zero, add_zero]
  · intro none
    simp [List.filterMap_append, senses, noSense, plainSense, Problem.direction?, none]
  · intro key row direction aimed directed
    simp [List.filterMap_append, senses, noSense, plainSense,
      direction?_of_objective problem key row direction aimed directed]

end Building

end Stating

namespace Solved

/-- No call failed: fewer calls came to the failing point than it lets through. -/
def NoCallFailed (solved : Solved) (engine : Engine) : Prop :=
  ∀ failing, engine.failure = some failing →
    solved.calls.countP (fun call => call.point? == some failing.point) ≤ failing.skipped

def beforeOptimize (solved : Solved) : List Call := solved.calls.takeWhile fun call => !call.isOptimize

end Solved

section Sent

variable (solver : Solver) (problem : Problem) (engine : Engine)

def outwardCalls (formulation : Formulation) : List Call :=
  Formulation.openingCalls solver.listens formulation.name ++ formulation.buildingCalls ++
    solver.settings.tuningCalls ++ [.optimize solver.listens]

theorem events_outward (title : String) (objective : Option Value) (formulation : Formulation) :
    ∃ rest, Itinerary.events solver title objective formulation engine =
      (outwardCalls solver formulation).map Event.call ++ rest := by
  unfold Itinerary.events Itinerary.outward
  rw [List.append_assoc, List.append_assoc]
  exact ⟨_, rfl⟩

-- If no call fails, the model is built and tuned before it is optimised.
theorem calls_run (title : String) (formulation : Formulation)
    (succeeded : (solver.run problem title formulation engine).NoCallFailed engine) :
    ∃ others, (solver.run problem title formulation engine).calls =
      outwardCalls solver formulation ++ others := by
  obtain ⟨rest, events⟩ :=
    events_outward solver engine title (problem.objective.map Aim.key) formulation
  have record : (solver.run problem title formulation engine).calls =
      (travel engine.failure (Itinerary.events solver title (problem.objective.map Aim.key)
        formulation engine)).calls := rfl
  rw [events] at record
  have bound : ∀ failing, engine.failure = some failing →
      (travel engine.failure ((outwardCalls solver formulation).map Event.call ++ rest)).attempted.countP
        (fun call => call.point? == some failing.point) ≤ failing.skipped := by
    intro failing fails
    have all := succeeded failing fails
    rw [record, Journey.calls, List.countP_append] at all
    omega
  obtain ⟨others, sent⟩ := attempted_calls engine.failure _ rest bound
  rw [record, Journey.calls, sent, List.append_assoc]
  exact ⟨_, rfl⟩

theorem early_buildingCalls (formulation : Formulation) (call : Call)
    (member : call ∈ formulation.buildingCalls) : call.isOptimize = false := by
  rcases List.mem_append.mp member with first | constraints
  · rcases List.mem_append.mp first with columns | direction
    · obtain ⟨v, -, rfl⟩ := List.mem_map.mp columns
      rfl
    · obtain ⟨direction, -, rfl⟩ := Option.map_eq_some_iff.mp (Option.mem_toList.mp direction)
      rfl
  · obtain ⟨constraint, -, called⟩ := List.mem_filterMap.mp constraints
    unfold Constraint.call? at called
    split at called <;> cases called <;> rfl

theorem takeWhile_outward (formulation : Formulation) (others : List Call) :
    (outwardCalls solver formulation ++ others).takeWhile (fun call => !call.isOptimize) =
      Formulation.openingCalls solver.listens formulation.name ++ formulation.buildingCalls ++
        solver.settings.tuningCalls := by
  have early : ∀ call ∈ Formulation.openingCalls solver.listens formulation.name ++
      formulation.buildingCalls ++ solver.settings.tuningCalls, (!call.isOptimize) = true := by
    intro call member
    rw [Bool.not_eq_true']
    rcases List.mem_append.mp member with first | tuning
    · rcases List.mem_append.mp first with opening | building
      · exact (setup_of_opening _ _ call opening).early
      · exact early_buildingCalls formulation call building
    · exact (setup_of_tuning _ call tuning).early
  rw [outwardCalls, List.append_assoc, List.takeWhile_append_of_pos early]
  exact List.append_nil _

structure Problem.Specified : Prop where
  typed : ∀ key column, problem.columns.get? key = some column → ∃ type, column.type = .columnType type
  directed : ∀ key row, problem.objective? = some (key, row) →
    ∃ direction, row.direction = some (.direction direction)

/-- A problem passes the checks before a solve when it is specified. -/
theorem specified_iff : problem.Specified ↔ problem.rejection? = none ∧
    ∀ aim ∈ problem.objective?, aim.2.direction.isSome = true := by
  constructor
  · rintro ⟨typed, directed⟩
    have columns : problem.columnRejection? = none := by
      refine List.findSome?_eq_none_iff.mpr fun entry member => ?_
      obtain ⟨type, isType⟩ := typed entry.1 entry.2 ((Catalog.mem_entries_iff _ _ _).mp member)
      simp [isType]
    cases aimed : problem.objective? with
    | none => simp [Problem.rejection?, columns, Problem.directionRejection?, aimed]
    | some aim =>
        obtain ⟨direction, isDirection⟩ := directed aim.1 aim.2 aimed
        simp [Problem.rejection?, columns, Problem.directionRejection?, aimed, isDirection]
  · rintro ⟨accepted, given⟩
    obtain ⟨columns, direction⟩ := Option.or_eq_none_iff.mp accepted
    refine ⟨fun key column found => ?_, fun key row aimed => ?_⟩
    · exact problem.typed_of_accepted columns (key, column)
        ((Catalog.mem_entries_iff _ _ _).mpr found)
    · have some := given (key, row) aimed
      simp only [Problem.directionRejection?, aimed, Option.bind_eq_bind, Option.bind_some] at direction
      split at direction
      next isDirection => exact ⟨_, isDirection⟩
      next absent => simp [absent] at some
      next => cases direction

instance : Decidable problem.Specified :=
  decidable_of_iff (problem.rejection?.isNone = true ∧
      ∀ aim ∈ problem.objective?, aim.2.direction.isSome = true)
    (by rw [specified_iff, Option.isNone_iff_eq_none])

/-- Translation preserves the model. What is sent before the optimisation states the model of the
problem, whatever the solver's settings and whatever the engine answers, unless a call fails. A
problem whose name cannot be written out sends nothing. -/
theorem sent_calls_state_problem (reachable : problem.Reachable) (named : problem.TextObjective)
    (fits : problem.Fits) (specified : problem.Specified) (bounded : problem.Bounded)
    (succeeded : (solver.solve problem engine).NoCallFailed engine) :
    (∀ fault, problem.title = .error fault →
      (solver.solve problem engine).outcome = .error fault ∧ (solver.solve problem engine).calls = []) ∧
    ∀ title, problem.title = .ok title →
      .optimize solver.listens ∈ (solver.solve problem engine).calls ∧
        problem.StatedBy (solver.solve problem engine).beforeOptimize := by
  have closed := reachable.closed
  have inOrder := problem.inOrder_of_textObjective named
  have accepted := ((specified_iff problem).mp specified).1
  constructor
  · intro fault untitled
    rw [solver.solve_untitled problem engine closed inOrder fits accepted fault untitled]
    exact ⟨rfl, rfl⟩
  · intro title titled
    obtain ⟨notice, solved⟩ :=
      solver.solve_accepted problem engine closed inOrder fits accepted title titled
    rw [solved] at succeeded ⊢
    obtain ⟨others, sent⟩ := calls_run solver problem.assignNumbers engine title problem.outline succeeded
    have columns : problem.columnRejection? = none := (Option.or_eq_none_iff.mp accepted).1
    have stated := statedBy_around problem _ _ _ (statedBy_buildingCalls problem closed columns bounded)
      (setup_of_opening solver.listens problem.outline.name) (setup_of_tuning solver.settings)
    constructor
    · show Call.optimize solver.listens ∈ (solver.run _ _ _ _).calls
      simp [sent, outwardCalls]
    · show problem.StatedBy ((solver.run _ _ _ _).calls.takeWhile _)
      rw [sent, takeWhile_outward]
      exact stated

theorem sent_calls_state_blend :
    blend.StatedBy (({} : Solver).solve blend plainAnswers).beforeOptimize := by
  obtain ⟨title, isTitle⟩ := blend_titled
  exact ((sent_calls_state_problem {} blend plainAnswers blend_reachable (by decide +kernel)
    (by decide +kernel) (by decide +kernel) (by decide +kernel)
    (by intro failing fails; cases fails)).2 title isTitle).2

end Sent

end LinearProgram
