import LinearProgram.Proofs.FailedSolve
import LinearProgram.Proofs.Unsolved
import LinearProgram.Proofs.Verdicts

/-!
Solving has no memory. However many solves came before, a solve ends as it would have ended without them. A
solution reaches every column and row, so it leaves no value of an earlier one.
-/

namespace LinearProgram

namespace Problem

section Entities

variable (problem : Problem)

def numberOf (kind : EntityKind) (key : Value) : Option Value :=
  (problem.attributes? kind key).map (·.number)

def solvedBy (history : List (Solver × Engine)) : Problem :=
  history.foldl (fun solved entry => (entry.1.solve solved entry.2).problem) problem

theorem unsolved_solvedBy (history : List (Solver × Engine)) :
    (problem.solvedBy history).unsolved = problem.unsolved := by
  induction history generalizing problem with
  | nil => rfl
  | cons entry rest ih => exact (ih _).trans (problem.unsolved_solve entry.1 entry.2)

end Entities

end Problem

section Aimed

theorem Value.sameKey_of_notText (key other : Value) (notText : ∀ name, key ≠ .text name)
    (neither : ∀ name, other ≠ .text name) : key.sameKey other = true := by
  unfold sameKey
  split
  next s _ => exact absurd rfl (notText s)
  next s _ => exact absurd rfl (notText s)
  next s _ => exact absurd rfl (neither s)
  next => rfl

theorem Problem.Ordered.assignNumbers {problem : Problem} (ordered : problem.Ordered) :
    problem.assignNumbers.Ordered := by
  have keeps : problem.Keeps (fun _ _ => False) problem.assignNumbers := problem.keeps_assignNumbers
  exact problem.sameFrame_assignNumbers.ordered keeps ordered

theorem Problem.objective_of_isObjective (problem : Problem) (key : String)
    (isAim : problem.isObjective key = true) : problem.objective = some (.row key) := by
  unfold isObjective at isAim
  split at isAim
  next aimed isRow => rw [isRow, beq_iff_eq.mp isAim]
  next => cases isAim

end Aimed

section Valued

variable (engine : Engine)

theorem lastStored_isSome (stores : List StoredResult) (kind : EntityKind) (key : Value) (result : Result)
    (stored : StoredResult) (member : stored ∈ stores) (goes : stored.isFor kind key result = true) :
    (lastStored stores kind key result).isSome = true := by
  rw [lastStored, Option.isSome_map]
  exact List.find?_isSome.mpr ⟨stored, List.mem_reverse.mpr member, goes⟩

-- A solution that is read to its end has a value for every expression.
theorem evaluates_of_noStop (objective : Option Value) (formulation : Formulation)
    (aligned : formulation.Aligned)
    (noStop : NoStop (Itinerary.valueEvents objective formulation engine)) (c : Constraint)
    (member : c ∈ formulation.constraints) : ∃ x, engine.expressionValue c.expression = .ok x := by
  rw [valueEvents_of_aligned objective engine aligned] at noStop
  have rows := ((noStop_append _ _).mp noStop).2
  have own := (noStop_flatMap _ _).mp rows c member
  unfold Itinerary.rowValueEvents at own
  cases evaluated : engine.expressionValue c.expression with
  | ok x => exact ⟨x, rfl⟩
  | error fault =>
      rw [evaluated] at own
      exact absurd (List.mem_cons_of_mem _ List.mem_cons_self) (own fault)

theorem noStop_valueEvents_of_events (solver : Solver) (title : String) (objective : Option Value)
    (formulation : Formulation) (status : SolveStatus)
    (answered : SolveStatus.ofCode engine.status engine.solutionCount = .ok status)
    (success : status.isSuccess = true)
    (noStop : NoStop (Itinerary.events solver title objective formulation engine)) :
    NoStop (Itinerary.valueEvents objective formulation engine) := by
  rw [events_solution solver engine status title objective formulation answered success] at noStop
  have reading := ((noStop_append _ _).mp ((noStop_append _ _).mp noStop).1).2
  unfold Itinerary.readingEvents at reading
  simp only [noStop_append] at reading
  exact reading.1.2

variable (problem : Problem) (triples : Triples) (formulation : Formulation)
  (made : problem.formulate triples = .ok formulation)

include made

theorem column_valued (key : String) (column : Column) (found : problem.columns.get? key = some column) :
    ∃ stored ∈ columnResults formulation engine, stored.isFor .column (.text key) .value = true := by
  obtain ⟨columns, -⟩ := formulate_keys problem triples formulation made
  have entry := (Catalog.mem_entries_iff _ key column).mpr found
  have sent : (key, column.variableType) ∈ formulation.columns.map fun v => (v.key, v.type) := by
    rw [columns]
    exact List.mem_map.mpr ⟨_, entry, rfl⟩
  obtain ⟨v, member, same⟩ := List.mem_map.mp sent
  refine ⟨_, List.mem_map_of_mem member, (isFor_text _ .column key .value).mpr ⟨rfl, ?_, rfl⟩⟩
  exact congrArg Value.text (congrArg Prod.fst same)

theorem constraint_valued (evaluates : ∀ c ∈ formulation.constraints, ∃ x, engine.expressionValue c.expression = .ok x)
    (kind : EntityKind) (isRow : kind.isRow = true) (key : String) (row : Row)
    (inConstraints : (key, row) ∈ problem.constraints) :
    ∃ stored ∈ rowResults formulation engine, stored.isFor kind (.text key) .value = true := by
  obtain ⟨-, constraints, -, -⟩ := formulate_keys problem triples formulation made
  have sent : key ∈ formulation.constraints.map (·.key) := by
    rw [constraints]
    exact List.mem_map.mpr ⟨_, inConstraints, rfl⟩
  obtain ⟨c, member, rfl⟩ := List.mem_map.mp sent
  obtain ⟨x, evaluated⟩ := evaluates c member
  refine ⟨⟨.row, .text c.key, .value, x⟩, ?_, (isFor_text _ kind c.key .value).mpr ⟨isRow, rfl, rfl⟩⟩
  exact List.mem_filterMap.mpr ⟨c, member, by rw [evaluated]⟩

omit made in
theorem objective_valued (ordered : problem.Ordered) (kind : EntityKind) (isRow : kind.isRow = true)
    (key : Value) (row : Row) (found : problem.row? key = some row)
    (free : ∀ name, key = .text name → problem.isObjective name = true) :
    ∃ stored ∈ objectiveResults (problem.objective.map Aim.key) engine,
      stored.isFor kind key .value = true := by
  have stores (aim : Aim) (aimed : problem.objective = some aim) :
      ⟨.row, aim.key, .value, engine.objectiveValue⟩ ∈
        objectiveResults (problem.objective.map Aim.key) engine := by
    rw [aimed]
    exact List.mem_singleton.mpr rfl
  by_cases isText : ∃ name, key = .text name
  · obtain ⟨name, rfl⟩ := isText
    have aimed := problem.objective_of_isObjective name (free name rfl)
    exact ⟨_, stores (.row name) aimed, (isFor_text _ kind name .value).mpr ⟨isRow, rfl, rfl⟩⟩
  · have notText (name : String) : key ≠ .text name := fun same => isText ⟨name, same⟩
    rw [problem.row?_of_notText key notText] at found
    obtain ⟨⟨name, aside⟩, isBeside, -⟩ := Option.map_eq_some_iff.mp found
    obtain ⟨earlier, aimed⟩ := (problem.beside?_eq_some_iff name aside).mp isBeside
    have same := Value.sameKey_of_notText key name notText (ordered.beside_notText name aside isBeside)
    refine ⟨_, stores _ aimed, ?_⟩
    simp only [StoredResult.isFor, Problem.sameEntity, Aim.key, isRow, same]
    rfl

theorem entity_valued (ordered : problem.Ordered)
    (evaluates : ∀ c ∈ formulation.constraints, ∃ x, engine.expressionValue c.expression = .ok x)
    (status : SolveStatus) (kind : EntityKind) (key : Value)
    (there : (problem.attributes? kind key).isSome = true) :
    (lastStored (allResults (problem.objective.map Aim.key) formulation engine status) kind key
      .value).isSome = true := by
  suffices stores : ∃ stored ∈ objectiveResults (problem.objective.map Aim.key) engine ++
      columnResults formulation engine ++ rowResults formulation engine,
        stored.isFor kind key .value = true by
    obtain ⟨stored, member, goes⟩ := stores
    exact lastStored_isSome _ kind key .value stored (List.mem_append_left _ member) goes
  simp only [List.mem_append]
  cases isRow : kind.isRow with
  | false =>
      cases kind.eq_column isRow
      cases key with
      | text key =>
          rw [Problem.attributes?_column, Option.isSome_map] at there
          obtain ⟨column, found⟩ := Option.isSome_iff_exists.mp there
          obtain ⟨stored, member, goes⟩ := column_valued engine problem triples formulation made key column found
          exact ⟨stored, Or.inl (Or.inr member), goes⟩
      | _ => cases there
  | true =>
      rw [Problem.attributes?_row _ kind isRow, Option.isSome_map] at there
      obtain ⟨row, found⟩ := Option.isSome_iff_exists.mp there
      by_cases free : ∀ name, key = .text name → problem.isObjective name = true
      · obtain ⟨stored, member, goes⟩ := objective_valued engine problem ordered kind isRow key row found free
        exact ⟨stored, Or.inl (Or.inl member), goes⟩
      · push Not at free
        obtain ⟨name, rfl, bound⟩ := free
        have inConstraints := (problem.mem_constraints_iff name row).mpr ⟨found, by simpa using bound⟩
        obtain ⟨stored, member, goes⟩ := constraint_valued engine problem triples formulation made evaluates
          kind isRow name row inConstraints
        exact ⟨stored, Or.inr member, goes⟩

end Valued

namespace Solver

variable (solver : Solver) (problem : Problem) (engine : Engine)

theorem attributes?_solve (kind : EntityKind) (key : Value) :
    (solver.solve problem engine).problem.attributes? kind key =
      (problem.assignNumbers.attributes? kind key).map fun attributes =>
        attributes.withStored (storedIn (solver.journey problem engine).passed) kind key := by
  rw [problem_solve, attributes?_storeResults]

theorem journey_congr (other : Problem) (same : other.unsolved = problem.unsolved) (earlier : SolverState) :
    ({ solver with state := earlier } : Solver).journey other engine = solver.journey problem engine := by
  unfold journey plan
  rw [problem.prepare_congr other same, problem.aim_congr other same]
  rfl

-- A solve that found a solution has stored all results.
theorem stored_of_found (prepared : Prepared)
    (isPrepared : prepare problem.assignNumbers = .ok (.ok prepared))
    (found : (solver.solve problem engine).outcome = .ok true) :
    (∀ c ∈ prepared.formulation.constraints, ∃ x, engine.expressionValue c.expression = .ok x) ∧
      ∃ status, storedIn (solver.journey problem engine).passed =
        allResults (problem.objective.map Aim.key) prepared.formulation engine status := by
  obtain ⟨ran, -, -⟩ := solver.solve_as_run problem engine prepared isPrepared
  rw [ran] at found
  rw [solver.journey_of_prepared problem engine prepared isPrepared]
  rcases solver.run_ways problem.assignNumbers engine prepared.title prepared.formulation with
    ⟨status, answered, passes, outcome, -, -⟩ | ⟨_, _, _, _, _, _, outcome, -, -⟩ | ⟨fault, outcome⟩
  · rw [outcome] at found
    have success := Except.ok.inj found
    have values := noStop_valueEvents_of_events engine solver prepared.title
      (problem.objective.map Aim.key) prepared.formulation status answered success passes.noStop
    have aligned := aligned_of_prepared problem.assignNumbers prepared isPrepared
    refine ⟨evaluates_of_noStop engine _ prepared.formulation aligned values, status, ?_⟩
    have whole := congrArg (fun journey => storedIn journey.passed) (travel_passes engine.failure _ passes)
    have stored := storedIn_events (problem.objective.map Aim.key) prepared.formulation engine aligned solver
      prepared.title status answered
    exact (whole.trans stored).trans (if_pos success)
  · rw [outcome] at found
    cases found
  · rw [outcome] at found
    cases found

theorem inOrder_of_checkOrder (ordered : problem.checkOrder = .ok ()) : problem.orderFault? = none := by
  unfold Problem.checkOrder at ordered
  cases fault : problem.orderFault? with
  | none => rfl
  | some out =>
      rw [fault] at ordered
      cases ordered

theorem prepared_of_found (found : (solver.solve problem engine).outcome = .ok true) :
    ∃ prepared, prepare problem.assignNumbers = .ok (.ok prepared) := by
  cases prepared : prepare problem.assignNumbers with
  | error fault =>
      rw [solver.solve_of_fault problem engine fault prepared] at found
      cases found
  | ok result =>
      cases result with
      | error rejected =>
          rw [solver.solve_of_rejected problem engine rejected.1 rejected.2 prepared] at found
          cases found
      | ok parts => exact ⟨parts, rfl⟩

theorem results_of_same_unread (first second : Option Attributes)
    (same : second.map Attributes.unread = first.map Attributes.unread) (stores : List StoredResult)
    (kind : EntityKind) (key : Value)
    (valued : first.isSome = true → (lastStored stores kind key .value).isSome = true) :
    let read (entity : Option Attributes) := entity.map fun attributes => attributes.withStored stores kind key
    (read second).map Attributes.value = (read first).map Attributes.value ∧
      (read second).map Attributes.number = (read first).map Attributes.number := by
  cases first with
  | none =>
      rw [Option.map_none, Option.map_eq_none_iff] at same
      rw [same]
      exact ⟨rfl, rfl⟩
  | some attributes =>
      obtain ⟨others, rfl, agree⟩ := Option.map_eq_some_iff.mp same
      obtain ⟨x, last⟩ := Option.isSome_iff_exists.mp (valued rfl)
      have number : others.number = attributes.number := by
        show others.unread.number = attributes.unread.number
        rw [agree]
      simp [Attributes.withStored, last, number]

/-- A solution leaves the same values and numbers on two problems that differ in what solves write. -/
theorem results_congr (ordered : problem.Ordered) (other : Problem)
    (same : other.unsolved = problem.unsolved) (earlier : SolverState)
    (found : (solver.solve problem engine).outcome = .ok true) (kind : EntityKind) (key : Value) :
    let first := (solver.solve problem engine).problem
    let second := (({ solver with state := earlier } : Solver).solve other engine).problem
    second.valueOf kind key = first.valueOf kind key ∧ second.numberOf kind key = first.numberOf kind key := by
  intro first second
  obtain ⟨prepared, isPrepared⟩ := solver.prepared_of_found problem engine found
  obtain ⟨evaluates, status, stored⟩ := solver.stored_of_found problem engine prepared isPrepared found
  obtain ⟨inOrder, -, -, -, made⟩ := prepare_accepted _ _ isPrepared
  have order : problem.orderFault? = none := by
    rw [← problem.orderFault?_assignNumbers]
    exact inOrder_of_checkOrder _ inOrder
  have entities := problem.attributes?_congr other same order kind key
  have valued := entity_valued engine problem.assignNumbers prepared.triples prepared.formulation made
    ordered.assignNumbers evaluates status kind key
  unfold Problem.valueOf Problem.numberOf
  rw [attributes?_solve, attributes?_solve, solver.journey_congr problem engine other same, stored]
  exact results_of_same_unread _ _ entities _ kind key valued

/-- Solving has no memory. Earlier solves of a problem change nothing of it but what solves write, and a later
solve makes the same calls and ends in the same way as without them. If it returns it leaves the same state,
and if it returns true the same values and numbers. -/
theorem solve_has_no_memory (reachable : problem.Reachable) (history : List (Solver × Engine))
    (earlier : SolverState) :
    let fresh := solver.solve problem engine
    let again := ({ solver with state := earlier } : Solver).solve (problem.solvedBy history) engine
    (problem.solvedBy history).unsolved = problem.unsolved ∧ again.calls = fresh.calls ∧
      again.messages = fresh.messages ∧ again.outcome = fresh.outcome ∧
      (∀ returned, fresh.outcome = .ok returned → again.solver = fresh.solver) ∧
      (fresh.outcome = .ok true → ∀ kind key,
        again.problem.valueOf kind key = fresh.problem.valueOf kind key ∧
          again.problem.numberOf kind key = fresh.problem.numberOf kind key) := by
  intro fresh again
  have same := problem.unsolved_solvedBy history
  obtain ⟨outcome, calls, messages, solvers⟩ := solver.solve_congr problem engine (problem.solvedBy history)
    (problem.aim_congr _ same) (problem.prepare_congr _ same) earlier
  exact ⟨same, calls, messages, outcome, solvers,
    solver.results_congr problem engine reachable.ordered _ same earlier⟩

-- Before, the engine failed once while results were stored, and once while prices were read.
theorem blend_has_no_memory :
    let history := [(({} : Solver), cutAnswers), (({ listens := true } : Solver), pricelessAnswers)]
    let again := ({ state := { message := "lost" } } : Solver).solve (blend.solvedBy history) blendAnswers
    again.outcome = .ok true ∧ ∀ kind key,
      again.problem.valueOf kind key = (({} : Solver).solve blend blendAnswers).problem.valueOf kind key := by
  intro history again
  have found : (({} : Solver).solve blend blendAnswers).outcome = .ok true :=
    ok_of_toOption _ _ (by decide +kernel)
  obtain ⟨-, -, -, outcome, -, results⟩ :=
    solve_has_no_memory {} blend blendAnswers blend_reachable history { message := "lost" }
  exact ⟨outcome.trans found, fun kind key => (results found kind key).1⟩

end Solver

end LinearProgram
