import LinearProgram.Proofs.Outline
import LinearProgram.Proofs.Results

/-!
Solves that fail. What a failed solve stored is the beginning of what it would have stored, and it is
nothing unless the engine fails at a read that comes after the first result.
-/

namespace LinearProgram

namespace FailurePoint

/-- The failing read, if it happens in a solve with a solution, comes after a first result. The
question whether the model is mixed is asked twice before. -/
def IsLate (failing : FailurePoint) (objective : Option Value) (formulation : Formulation) : Prop :=
  match failing.point with
  | .variableValue => objective ≠ none ∨ 0 < failing.skipped
  | .expressionValue => objective ≠ none ∨ formulation.columns ≠ [] ∨ 0 < failing.skipped
  | .isMixed => 2 ≤ failing.skipped ∧
      (objective ≠ none ∨ formulation.columns ≠ [] ∨ formulation.constraints ≠ [])
  | .reducedCost | .price => True
  | _ => False

end FailurePoint

section Reading

variable (solver : Solver) (title : String) (objective : Option Value) (formulation : Formulation)
  (engine : Engine) (status : SolveStatus)

def leading : List Event :=
  let state := Itinerary.answeredState status formulation engine
  let valued := { state with objective := engine.objectiveValue }
  Itinerary.outward solver formulation engine ++ [.read .status, .read .solutionCount] ++
    Itinerary.countEvents state formulation engine ++
    [.read .objectiveValue, .record valued, .read .isMixed] ++
    if Itinerary.isMixed formulation engine then [.read .gap, .record { valued with gap := engine.gap }]
    else []

def reading : List Event :=
  (formulation.columns.flatMap fun v =>
      [.read .variableValue,
        .store .column (.text v.key) .value (engine.variableValue v.key)]) ++
    (formulation.constraints.flatMap fun c => Itinerary.rowValueEvents engine (c.key, c.expression)) ++
    .read .isMixed ::
    (if readsDuals formulation engine status then Itinerary.dualEvents formulation engine else []) ++
    Itinerary.solvedEvents title status engine

def objectiveReading : List Event :=
  objective.toList.flatMap fun key =>
    [.read .objectiveValue, .store .row key .value engine.objectiveValue]

theorem events_split (aligned : formulation.Aligned)
    (answered : SolveStatus.ofCode engine.status engine.solutionCount = .ok status)
    (success : status.isSuccess = true) :
    Itinerary.events solver title objective formulation engine =
      leading solver formulation engine status ++
        (objectiveReading objective engine ++ reading title formulation engine status) := by
  unfold Itinerary.events Itinerary.homeward
  rw [answered]
  dsimp only
  rw [if_pos success]
  simp only [leading, reading, objectiveReading, Itinerary.solutionEvents,
    Itinerary.readingEvents, valueEvents_of_aligned objective engine aligned, readsDuals, List.append_assoc, List.cons_append, List.nil_append]
  rfl

theorem storedIn_leading : storedIn (leading solver formulation engine status) = [] := by
  unfold leading
  have gap : ∀ recorded : SolverState, storedIn (if Itinerary.isMixed formulation engine then
      [.read .gap, .record recorded] else []) = [] := by
    intro recorded
    split <;> rfl
  simp [storedIn_append, storedIn_outward, storedIn_countEvents, storedIn_cons_read,
    storedIn_cons_record, gap]

theorem hits_eq_zero (point : Point) (events : List Event)
    (elsewhere : ∀ event ∈ events, event.point? ≠ some point) : hits point events = 0 := by
  refine List.countP_eq_zero.mpr fun event member => ?_
  simpa using elsewhere event member

theorem hits_outward (point : Point) (noCall : ∀ call : Call, call.point? ≠ some point) :
    hits point (Itinerary.outward solver formulation engine) = 0 := by
  refine hits_eq_zero point _ fun event member => ?_
  rcases List.mem_append.mp member with calls | messages
  · obtain ⟨call, -, rfl⟩ := List.mem_map.mp calls
    exact noCall call
  · split at messages
    · obtain ⟨⟨kind, message⟩, -, inBlock⟩ := List.mem_flatMap.mp messages
      dsimp only at inBlock
      split at inBlock
      · rcases List.mem_cons.mp inBlock with rfl | answered
        · exact noCall .fetchMessage
        · split at answered
          · simp only [List.mem_cons, List.not_mem_nil, or_false] at answered
            rcases answered with rfl | rfl <;> simp [Event.point?]
          · simp only [List.mem_cons, List.not_mem_nil, or_false] at answered
            rw [answered]
            simp [Event.point?]
      · cases inBlock
    · cases messages

theorem hits_wholeEvents (point : Point) (value : Value) :
    hits point (Itinerary.wholeEvents value) = 0 := by
  unfold Itinerary.wholeEvents
  split <;> simp [hits, Event.point?]

theorem hits_nil (point : Point) : hits point [] = 0 := rfl

-- Before the results nothing is read of them, and the engine is asked twice whether the model is
-- mixed.
theorem hits_leading (point : Point)
    (late : point ∈ [Point.variableValue, .expressionValue, .isMixed, .reducedCost, .price]) :
    hits point (leading solver formulation engine status) = if point = .isMixed then 2 else 0 := by
  have noCall : ∀ call : Call, call.point? ≠ some point := by
    intro call
    simp only [List.mem_cons, List.not_mem_nil, or_false] at late
    rcases late with rfl | rfl | rfl | rfl | rfl <;> cases call <;> simp [Call.point?]
  have outward := hits_outward solver formulation engine point noCall
  unfold leading Itinerary.countEvents
  simp only [List.mem_cons, List.not_mem_nil, or_false] at late
  cases Itinerary.isMixed formulation engine <;> rcases late with rfl | rfl | rfl | rfl | rfl <;>
    simp [hits_append, hits_cons, hits_nil, hits_wholeEvents, outward, Event.point?]

/-- What is read after the value of the objective. -/
theorem point_reading (event : Event) (member : event ∈ reading title formulation engine status)
    (point : Point) (here : event.point? = some point) :
    (point = .variableValue ∧ formulation.columns ≠ []) ∨
      (point = .expressionValue ∧ formulation.constraints ≠ []) ∨ point = .isMixed ∨
      (point = .reducedCost ∧ formulation.columns ≠ []) ∨
      (point = .price ∧ formulation.constraints ≠ []) := by
  have solved : ∀ event ∈ Itinerary.solvedEvents title status engine, event.point? = none := by
    unfold Itinerary.solvedEvents
    split <;> simp [Event.point?]
  unfold reading at member
  rcases List.mem_append.mp member with early | last
  · rcases List.mem_append.mp early with values | asked
    · rcases List.mem_append.mp values with columns | rows
      · obtain ⟨v, inside, block⟩ := List.mem_flatMap.mp columns
        simp only [List.mem_cons, List.not_mem_nil, or_false] at block
        rcases block with rfl | rfl
        · exact Or.inl ⟨(Option.some.inj here).symm, List.ne_nil_of_mem inside⟩
        · cases here
      · obtain ⟨c, inside, block⟩ := List.mem_flatMap.mp rows
        rcases List.mem_cons.mp block with rfl | stored
        · exact Or.inr (Or.inl ⟨(Option.some.inj here).symm, List.ne_nil_of_mem inside⟩)
        · dsimp only at stored
          split at stored <;> cases List.mem_singleton.mp stored <;> cases here
    · rcases List.mem_cons.mp asked with rfl | duals
      · exact Or.inr (Or.inr (Or.inl (Option.some.inj here).symm))
      · split at duals
        · rcases List.mem_append.mp duals with columns | rows
          · obtain ⟨⟨key, v⟩, inside, block⟩ := List.mem_flatMap.mp columns
            simp only [List.mem_cons, List.not_mem_nil, or_false] at block
            rcases block with rfl | rfl
            · exact Or.inr (Or.inr (Or.inr (Or.inl
                ⟨(Option.some.inj here).symm, List.ne_nil_of_mem (List.of_mem_zip inside).2⟩)))
            · cases here
          · obtain ⟨⟨key, handle⟩, inside, block⟩ := List.mem_flatMap.mp rows
            have some : formulation.constraints ≠ [] := by
              obtain ⟨c, among, -⟩ := List.mem_map.mp (List.of_mem_zip inside).2
              exact List.ne_nil_of_mem among
            unfold Itinerary.priceEvents at block
            split at block
            · simp only [List.mem_cons, List.not_mem_nil, or_false] at block
              rcases block with rfl | rfl
              · exact Or.inr (Or.inr (Or.inr (Or.inr ⟨(Option.some.inj here).symm, some⟩)))
              · cases here
            · cases List.mem_singleton.mp block
              cases here
        · cases duals
  · rw [solved event last] at here
    cases here

-- A list that begins with a read and what it stores: the engine fails at the first read, or something
-- was stored before.
theorem split_at_lead (lead : Point) (second : Event) (tail before after : List Event) (event : Event)
    (split : .read lead :: second :: tail = before ++ event :: after)
    (noPoint : second.point? = none) (stores : second.stored? = none → ∃ fault, second = .stop fault)
    (noStop : ∀ fault, Event.stop fault ∉ before) (point : Point) (here : event.point? = some point) :
    (before = [] ∧ point = lead) ∨ (storedIn before ≠ [] ∧ 0 < hits lead before ∧ event ∈ tail) := by
  cases before with
  | nil =>
      cases split
      exact Or.inl ⟨rfl, (Option.some.inj here).symm⟩
  | cons first more =>
      cases more with
      | nil =>
          cases split
          rw [noPoint] at here
          cases here
      | cons next others =>
          cases split
          refine Or.inr ⟨?_, by simp [hits, Event.point?], by simp⟩
          cases isStored : second.stored? with
          | none =>
              obtain ⟨fault, rfl⟩ := stores isStored
              exact absurd (by simp) (noStop fault)
          | some stored =>
              rw [storedIn, List.filterMap_cons_none rfl, List.filterMap_cons_some isStored]
              exact List.cons_ne_nil _ _

-- A failing read of the results is late unless it is the first of them.
theorem isLate_of_reading (event : Event) (member : event ∈ reading title formulation engine status)
    (point : Point) (skipped : Nat) (failure : EngineFailure) (here : event.point? = some point)
    (before : List Event)
    (due : hits point (leading solver formulation engine status) + hits point before = skipped)
    (some : objective ≠ none ∨ formulation.columns ≠ [] ∨ formulation.constraints ≠ [])
    (variableLate : objective = none → formulation.columns ≠ [] → 0 < hits .variableValue before)
    (expressionLate : objective = none → formulation.columns = [] → 0 < hits .expressionValue before) :
    FailurePoint.IsLate ⟨point, skipped, failure⟩ objective formulation := by
  subst due
  rcases point_reading title formulation engine status event member point here with
    ⟨rfl, columns⟩ | ⟨rfl, constraints⟩ | rfl | ⟨rfl, columns⟩ | ⟨rfl, constraints⟩
  · by_cases aimed : objective = none
    · exact Or.inr (Nat.lt_of_lt_of_le (variableLate aimed columns) (Nat.le_add_left _ _))
    · exact Or.inl aimed
  · by_cases aimed : objective = none
    · by_cases columns : formulation.columns = []
      · exact Or.inr (Or.inr (Nat.lt_of_lt_of_le (expressionLate aimed columns) (Nat.le_add_left _ _)))
      · exact Or.inr (Or.inl columns)
    · exact Or.inl aimed
  · refine ⟨?_, some⟩
    rw [hits_leading solver formulation engine status .isMixed (by simp)]
    exact Nat.le_add_right _ _
  · trivial
  · trivial

/-- Something was stored before a failing read exactly when the read is late. -/
theorem isLate_iff (before after : List Event) (event : Event)
    (split : objectiveReading objective engine ++ reading title formulation engine status =
      before ++ event :: after)
    (noStop : ∀ fault, Event.stop fault ∉ before) (failing : FailurePoint)
    (here : event.point? = some failing.point)
    (due : hits failing.point (leading solver formulation engine status) + hits failing.point before =
      failing.skipped) :
    storedIn before ≠ [] ↔ failing.IsLate objective formulation := by
  obtain ⟨point, skipped, failure⟩ := failing
  dsimp only at here due
  cases objective with
  | some key =>
      rcases split_at_lead .objectiveValue (.store .row key .value engine.objectiveValue) _ before after
        event split rfl (by simp [Event.stored?]) noStop point here with
        ⟨rfl, rfl⟩ | ⟨stored, -, inside⟩
      · simp [storedIn, FailurePoint.IsLate]
      · refine iff_of_true stored ?_
        exact isLate_of_reading solver title (some key) formulation engine status event inside point
          skipped failure here before due (Or.inl (by simp)) (by simp) (by simp)
  | none =>
      have member : event ∈ reading title formulation engine status := by
        have all : event ∈ before ++ event :: after := by simp
        rw [← split] at all
        exact all
      have late := isLate_of_reading solver title none formulation engine status event member point
        skipped failure here before due
      have split : reading title formulation engine status = before ++ event :: after := split
      cases columns : formulation.columns with
      | cons v vs =>
          obtain ⟨tail, lead⟩ : ∃ tail, reading title formulation engine status =
              .read .variableValue :: .store .column (.text v.key) .value
                (engine.variableValue v.key) :: tail := by
            unfold reading
            rw [columns]
            exact ⟨_, rfl⟩
          rw [lead] at split
          rcases split_at_lead .variableValue _ tail before after event split rfl
            (by simp [Event.stored?]) noStop point here with ⟨rfl, rfl⟩ | ⟨stored, counted, -⟩
          · rw [hits_leading solver formulation engine status .variableValue (by simp)] at due
            subst due
            simp [storedIn, FailurePoint.IsLate, hits_nil]
          · exact iff_of_true stored (late (by simp [columns]) (fun _ _ => counted) (by simp [columns]))
      | nil =>
          cases constraints : formulation.constraints with
          | cons c cs =>
              obtain ⟨second, tail, lead, noPoint, stores⟩ : ∃ second tail,
                  reading title formulation engine status = .read .expressionValue :: second :: tail ∧
                    second.point? = none ∧ (second.stored? = none → ∃ fault, second = .stop fault) := by
                unfold reading
                rw [columns, constraints, List.flatMap_cons, Itinerary.rowValueEvents]
                cases engine.expressionValue c.expression with
                | ok x => exact ⟨_, _, rfl, rfl, by simp [Event.stored?]⟩
                | error fault => exact ⟨_, _, rfl, rfl, fun _ => ⟨fault, rfl⟩⟩
              rw [lead] at split
              rcases split_at_lead .expressionValue second tail before after event split noPoint stores
                noStop point here with ⟨rfl, rfl⟩ | ⟨stored, counted, -⟩
              · rw [hits_leading solver formulation engine status .expressionValue (by simp)] at due
                subst due
                simp [storedIn, FailurePoint.IsLate, columns, hits_nil]
              · exact iff_of_true stored
                  (late (by simp [constraints]) (by simp [columns]) (fun _ _ => counted))
          | nil =>
              have nothing : storedIn (reading title formulation engine status) = [] := by
                unfold reading Itinerary.dualEvents
                rw [columns, constraints]
                simp [storedIn_cons_read, storedIn_solvedEvents]
              rw [split, storedIn_append] at nothing
              refine iff_of_false (fun stored => stored (List.append_eq_nil_iff.mp nothing).1) ?_
              rcases point_reading title formulation engine status event member point here with
                ⟨-, some⟩ | ⟨-, some⟩ | rfl | ⟨-, some⟩ | ⟨-, some⟩
              · exact absurd columns some
              · exact absurd constraints some
              · simp [FailurePoint.IsLate, columns, constraints]
              · exact absurd columns some
              · exact absurd constraints some

end Reading

namespace Problem

def CutShort (problem : Problem) (engine : Engine) : Prop :=
  ∃ prepared status failing,
    Solver.prepare problem.assignNumbers = .ok (.ok prepared) ∧
      SolveStatus.ofCode engine.status engine.solutionCount = .ok status ∧ status.isSuccess = true ∧
      engine.failure = some failing ∧ failing.IsLate (problem.objective.map Aim.key) prepared.formulation

end Problem

section Failing

variable (solver : Solver) (problem : Problem) (engine : Engine)

-- A failing read before the results is not late.
theorem not_late_of_leading (objective : Option Value) (formulation : Formulation)
    (status : SolveStatus) (before after : List Event) (event : Event)
    (split : leading solver formulation engine status = before ++ event :: after)
    (failing : FailurePoint) (here : event.point? = some failing.point)
    (due : hits failing.point before = failing.skipped) : ¬ failing.IsLate objective formulation := by
  have counted := hits_leading solver formulation engine status failing.point
  rw [split, hits_append, hits_cons, if_pos here, due] at counted
  obtain ⟨point, skipped, failure⟩ := failing
  intro late
  unfold FailurePoint.IsLate at late
  dsimp only at counted late
  split at late
  · have none := counted (by simp)
    simp at none
  · have none := counted (by simp)
    simp at none
  · have twice := counted (by simp)
    simp only [if_true] at twice
    omega
  · have none := counted (by simp)
    simp at none
  · have none := counted (by simp)
    simp at none
  · exact late

-- An engine that fails in a solve with a solution.
theorem stored_iff_late_of_cut (title : String) (objective : Option Value) (formulation : Formulation)
    (aligned : formulation.Aligned) (status : SolveStatus) (answered : SolveStatus.ofCode engine.status engine.solutionCount = .ok status)
    (success : status.isSuccess = true) (before after : List Event) (event : Event)
    (split : Itinerary.events solver title objective formulation engine = before ++ event :: after)
    (noStop : ∀ fault, Event.stop fault ∉ before) (failing : FailurePoint)
    (here : event.point? = some failing.point) (due : hits failing.point before = failing.skipped) :
    storedIn before ≠ [] ↔ failing.IsLate objective formulation := by
  rw [events_split solver title objective formulation engine status aligned answered success] at split
  have quiet := storedIn_leading solver formulation engine status
  rcases List.append_eq_append_iff.mp split with ⟨more, isBefore, isRest⟩ | ⟨more, isLeading, isRest⟩
  · subst isBefore
    rw [storedIn_append, quiet, List.nil_append]
    rw [hits_append] at due
    refine isLate_iff solver title objective formulation engine status more after event isRest ?_
      failing here due
    intro fault stops
    exact noStop fault (List.mem_append_right _ stops)
  · cases more with
    | nil =>
        rw [List.append_nil] at isLeading
        subst isLeading
        rw [quiet]
        refine (isLate_iff solver title objective formulation engine status [] after event
          isRest.symm (by simp) failing here ?_)
        rw [hits_nil]
        exact due
    | cons first others =>
        cases isRest
        rw [isLeading, storedIn_append] at quiet
        refine iff_of_false (fun stored => stored (List.append_eq_nil_iff.mp quiet).1) ?_
        exact not_late_of_leading solver engine objective formulation status before others event
          isLeading failing here due

-- A run with a solution that reports no success was ended by the engine.
theorem cut_of_failed (title : String) (formulation : Formulation) (status : SolveStatus)
    (answered : SolveStatus.ofCode engine.status engine.solutionCount = .ok status)
    (success : status.isSuccess = true)
    (failed : (solver.run problem title formulation engine).outcome = .ok false) :
    ∃ before after event failing,
      Itinerary.events solver title (problem.objective.map Aim.key) formulation engine =
        before ++ event :: after ∧
      (∀ fault, Event.stop fault ∉ before) ∧ engine.failure = some failing ∧
      event.point? = some failing.point ∧ hits failing.point before = failing.skipped ∧
      (travel engine.failure (Itinerary.events solver title (problem.objective.map Aim.key)
        formulation engine)).passed = before := by
  generalize isEvents : Itinerary.events solver title (problem.objective.map Aim.key) formulation
    engine = events
  rcases travel_cases engine.failure events with
    ⟨-, whole⟩ | ⟨before, event, after, stop, split, passes, ends, cut⟩
  · -- a run that passes all its events has the status of the answer
    obtain ⟨outcome, -⟩ := run_passes solver problem engine title formulation events isEvents whole
    have ending := events_solution solver engine status title (problem.objective.map Aim.key)
      formulation answered success
    have last := lastState_reading engine (problem.objective.map Aim.key)
      (counting solver engine formulation status) (Itinerary.solvedEvents title status engine) none
      formulation (Itinerary.answeredState status formulation engine) solver.state
      (recorded_solvedEvents engine title status)
    rw [← ending, isEvents] at last
    have succeeded := (congrArg SolveStatus.isSuccess last.1).trans success
    rw [failed] at outcome
    cases (Except.ok.inj outcome).trans succeeded
  · cases ends with
    | stop fault =>
        unfold Solver.run at failed
        rw [isEvents, cut] at failed
        cases failed
    | engine failing _ fails here due =>
        exact ⟨before, after, event, failing, split, passes.noStop, fails, here, due, by rw [cut]⟩

/-- A run that fails has stored something exactly when it was cut short at a late read. -/
theorem stored_iff_late (title : String) (formulation : Formulation) (aligned : formulation.Aligned)
    (failed : (solver.run problem title formulation engine).outcome = .ok false) :
    storedIn (travel engine.failure (Itinerary.events solver title (problem.objective.map Aim.key)
        formulation engine)).passed ≠ [] ↔
      ∃ status failing, SolveStatus.ofCode engine.status engine.solutionCount = .ok status ∧
        status.isSuccess = true ∧ engine.failure = some failing ∧
        failing.IsLate (problem.objective.map Aim.key) formulation := by
  have nothing : storedIn (Itinerary.events solver title (problem.objective.map Aim.key) formulation
      engine) = [] → ¬ storedIn (travel engine.failure (Itinerary.events solver title
        (problem.objective.map Aim.key) formulation engine)).passed ≠ [] := by
    intro none stored
    have begins := (passed_begins engine.failure (Itinerary.events solver title
      (problem.objective.map Aim.key) formulation engine)).filterMap Event.stored?
    exact stored (List.prefix_nil.mp (none ▸ begins))
  cases answered : SolveStatus.ofCode engine.status engine.solutionCount with
  | error fault =>
      refine iff_of_false (nothing (storedIn_events_error _ formulation engine solver title fault
        answered)) ?_
      rintro ⟨status, failing, isStatus, -⟩
      cases isStatus
  | ok status =>
      cases success : status.isSuccess with
      | false =>
          have none := storedIn_events (problem.objective.map Aim.key) formulation engine aligned
            solver title status answered
          rw [success] at none
          refine iff_of_false (nothing none) ?_
          rintro ⟨other, failing, isStatus, isSuccess, -⟩
          cases isStatus
          rw [success] at isSuccess
          cases isSuccess
      | true =>
          obtain ⟨before, after, event, failing, split, noStop, fails, here, due, passed⟩ :=
            cut_of_failed solver problem engine title formulation status answered success failed
          have late := stored_iff_late_of_cut solver engine title (problem.objective.map Aim.key)
            formulation aligned status answered success before after event split noStop failing here due
          rw [passed, late]
          constructor
          · intro isLate
            exact ⟨status, failing, rfl, success, fails, isLate⟩
          · rintro ⟨other, another, isStatus, -, isFailing, isLate⟩
            rw [fails] at isFailing
            cases isFailing
            exact isLate

/-- A failed solve leaves every value and every dual as it was, unless it was cut short at a late
read. Then the first of the results were stored, and the others were not. -/
theorem failed_solve_keeps_unless_cutShort
    (failed : (solver.solve problem engine).outcome = .ok false) :
    (¬ problem.CutShort engine → ∀ kind key,
      (solver.solve problem engine).problem.valueOf kind key = problem.valueOf kind key ∧
        (solver.solve problem engine).problem.dualOf kind key = problem.dualOf kind key) ∧
    (problem.CutShort engine → ∃ prepared status first more,
      Solver.prepare problem.assignNumbers = .ok (.ok prepared) ∧
        SolveStatus.ofCode engine.status engine.solutionCount = .ok status ∧
        first :: more <+:
          allResults (problem.objective.map Aim.key) prepared.formulation engine status ∧
        (solver.solve problem engine).problem.HasStored problem (first :: more)) := by
  cases isPrepared : Solver.prepare problem.assignNumbers with
  | error fault =>
      rw [solver.solve_of_fault problem engine fault isPrepared] at failed
      cases failed
  | ok result =>
      cases result with
      | error rejected =>
          rw [solver.solve_of_rejected problem engine rejected.1 rejected.2 isPrepared]
          constructor
          · intro _ kind key
            exact ⟨problem.valueOf_assignNumbers kind key, problem.dualOf_assignNumbers kind key⟩
          · rintro ⟨prepared, status, failing, accepted, -⟩
            rw [isPrepared] at accepted
            cases accepted
      | ok prepared =>
          obtain ⟨notice, solved⟩ := solver.solve_of_prepared problem engine prepared isPrepared
          rw [solved] at failed ⊢
          have stored := run_hasStored solver problem engine prepared.title prepared.formulation
          have aligned := aligned_of_prepared _ prepared isPrepared
          have late := stored_iff_late solver problem.assignNumbers engine prepared.title
            prepared.formulation aligned failed
          have begins := (passed_begins engine.failure (Itinerary.events solver prepared.title
            (problem.objective.map Aim.key) prepared.formulation engine)).filterMap Event.stored?
          constructor
          · intro whole kind key
            have nothing : storedIn (travel engine.failure (Itinerary.events solver prepared.title
                (problem.objective.map Aim.key) prepared.formulation engine)).passed = [] := by
              by_contra some
              obtain ⟨status, failing, answered, success, fails, isLate⟩ := late.mp some
              exact whole ⟨prepared, status, failing, isPrepared, answered, success, fails, isLate⟩
            rw [nothing] at stored
            exact stored.keeps kind key
          · rintro ⟨other, status, failing, accepted, answered, success, fails, isLate⟩
            rw [isPrepared] at accepted
            cases accepted
            have some := late.mpr ⟨status, failing, answered, success, fails, isLate⟩
            have results := storedIn_events (problem.objective.map Aim.key) prepared.formulation engine
              aligned solver prepared.title status answered
            rw [if_pos success] at results
            obtain ⟨first, more, isStored⟩ := List.exists_cons_of_ne_nil some
            refine ⟨prepared, status, first, more, rfl, answered, ?_, ?_⟩
            · rw [← isStored, ← results]
              exact begins
            · rw [← isStored]
              exact ⟨stored.value, stored.dual⟩

def cutAnswers : Engine := Script.engine
  { mixed := some (.int 0), objectiveValue := .int 32, values := [("oil", .int 4), ("plant", .int 1)]
    failure := some ⟨.variableValue, 1, .reported (.int 10001) "lost"⟩ }

theorem cutAnswers_fails : (({} : Solver).solve blend cutAnswers).outcome = .ok false :=
  ok_of_toOption _ _ (by decide +kernel)

theorem blend_cutShort : blend.CutShort cutAnswers := by
  obtain ⟨title, isTitle⟩ := blend_titled
  have named : blend.TextObjective := by decide +kernel
  have accepted : blend.rejection? = none := Option.isNone_iff_eq_none.mp (by decide +kernel)
  have prepared := blend.prepare_assignNumbers blend_reachable.closed
    (blend.inOrder_of_textObjective named) (by decide +kernel) accepted title isTitle
  have answered : SolveStatus.ofCode cutAnswers.status cutAnswers.solutionCount = .ok .optimal :=
    ok_of_toOption _ _ (by decide +kernel)
  exact ⟨_, .optimal, _, prepared, answered, rfl, rfl, Or.inr (Nat.zero_lt_one)⟩

theorem blend_cut_stores : ∃ first more,
    (({} : Solver).solve blend cutAnswers).problem.HasStored blend (first :: more) := by
  obtain ⟨_, _, first, more, -, -, -, stored⟩ :=
    (failed_solve_keeps_unless_cutShort {} blend cutAnswers cutAnswers_fails).2 blend_cutShort
  exact ⟨first, more, stored⟩

/-- A solve that fails can leave a column with another value than before. -/
theorem failed_solve_changes_value :
    ¬ ∀ (solver : Solver) (problem : Problem) (engine : Engine), problem.Reachable →
      (solver.solve problem engine).outcome = .ok false → ∀ kind key,
        (solver.solve problem engine).problem.valueOf kind key = problem.valueOf kind key ∧
          (solver.solve problem engine).problem.dualOf kind key = problem.dualOf kind key := by
  intro keeps
  have kept := (keeps {} blend cutAnswers blend_reachable cutAnswers_fails .column (.text "oil")).1
  have differs : ((({} : Solver).solve blend cutAnswers).problem.valueOf .column (.text "oil")).map
      Value.kindName ≠ (blend.valueOf .column (.text "oil")).map Value.kindName := by decide +kernel
  exact differs (congrArg (Option.map Value.kindName) kept)

end Failing

end LinearProgram
