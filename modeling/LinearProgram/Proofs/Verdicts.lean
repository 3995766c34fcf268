import LinearProgram.Proofs.Plans

/-!
What a solve that returns tells: what it returned, the state that it left and its report agree, and none of
them depends on the state that an earlier solve left.
-/

namespace LinearProgram

section Codes

theorem equals_int (value : Value) (n : Int) : value.equals (.int n) = true ↔
    ∃ x, value.number? = some x ∧ x.place? = some (0, n * Binary64.quantaPerUnit) := by
  have place : (Number.int n).place? = some (0, n * (Binary64.quantaPerUnit : Int)) := rfl
  generalize n * (Binary64.quantaPerUnit : Int) = units at place ⊢
  have compares (x : Number) : x.equals (.int n) = true ↔ x.place? = some (0, units) := by
    unfold Number.equals Number.compare?
    rw [place]
    cases x.place? with
    | none => simp
    | some p =>
        obtain ⟨i, j⟩ := p
        simp [Ordering.then_eq_eq]
  cases value <;> simp [Value.equals, Value.number?, compares]

-- A value equals one whole number at most.
theorem int_of_equals (value : Value) (n m : Int) (first : value.equals (.int n) = true)
    (second : value.equals (.int m) = true) : n = m := by
  obtain ⟨x, isNumber, placed⟩ := (equals_int value n).mp first
  obtain ⟨y, alsoNumber, alsoPlaced⟩ := (equals_int value m).mp second
  rw [isNumber] at alsoNumber
  cases alsoNumber
  rw [placed] at alsoPlaced
  have units : n * (Binary64.quantaPerUnit : Int) = m * Binary64.quantaPerUnit :=
    congrArg Prod.snd (Option.some.inj alsoPlaced)
  have quanta : (Binary64.quantaPerUnit : Int) ≠ 0 := Int.natCast_ne_zero.mpr (by decide +kernel)
  exact Int.eq_of_mul_eq_mul_right quanta units

/-- The engine found a solution: its status is the optimal one, or it stopped early and counts one. -/
def Engine.FoundSolution (engine : Engine) : Prop :=
  engine.status.equals (.int 2) = true ∨
    (∃ code ∈ SolveStatus.limitCodes, engine.status.equals (.int code) = true) ∧
      ∃ count, engine.solutionCount.number? = some count ∧ Number.less (.int 0) count = true

section Status

variable (engine : Engine)

theorem not_foundSolution (code : Int) (equal : engine.status.equals (.int code) = true)
    (notOptimal : code ≠ 2) (notLimit : code ∉ SolveStatus.limitCodes) : ¬ engine.FoundSolution := by
  rintro (optimal | ⟨⟨limit, isLimit, alsoEqual⟩, -⟩)
  · exact notOptimal (int_of_equals engine.status code 2 equal optimal)
  · rw [int_of_equals engine.status code limit equal alsoEqual] at notLimit
    exact notLimit isLimit

-- The count matters after an early stop only.
theorem isSuccess_ofCode (status : SolveStatus)
    (answered : SolveStatus.ofCode engine.status engine.solutionCount = .ok status) :
    status.isSuccess = true ↔ engine.FoundSolution := by
  unfold SolveStatus.ofCode at answered
  split at answered
  · cases answered
  · split at answered
    next code settled found =>
      cases answered
      have member := List.mem_of_find?_eq_some found
      have equal : engine.status.equals (.int code) = true := by simpa using List.find?_some found
      simp only [SolveStatus.settledCodes, List.mem_cons, Prod.mk.injEq, List.not_mem_nil,
        or_false] at member
      rcases member with ⟨rfl, rfl⟩ | ⟨rfl, rfl⟩ | ⟨rfl, rfl⟩ | ⟨rfl, rfl⟩
      · exact iff_of_true rfl (Or.inl equal)
      · exact iff_of_false (by decide) (not_foundSolution engine 3 equal (by decide) (by decide))
      · exact iff_of_false (by decide) (not_foundSolution engine 5 equal (by decide) (by decide))
      · exact iff_of_false (by decide) (not_foundSolution engine 4 equal (by decide) (by decide))
    next unsettled =>
      have notOptimal : ¬ engine.status.equals (.int 2) = true :=
        List.find?_eq_none.mp unsettled (2, .optimal) (by decide)
      split at answered
      next early =>
        have limit := List.any_eq_true.mp early
        obtain ⟨count, isCount, same⟩ := bind_ok answered
        unfold Value.comparable at isCount
        cases number : engine.solutionCount.number? with
        | none => rw [number] at isCount; cases isCount
        | some x =>
            rw [number] at isCount
            cases isCount
            cases same
            by_cases positive : Number.less (.int 0) count = true
            · rw [if_pos positive]
              exact iff_of_true rfl (Or.inr ⟨limit, count, number, positive⟩)
            · rw [if_neg positive]
              refine iff_of_false (by decide) ?_
              rintro (optimal | ⟨-, other, also, more⟩)
              · exact notOptimal optimal
              · rw [number] at also
                cases also
                exact positive more
      next late =>
        cases answered
        refine iff_of_false (by decide) ?_
        rintro (optimal | ⟨limit, -⟩)
        · exact notOptimal optimal
        · exact late (List.any_eq_true.mpr limit)

end Status

end Codes

def Itinerary.settledState (status : SolveStatus) (formulation : Formulation) (engine : Engine) :
    SolverState :=
  let answered := answeredState status formulation engine
  if status.isSuccess then
    { answered with
      objective := engine.objectiveValue
      gap := if isMixed formulation engine then engine.gap else .null }
  else { answered with message := "Gurobi status " ++ engine.status.written.toOption.getD "" }

def Event.IsQuiet : Event → Prop
  | .report notice => notice.level = .debug
  | _ => True

namespace Notice

def loud (notices : List Notice) : List Notice := notices.filter fun notice => notice.level ≠ .debug

theorem loud_append (notices others : List Notice) : loud (notices ++ others) = loud notices ++ loud others :=
  List.filter_append ..

end Notice

section Settled

variable (solver : Solver) (title : String) (objective : Option Value) (formulation : Formulation)
  (engine : Engine)

theorem lastState_events (status : SolveStatus)
    (answered : SolveStatus.ofCode engine.status engine.solutionCount = .ok status)
    (noStop : NoStop (Itinerary.events solver title objective formulation engine)) (first : SolverState) :
    Journey.lastState ⟨Itinerary.events solver title objective formulation engine, none⟩ first =
      Itinerary.settledState status formulation engine := by
  rw [lastState_eq]
  unfold Itinerary.settledState
  cases success : status.isSuccess with
  | true =>
      rw [events_solution solver engine status title objective formulation answered success]
      simp only [List.filterMap_append, recorded_readingEvents, recorded_solvedEvents]
      cases Itinerary.isMixed formulation engine <;> simp [Itinerary.answeredState]
  | false =>
      rw [events_unsolved solver engine status title objective formulation answered success] at noStop ⊢
      obtain ⟨code, written⟩ := (noStop_unsolvedEvents_iff engine title _).mp ((noStop_append _ _).mp noStop).2
      simp only [List.filterMap_append, Itinerary.unsolvedEvents, written, List.filterMap_cons, Event.recorded?]
      simp [Except.toOption]

theorem answered_of_noStop (noStop : NoStop (Itinerary.events solver title objective formulation engine)) :
    ∃ status, SolveStatus.ofCode engine.status engine.solutionCount = .ok status := by
  cases answered : SolveStatus.ofCode engine.status engine.solutionCount with
  | ok status => exact ⟨status, rfl⟩
  | error fault =>
      apply absurd _ (noStop fault)
      simp [Itinerary.events, Itinerary.homeward, answered]

-- The state of a solve that nothing ends early is its own.
theorem lastState_of_whole (failure : Option FailurePoint) (first second : SolverState)
    (whole : (travel failure (Itinerary.events solver title objective formulation engine)).ended = none) :
    (travel failure (Itinerary.events solver title objective formulation engine)).lastState first =
      (travel failure (Itinerary.events solver title objective formulation engine)).lastState second := by
  rcases travel_cases failure (Itinerary.events solver title objective formulation engine) with
    ⟨passes, all⟩ | ⟨before, event, after, stop, -, -, -, cut⟩
  · obtain ⟨status, answered⟩ := answered_of_noStop solver title objective formulation engine passes.noStop
    rw [all, lastState_events solver title objective formulation engine status answered passes.noStop,
      lastState_events solver title objective formulation engine status answered passes.noStop]
  · rw [cut] at whole
    cases whole

theorem quiet_of_reading (event : Event) (reading : event.IsReading) : event.IsQuiet := by
  cases event with
  | report _ => cases reading
  | _ => trivial

theorem quiet_messageEvents (messages : List (Value × Value)) (event : Event)
    (member : event ∈ Itinerary.messageEvents messages) : event.IsQuiet := by
  rcases mem_messageEvents messages event member with rfl | ⟨_, rfl | rfl⟩ | ⟨_, rfl⟩ <;> trivial

/-- Before its conclusion a solve reports for debugging only. -/
theorem events_conclude : ∃ before, (∀ event ∈ before, event.IsQuiet) ∧
    Itinerary.events solver title objective formulation engine =
      before ++ [Itinerary.conclusion title engine] := by
  obtain ⟨reading, homeward, reads⟩ := Itinerary.homeward_concludes title objective formulation engine
  unfold Itinerary.events
  rw [homeward, ← List.append_assoc]
  refine ⟨_, ?_, rfl⟩
  intro event member
  rcases List.mem_append.mp member with early | last
  · rcases List.mem_append.mp early with outward | asked
    · rcases List.mem_append.mp outward with sent | told
      · obtain ⟨call, -, rfl⟩ := List.mem_map.mp sent
        trivial
      · split at told
        · exact quiet_messageEvents engine.messages event told
        · cases told
    · simp only [List.mem_cons, List.not_mem_nil, or_false] at asked
      rcases asked with rfl | rfl <;> trivial
  · exact quiet_of_reading event (reads event last)

theorem loud_of_quiet (before : List Event) (quiet : ∀ event ∈ before, event.IsQuiet)
    (ended : Option (Event × Stop)) : Notice.loud (Journey.notices ⟨before, ended⟩) = [] := by
  apply List.filter_eq_nil_iff.mpr
  intro notice member
  obtain ⟨event, inside, reported⟩ := List.mem_filterMap.mp member
  cases event with
  | report told =>
      have isQuiet : told.level = .debug := quiet _ inside
      cases reported
      simp [isQuiet]
  | _ => cases reported

theorem notices_append (before after : List Event) (ended : Option (Event × Stop)) :
    Journey.notices ⟨before ++ after, ended⟩ =
      Journey.notices ⟨before, ended⟩ ++ Journey.notices ⟨after, ended⟩ :=
  List.filterMap_append

/-- Unless it is a stop, the conclusion reports the status by the level that it deserves. -/
theorem level_conclusion (status : SolveStatus)
    (answered : SolveStatus.ofCode engine.status engine.solutionCount = .ok status)
    (notStop : ∀ fault, Itinerary.conclusion title engine ≠ .stop fault) :
    ∃ notice, Itinerary.conclusion title engine = .report notice ∧
      notice.level = if status.isSuccess then .info else .warning := by
  unfold Itinerary.conclusion at notStop ⊢
  rw [answered] at notStop ⊢
  dsimp only at notStop ⊢
  by_cases success : status.isSuccess = true
  · rw [if_pos success] at notStop ⊢
    rw [if_pos success]
    cases written : engine.objectiveValue.written with
    | error fault => exact absurd (by rw [written]) (notStop fault)
    | ok text =>
        cases timed : engine.runtime.fixedText with
        | ok seconds => exact ⟨_, rfl, rfl⟩
        | error fault => exact absurd (by rw [written, timed]) (notStop fault)
  · rw [if_neg success] at notStop ⊢
    rw [if_neg success]
    cases written : engine.status.written with
    | ok code => exact ⟨_, rfl, rfl⟩
    | error fault => exact absurd (by rw [written]) (notStop fault)

theorem loud_events (status : SolveStatus)
    (answered : SolveStatus.ofCode engine.status engine.solutionCount = .ok status)
    (noStop : NoStop (Itinerary.events solver title objective formulation engine)) :
    (Notice.loud (Journey.notices
      ⟨Itinerary.events solver title objective formulation engine, none⟩)).map Notice.level =
        [if status.isSuccess then .info else .warning] := by
  obtain ⟨before, quiet, concludes⟩ := events_conclude solver title objective formulation engine
  rw [concludes] at noStop ⊢
  have notStop : ∀ fault, Itinerary.conclusion title engine ≠ .stop fault :=
    ((noStop_cons _ _).mp ((noStop_append _ _).mp noStop).2).1
  obtain ⟨notice, isReport, level⟩ := level_conclusion title engine status answered notStop
  have loud : notice.level ≠ .debug := by
    rw [level]
    split <;> decide
  have reported : Notice.loud (Journey.notices ⟨[.report notice], none⟩) = [notice] :=
    List.filter_cons_of_pos (by simpa using loud)
  rw [notices_append, Notice.loud_append, loud_of_quiet before quiet, isReport, reported, ← level]
  rfl

-- A solve that is cut short has not come to its conclusion.
theorem loud_before (before after : List Event) (event : Event)
    (split : Itinerary.events solver title objective formulation engine = before ++ event :: after)
    (ended : Option (Event × Stop)) : Notice.loud (Journey.notices ⟨before, ended⟩) = [] := by
  obtain ⟨whole, quiet, concludes⟩ := events_conclude solver title objective formulation engine
  have shorter := congrArg List.dropLast (split.symm.trans concludes)
  rw [List.dropLast_concat, List.dropLast_append_cons] at shorter
  apply loud_of_quiet before
  intro other member
  apply quiet other
  rw [← shorter]
  exact List.mem_append_left _ member

end Settled

namespace Solver

variable (solver : Solver) (problem : Problem) (engine : Engine)

section Running

variable (title : String) (formulation : Formulation)

theorem settledState_status (status : SolveStatus) :
    (Itinerary.settledState status formulation engine).status = status := by
  unfold Itinerary.settledState
  dsimp only
  split <;> rfl

/-- The ways in which a run ends: it comes to a status, the engine reports an error, or it raises. -/
theorem run_ways :
    let events := Itinerary.events solver title (problem.objective.map Aim.key) formulation engine
    let solved := solver.run problem title formulation engine
    (∃ status, SolveStatus.ofCode engine.status engine.solutionCount = .ok status ∧
        Passes engine.failure events ∧ solved.outcome = .ok status.isSuccess ∧
        solved.solver.state = Itinerary.settledState status formulation engine ∧
        (Notice.loud solved.notices).map Notice.level = [if status.isSuccess then .info else .warning]) ∨
      (∃ failing code message, engine.failure = some failing ∧
        failing.failure = .reported code message ∧ failing.IsReached events ∧
        solved.outcome = .ok false ∧ solved.solver.state = failedState (.engine code message) ∧
        (Notice.loud solved.notices).map Notice.level = [.error]) ∨
      ∃ fault, solved.outcome = .error fault := by
  intro events solved
  have run : solved = solver.run problem title formulation engine := rfl
  rcases travel_cases engine.failure events with
    ⟨passes, whole⟩ | ⟨before, event, after, stop, split, passes, ends, cut⟩
  · obtain ⟨status, answered⟩ := answered_of_noStop solver title _ formulation engine passes.noStop
    obtain ⟨outcome, state⟩ := run_passes solver problem engine title formulation events rfl whole
    rw [lastState_events solver title _ formulation engine status answered passes.noStop] at outcome state
    rw [settledState_status] at outcome
    refine Or.inl ⟨status, answered, passes, outcome, state, ?_⟩
    have loud := loud_events solver title _ formulation engine status answered passes.noStop
    unfold Solver.run at run
    rw [run, show travel engine.failure (Itinerary.events _ _ _ _ _) = _ from whole]
    simpa using loud
  · have quiet := loud_before solver title _ formulation engine before after event split
    unfold Solver.run at run
    rw [show travel engine.failure (Itinerary.events _ _ _ _ _) = _ from cut] at run
    cases ends with
    | stop fault => exact Or.inr (Or.inr ⟨fault, by rw [run]⟩)
    | engine failing _ fails here due =>
        have reached : failing.IsReached events := by
          rw [split]
          exact isReached_of_due failing before after event passes.noStop here due
        cases failure : failing.failure with
        | broken message =>
            rw [failure] at run
            exact Or.inr (Or.inr ⟨_, by rw [run]; rfl⟩)
        | reported code message =>
            rw [failure] at run
            dsimp only [EngineFailure.stop] at run
            cases check : (Rejection.engine code message).check with
            | error fault =>
                rw [check] at run
                exact Or.inr (Or.inr ⟨fault, by rw [run]⟩)
            | ok =>
                rw [check] at run
                refine Or.inr (Or.inl ⟨failing, code, message, fails, failure, reached, ?_⟩)
                rw [run]
                refine ⟨rfl, rfl, ?_⟩
                simp only [Notice.loud_append, quiet]
                rfl

/-- A run asks its problem for nothing but the name of the objective, and an earlier state for nothing. -/
theorem run_congr (other : Problem) (sameAim : other.objective.map Aim.key = problem.objective.map Aim.key)
    (earlier : SolverState) :
    let first := solver.run problem title formulation engine
    let second := ({ solver with state := earlier } : Solver).run other title formulation engine
    second.outcome = first.outcome ∧ second.calls = first.calls ∧ second.messages = first.messages ∧
      ∀ b, first.outcome = .ok b → second.solver = first.solver := by
  have events : Itinerary.events { solver with state := earlier } title (other.objective.map Aim.key)
      formulation engine =
        Itinerary.events solver title (problem.objective.map Aim.key) formulation engine := by
    rw [sameAim]
    rfl
  have settled := lastState_of_whole solver title (problem.objective.map Aim.key) formulation engine
    engine.failure earlier solver.state
  unfold Solver.run
  rw [events]
  generalize travel engine.failure (Itinerary.events solver title (problem.objective.map Aim.key)
    formulation engine) = journey at settled
  dsimp only
  cases ended : journey.ended with
  | none => simp [settled ended]
  | some last =>
      obtain ⟨event, stop⟩ := last
      cases stop with
      | engine code message => cases check : (Rejection.engine code message).check <;> simp [check]
      | fault fault => simp

end Running

theorem solve_congr (other : Problem) (sameAim : other.objective.map Aim.key = problem.objective.map Aim.key)
    (samePrepare : prepare other.assignNumbers = prepare problem.assignNumbers) (earlier : SolverState) :
    let first := solver.solve problem engine
    let second := ({ solver with state := earlier } : Solver).solve other engine
    second.outcome = first.outcome ∧ second.calls = first.calls ∧ second.messages = first.messages ∧
      ∀ b, first.outcome = .ok b → second.solver = first.solver := by
  cases prepared : prepare problem.assignNumbers with
  | error fault =>
      rw [prepared] at samePrepare
      rw [solve_of_fault _ _ _ fault prepared, solve_of_fault _ _ _ fault samePrepare]
      refine ⟨rfl, rfl, rfl, ?_⟩
      intro b returns
      cases returns
  | ok result =>
      rw [prepared] at samePrepare
      cases result with
      | error rejected =>
          rw [solve_of_rejected _ _ _ rejected.1 rejected.2 prepared,
            solve_of_rejected _ _ _ rejected.1 rejected.2 samePrepare]
          exact ⟨rfl, rfl, rfl, fun _ _ => rfl⟩
      | ok parts =>
          obtain ⟨notice, solved⟩ := solver.solve_of_prepared problem engine parts prepared
          obtain ⟨otherNotice, otherSolved⟩ :=
            ({ solver with state := earlier } : Solver).solve_of_prepared other engine parts samePrepare
          rw [solved, otherSolved]
          exact solver.run_congr problem.assignNumbers engine parts.title parts.formulation
            other.assignNumbers sameAim earlier

end Solver

section Verdict

/-- The objective of a reachable problem has a direction, so an accepted problem is specified. -/
theorem Problem.Reachable.specified_iff {problem : Problem} (reachable : problem.Reachable) :
    problem.Specified ↔ problem.rejection? = none := by
  rw [LinearProgram.specified_iff]
  apply and_iff_left_of_imp
  rintro - ⟨key, row⟩ aimed
  obtain ⟨aim, isAim, there⟩ := Option.bind_eq_some_iff.mp aimed
  obtain ⟨other, isRow, same⟩ := Option.bind_eq_some_iff.mp there
  cases same
  obtain ⟨own, isOwn, kind⟩ := reachable.ordered.objective aim isAim
  rw [isRow] at isOwn
  cases isOwn
  by_contra undirected
  simp [Row.kind, undirected] at kind

def Solver.EngineReports (solver : Solver) (problem : Problem) (engine : Engine) : Prop :=
  ∃ failing code message, engine.failure = some failing ∧ failing.failure = .reported code message ∧
    failing.IsReached (solver.plan problem engine)

structure SolverState.Tells (state : SolverState) (engine : Engine) (mixed returned : Bool) : Prop where
  status : state.status.isSuccess = returned
  message : state.message = "" ↔ returned = true
  objective : state.objective = if returned then engine.objectiveValue else .null
  gap : state.gap = if returned && mixed then engine.gap else .null
  nodes : mixed = false → state.nodes = 0

/-- A solve agrees with what it returned: with a solution, without one, or with a failure. It leaves one
record above those for debugging. -/
structure Solved.Tells (solved : Solved) (engine : Engine) (mixed : Bool) (fails : Prop) (returned : Bool) :
    Prop where
  found : returned = true ↔ ¬ fails ∧ engine.FoundSolution
  state : solved.solver.state.Tells engine mixed returned
  failed : fails → solved.solver.state = { status := .error, message := solved.solver.state.message }
  record : ∃ notice, Notice.loud solved.notices = [notice] ∧ (returned = true → notice.level = .info) ∧
    (fails → notice.level = .error) ∧ (returned = false → ¬ fails → notice.level = .warning)

theorem settledState_tells (status : SolveStatus) (formulation : Formulation) (engine : Engine) :
    (Itinerary.settledState status formulation engine).Tells engine
      (Itinerary.isMixed formulation engine) status.isSuccess := by
  have message : "Gurobi status " ++ engine.status.written.toOption.getD "" ≠ "" := by
    intro empty
    have letters := congrArg String.toList empty
    simp at letters
  unfold Itinerary.settledState Itinerary.answeredState
  by_cases success : status.isSuccess = true
  · rw [success, if_pos rfl]
    exact ⟨success, iff_of_true rfl rfl, rfl, rfl, fun pure_ => by simp [pure_]⟩
  · rw [Bool.not_eq_true] at success
    rw [success, if_neg (by decide)]
    exact ⟨success, iff_of_false message (by decide), rfl, rfl, fun pure_ => by simp [pure_]⟩

theorem failedState_tells (rejection : Rejection) (engine : Engine) (mixed : Bool) :
    (Solver.failedState rejection).Tells engine mixed false :=
  ⟨rfl, iff_of_false rejection.message_ne_empty (by decide), rfl, rfl, fun _ => rfl⟩

theorem loud_of_levels (notices : List Notice) (level : NoticeLevel)
    (levels : (Notice.loud notices).map Notice.level = [level]) :
    ∃ notice, Notice.loud notices = [notice] ∧ notice.level = level := by
  obtain ⟨notice, others, loud, isLevel, none⟩ := List.map_eq_cons_iff.mp levels
  rw [List.map_eq_nil_iff.mp none] at loud
  exact ⟨notice, loud, isLevel⟩

theorem tells_of_settled (solved : Solved) (engine : Engine) (formulation : Formulation)
    (status : SolveStatus) (fails : Prop) (unfailing : ¬ fails)
    (answered : SolveStatus.ofCode engine.status engine.solutionCount = .ok status)
    (state : solved.solver.state = Itinerary.settledState status formulation engine)
    (levels : (Notice.loud solved.notices).map Notice.level =
      [if status.isSuccess then .info else .warning]) :
    solved.Tells engine (Itinerary.isMixed formulation engine) fails status.isSuccess := by
  obtain ⟨notice, loud, level⟩ := loud_of_levels solved.notices _ levels
  refine ⟨?_, ?_, fun failed => absurd failed unfailing, notice, loud, ?_, ?_, ?_⟩
  · rw [isSuccess_ofCode engine status answered]
    exact (and_iff_right unfailing).symm
  · rw [state]
    exact settledState_tells status formulation engine
  · intro success
    rw [level, if_pos success]
  · exact fun failed => absurd failed unfailing
  · intro unsuccessful _
    rw [level, unsuccessful]
    rfl

theorem tells_of_failed (solved : Solved) (engine : Engine) (mixed : Bool) (rejection : Rejection)
    (fails : Prop) (failed : fails) (state : solved.solver.state = Solver.failedState rejection)
    (levels : (Notice.loud solved.notices).map Notice.level = [.error]) :
    solved.Tells engine mixed fails false := by
  obtain ⟨notice, loud, level⟩ := loud_of_levels solved.notices _ levels
  refine ⟨iff_of_false (by decide) fun found => found.1 failed, ?_, ?_, notice, loud, ?_, fun _ => level, ?_⟩
  · rw [state]
    exact failedState_tells rejection engine mixed
  · intro _
    rw [state]
    rfl
  · intro success
    cases success
  · exact fun _ unfailing => absurd failed unfailing

variable (solver : Solver) (problem : Problem) (engine : Engine)

namespace Solver

/-- A formulation is of the same kinds of variables as its problem. -/
theorem isMixed_of_prepared (prepared : Prepared)
    (isPrepared : prepare problem.assignNumbers = .ok (.ok prepared)) :
    Itinerary.isMixed prepared.formulation engine = Itinerary.isMixed problem.outline engine := by
  obtain ⟨-, -, -, -, made⟩ := prepare_accepted _ _ isPrepared
  obtain ⟨columns, -⟩ := formulate_keys _ _ _ made
  have types := congrArg (List.map Prod.snd) columns
  rw [Problem.columns_assignNumbers, List.map_map, List.map_map, List.map_map] at types
  have outline : problem.outline.columns.map (·.type) =
      problem.columns.entries.map fun entry => entry.2.variableType := by
    rw [Problem.outline, List.map_map]
    rfl
  unfold Itinerary.isMixed
  rw [outline]
  exact congrArg (fun types => (engine.mixed types).isTruthy) types

theorem solve_as_run (prepared : Prepared)
    (isPrepared : prepare problem.assignNumbers = .ok (.ok prepared)) :
    let solved := solver.solve problem engine
    let ran := solver.run problem.assignNumbers prepared.title prepared.formulation engine
    solved.outcome = ran.outcome ∧ solved.solver.state = ran.solver.state ∧
      Notice.loud solved.notices = Notice.loud ran.notices := by
  unfold solve
  dsimp only
  rw [isPrepared]
  exact ⟨rfl, rfl, rfl⟩

theorem tells_of_rejected (reachable : problem.Reachable) (title : String) (rejection : Rejection)
    (rejected : prepare problem.assignNumbers = .ok (.error (title, rejection))) (mixed : Bool) :
    (solver.solve problem engine).Tells engine mixed
      (¬ problem.Specified ∨ solver.EngineReports problem engine) false := by
  have refused := prepare_rejected problem.assignNumbers title rejection rejected
  rw [problem.rejection?_assignNumbers] at refused
  have unspecified : ¬ problem.Specified := by
    rw [reachable.specified_iff, refused]
    simp
  rw [solver.solve_of_rejected problem engine title rejection rejected]
  exact tells_of_failed _ engine mixed rejection _ (Or.inl unspecified) rfl rfl

theorem tells_of_prepared (reachable : problem.Reachable) (prepared : Prepared)
    (isPrepared : prepare problem.assignNumbers = .ok (.ok prepared)) (returned : Bool)
    (returns : (solver.solve problem engine).outcome = .ok returned) :
    (solver.solve problem engine).Tells engine (Itinerary.isMixed problem.outline engine)
      (¬ problem.Specified ∨ solver.EngineReports problem engine) returned := by
  obtain ⟨-, accepted, -⟩ := prepare_accepted problem.assignNumbers prepared isPrepared
  rw [problem.rejection?_assignNumbers] at accepted
  have specified := reachable.specified_iff.mpr accepted
  have plan := solver.plan_of_prepared problem engine prepared isPrepared
  obtain ⟨runOutcome, runState, loud⟩ := solver.solve_as_run problem engine prepared isPrepared
  rw [runOutcome] at returns
  rw [← isMixed_of_prepared problem engine prepared isPrepared]
  rcases solver.run_ways problem.assignNumbers engine prepared.title prepared.formulation with
    ⟨status, answered, passes, outcome, state, levels⟩ |
      ⟨failing, code, message, fails, reports, reached, outcome, state, levels⟩ | ⟨fault, outcome⟩
  · cases outcome.symm.trans returns
    refine tells_of_settled _ engine prepared.formulation status _ ?_ answered ?_ ?_
    · rintro (unspecified | ⟨failing, code, message, fails, -, reached⟩)
      · exact unspecified specified
      · rw [plan] at reached
        exact not_isReached_of_passes failing _ (fails ▸ passes) reached
    · rw [runState, state]
    · rw [loud, levels]
  · cases outcome.symm.trans returns
    refine tells_of_failed _ engine _ (.engine code message) _ (Or.inr ?_) ?_ ?_
    · refine ⟨failing, code, message, fails, reports, ?_⟩
      rw [plan]
      exact reached
    · rw [runState, state]
    · rw [loud, levels]
  · rw [outcome] at returns
    cases returns

/-- A solve that returns agrees with what it returned. It returns true if and only if nothing was refused,
the engine reported no error, and it found a solution. State and record say the same, and the state of an
earlier solve does not matter. -/
theorem solve_tells_what_it_returns (reachable : problem.Reachable) (returned : Bool)
    (returns : (solver.solve problem engine).outcome = .ok returned) :
    let solved := solver.solve problem engine
    solved.Tells engine (Itinerary.isMixed problem.outline engine)
        (¬ problem.Specified ∨ solver.EngineReports problem engine) returned ∧
      ∀ earlier, let again := ({ solver with state := earlier } : Solver).solve problem engine
        again.outcome = .ok returned ∧ again.solver.state = solved.solver.state := by
  intro solved
  constructor
  · cases prepared : prepare problem.assignNumbers with
    | error fault =>
        rw [solver.solve_of_fault problem engine fault prepared] at returns
        cases returns
    | ok result =>
        cases result with
        | error rejected =>
            have tells := solver.tells_of_rejected problem engine reachable rejected.1 rejected.2 prepared
            rw [solver.solve_of_rejected problem engine rejected.1 rejected.2 prepared] at returns
            cases returns
            exact tells _
        | ok parts => exact solver.tells_of_prepared problem engine reachable parts prepared returned returns
  · intro earlier again
    obtain ⟨outcome, -, -, same⟩ := solver.solve_congr problem engine problem rfl rfl earlier
    exact ⟨outcome.trans returns, congrArg Solver.state (same returned returns)⟩

def pricelessAnswers : Engine :=
  { blendAnswers with failure := some ⟨.price, 0, .reported (.int 10005) "lost"⟩ }

theorem blend_tells :
    (({} : Solver).solve blend blendAnswers).Tells blendAnswers (Itinerary.isMixed blend.outline blendAnswers)
        (¬ blend.Specified ∨ ({} : Solver).EngineReports blend blendAnswers) true ∧
      (({} : Solver).solve blend pricelessAnswers).Tells pricelessAnswers
        (Itinerary.isMixed blend.outline pricelessAnswers)
        (¬ blend.Specified ∨ ({} : Solver).EngineReports blend pricelessAnswers) false := by
  have solved : (({} : Solver).solve blend blendAnswers).outcome = .ok true :=
    ok_of_toOption _ _ (by decide +kernel)
  have failed : (({} : Solver).solve blend pricelessAnswers).outcome = .ok false :=
    ok_of_toOption _ _ (by decide +kernel)
  constructor
  · exact (solve_tells_what_it_returns {} blend blendAnswers blend_reachable true solved).1
  · exact (solve_tells_what_it_returns {} blend pricelessAnswers blend_reachable false failed).1

end Solver

end Verdict

end LinearProgram
