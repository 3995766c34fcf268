import LinearProgram.Proofs.Plans

/-!
What a solve opens it closes. However a solve ends, its calls begin those that it makes with an engine that
does not fail, and then the model and the environment are closed, each if it was made.
-/

namespace LinearProgram

namespace Engine

def lets (engine : Engine) (point : Point) : Bool :=
  engine.failure.all fun failing => failing.point != point || decide (0 < failing.skipped)

/-- The closings that are owed after some calls. What was made is closed, the model before the environment;
it was made if its call is among them and did not fail. -/
def owed (engine : Engine) (sent : List Call) : List Call :=
  let made (point : Point) : Bool := sent.any (fun call => call.point? == some point) && engine.lets point
  (if made .openModel then [.closeModel] else []) ++
    if made .openEnvironment then [.closeEnvironment] else []

theorem lets_iff (engine : Engine) (point : Point) : engine.lets point = true ↔
    ∀ failing, engine.failure = some failing → failing.point = point → 0 < failing.skipped := by
  unfold lets
  cases engine.failure with
  | none => simp
  | some failing =>
      by_cases here : failing.point = point <;> simp [here]

end Engine

section Making

variable (failure : Option FailurePoint) (calls : List Call) (rest : List Event) (point : Point)

theorem passes_passed (events : List Event) : Passes failure (travel failure events).passed := by
  rcases travel_cases failure events with ⟨passes, whole⟩ | ⟨before, event, after, stop, -, passes, -, cut⟩
  · rw [whole]
    exact passes
  · rw [cut]
    exact passes

-- Events that begin with calls come to the point of one of these only by a call.
theorem made_of_hit (member : ∃ call ∈ calls, call.point? = some point) (before : List Event)
    (begins : before <+: calls.map Event.call ++ rest) (hit : 0 < hits point before) :
    ∃ call, Event.call call ∈ before ∧ call.point? = some point := by
  obtain ⟨after, split⟩ := begins
  rcases List.append_eq_append_iff.mp split with ⟨others, isCalls, -⟩ | ⟨others, isBefore, -⟩
  · obtain ⟨event, inside, here⟩ := List.countP_pos_iff.mp hit
    have isCall : event ∈ calls.map Event.call := by
      rw [isCalls]
      exact List.mem_append_left _ inside
    obtain ⟨call, -, rfl⟩ := List.mem_map.mp isCall
    exact ⟨call, inside, beq_iff_eq.mp here⟩
  · obtain ⟨call, inside, here⟩ := member
    refine ⟨call, ?_, here⟩
    rw [isBefore]
    exact List.mem_append_left _ (List.mem_map_of_mem inside)

theorem call?_eq_some (event : Event) (call : Call) : event.call? = some call ↔ event = .call call := by
  cases event <;> simp [Event.call?]

theorem mem_passed_calls (journey : Journey) (call : Call) :
    call ∈ journey.passed.filterMap Event.call? ↔ Event.call call ∈ journey.passed := by
  simp [List.mem_filterMap, call?_eq_some]

/-- A call that opens something has passed if it was attempted and the engine lets the first one pass. -/
theorem opened_eq (engine : Engine) (isOpening : Call → Bool)
    (opens : ∀ call, isOpening call = true ↔ call.point? = some point)
    (member : ∃ call ∈ calls, call.point? = some point) :
    (travel engine.failure (calls.map Event.call ++ rest)).opened isOpening =
      ((travel engine.failure (calls.map Event.call ++ rest)).attempted.any
        (fun call => call.point? == some point) && engine.lets point) := by
  have begins := passed_begins engine.failure (calls.map Event.call ++ rest)
  have passes := passes_passed engine.failure (calls.map Event.call ++ rest)
  have split := travel_cases engine.failure (calls.map Event.call ++ rest)
  generalize travel engine.failure (calls.map Event.call ++ rest) = journey at begins passes split
  rw [Bool.eq_iff_iff, Bool.and_eq_true, Engine.lets_iff, Journey.opened, List.any_eq_true,
    List.any_eq_true]
  simp only [mem_passed_calls, opens, beq_iff_eq]
  constructor
  · rintro ⟨call, inside, here⟩
    constructor
    · exact ⟨call, List.mem_append_left _ ((mem_passed_calls journey call).mpr inside), here⟩
    · intro failing fails same
      have hit : 0 < hits point journey.passed :=
        List.countP_pos_iff.mpr ⟨_, inside, beq_iff_eq.mpr here⟩
      rw [← same] at hit
      exact Nat.lt_of_lt_of_le hit (passes.later failing fails)
  · rintro ⟨⟨call, attempted, here⟩, lets⟩
    rcases List.mem_append.mp attempted with passed | last
    · exact ⟨call, (mem_passed_calls journey call).mp passed, here⟩
    · -- the engine failed at this call, so it had let another one pass before
      rcases split with ⟨-, rfl⟩ | ⟨before, event, after, stop, -, -, ends, rfl⟩
      · cases last
      · have isLast : event = .call call := by simpa [call?_eq_some] using last
        cases ends with
        | stop fault => cases isLast
        | engine failing _ fails reached due =>
            rw [isLast] at reached
            have same : failing.point = point := Option.some.inj (reached.symm.trans here)
            rw [same] at due
            have hit : 0 < hits point before := due ▸ lets failing fails same
            exact made_of_hit calls rest point member before begins hit

end Making

section Closing

variable (solver : Solver) (problem : Problem) (engine : Engine)

theorem opening_outward (formulation : Formulation) :
    (∃ call ∈ outwardCalls solver formulation, call.point? = some .openModel) ∧
      ∃ call ∈ outwardCalls solver formulation, call.point? = some .openEnvironment := by
  constructor
  · exact ⟨.openModel formulation.name, by simp [outwardCalls, Formulation.openingCalls], rfl⟩
  · exact ⟨.openEnvironment, by simp [outwardCalls, Formulation.openingCalls], rfl⟩

/-- After its calls a solve makes the closings that it owes. -/
theorem closings_eq_owed (title : String) (objective : Option Value) (formulation : Formulation) :
    (travel engine.failure (Itinerary.events solver title objective formulation engine)).closings =
      engine.owed
        (travel engine.failure (Itinerary.events solver title objective formulation engine)).attempted := by
  obtain ⟨rest, events⟩ := events_outward solver engine title objective formulation
  obtain ⟨model, environment⟩ := opening_outward solver formulation
  rw [events, Journey.closings, opened_eq _ rest .openModel engine _ _ model,
    opened_eq _ rest .openEnvironment engine _ _ environment]
  · rfl
  · intro call
    cases call <;> simp [Call.point?]
  · intro call
    cases call <;> simp [Call.point?]

-- An engine that does not fail and is told to optimise has made both.
theorem owed_of_outward (formulation : Formulation) (unfailing : engine.failure = none) (sent : List Call)
    (begins : outwardCalls solver formulation <+: sent) :
    engine.owed sent = [.closeModel, .closeEnvironment] := by
  have lets (point : Point) : engine.lets point = true := by
    rw [Engine.lets, unfailing]
    rfl
  have made (point : Point) (opens : ∃ call ∈ outwardCalls solver formulation, call.point? = some point) :
      sent.any (fun call => call.point? == some point) = true := by
    obtain ⟨call, member, here⟩ := opens
    exact List.any_eq_true.mpr ⟨call, begins.subset member, beq_iff_eq.mpr here⟩
  obtain ⟨model, environment⟩ := opening_outward solver formulation
  simp [Engine.owed, lets, made _ model, made _ environment]

theorem closing_owed (sent : List Call) : ∀ call ∈ engine.owed sent, call.stage = .closing := by
  intro call member
  unfold Engine.owed at member
  rcases List.mem_append.mp member with first | second
  · split at first
    · cases List.mem_singleton.mp first
      rfl
    · cases first
  · split at second
    · cases List.mem_singleton.mp second
      rfl
    · cases second

/-- Without the closings the calls of a solve are those that it attempted on its way. -/
theorem calls_before_closing (title : String) (objective : Option Value) (formulation : Formulation) :
    let journey := travel engine.failure (Itinerary.events solver title objective formulation engine)
    journey.calls.filter (fun call => call.stage != .closing) = journey.attempted := by
  intro journey
  obtain ⟨fetches, only, calls⟩ := calls_events solver title objective formulation engine
  have within := attempted_within engine.failure
    (Itinerary.events solver title objective formulation engine)
  rw [calls] at within
  rw [Journey.calls, List.filter_append]
  have attempted : journey.attempted.filter (fun call => call.stage != .closing) = journey.attempted := by
    apply List.filter_eq_self.mpr
    intro call member
    rcases List.mem_append.mp (within.subset member) with outward | fetch
    · simpa using open_outwardCalls solver formulation call outward
    · simp [only call fetch, Call.stage]
  have closed : journey.closings.filter (fun call => call.stage != .closing) = [] := by
    apply List.filter_eq_nil_iff.mpr
    intro call member
    rw [closings_eq_owed solver engine] at member
    simp [closing_owed engine _ call member]
  rw [attempted, closed, List.append_nil]

end Closing

section Beginning

-- The first call is made even if it fails.
theorem attempted_first (failure : Option FailurePoint) (call : Call) (rest : List Event) :
    ∃ others, (travel failure (.call call :: rest)).attempted = call :: others := by
  rcases travel_event (.call call) rest failure with ⟨stop, ended, -⟩ | ⟨-, next, goes, -, -⟩
  · rw [ended]
    exact ⟨[], rfl⟩
  · rw [goes, attempted_cons]
    exact ⟨_, rfl⟩

end Beginning

section Unreached

variable (events : List Event)

theorem travel_none_append (before rest : List Event) (noStop : NoStop before) :
    travel none (before ++ rest) =
      { travel none rest with passed := before ++ (travel none rest).passed } := by
  induction before with
  | nil => rfl
  | cons event before ih =>
      obtain ⟨notStop, noStop⟩ := (noStop_cons event before).mp noStop
      rw [List.cons_append, travel_onward event _ notStop, ih noStop]
      rfl

/-- An engine that does not fail before a solve stops by itself makes no difference. -/
theorem travel_unreached (failure : Option FailurePoint)
    (unreached : ∀ failing, failure = some failing → ¬ failing.IsReached events) :
    travel failure events = travel none events := by
  rcases travel_cases failure events with
    ⟨passes, whole⟩ | ⟨before, event, after, stop, split, passes, ends, cut⟩
  · rw [whole, travel_passes none events (passes_of_noStop events passes.noStop)]
  · cases ends with
    | stop fault =>
        rw [cut, split, travel_none_append before _ passes.noStop, travel_stop, List.append_nil]
    | engine failing _ fails here due =>
        have reached := isReached_of_due failing before after event passes.noStop here due
        rw [← split] at reached
        exact absurd reached (unreached failing fails)

end Unreached

namespace Solver

section Planned

variable (solver : Solver) (problem : Problem) (engine : Engine)

theorem plan_cases : solver.plan problem engine = [] ∨ ∃ title objective formulation,
    solver.plan problem engine = Itinerary.events solver title objective formulation engine := by
  by_cases ready : ∃ prepared, prepare problem.assignNumbers = .ok (.ok prepared)
  · obtain ⟨prepared, isPrepared⟩ := ready
    exact Or.inr ⟨_, _, _, solver.plan_of_prepared problem engine prepared isPrepared⟩
  · apply Or.inl
    apply solver.plan_of_unprepared problem engine
    intro prepared isPrepared
    exact ready ⟨prepared, isPrepared⟩

/-- The calls of a solve: what it attempts, and the closings that it then owes. -/
theorem calls_journey : (solver.journey problem engine).calls =
    (solver.journey problem engine).attempted ++ engine.owed (solver.journey problem engine).attempted := by
  rcases solver.plan_cases problem engine with nothing | ⟨title, objective, formulation, events⟩
  · rw [solver.journey_nowhere problem engine nothing]
    simp [Journey.calls, Journey.attempted, Journey.closings, Journey.opened, Engine.owed]
  · rw [Journey.calls, journey, events, closings_eq_owed solver engine]

theorem attempted_journey : (solver.journey problem engine).attempted =
    (solver.solve problem engine).calls.filter fun call => call.stage != .closing := by
  rw [calls_solve]
  rcases solver.plan_cases problem engine with nothing | ⟨title, objective, formulation, events⟩
  · rw [solver.journey_nowhere problem engine nothing]
    rfl
  · rw [journey, events, calls_before_closing solver engine]

/-- With an engine that does not fail both the model and the environment are closed in the end. -/
theorem closes_both (unfailing : engine.failure = none)
    (somewhere : (solver.solve problem engine).calls ≠ []) :
    (solver.solve problem engine).calls =
      (solver.solve problem engine).calls.filter (fun call => call.stage != .closing) ++
        [.closeModel, .closeEnvironment] := by
  rw [← attempted_journey]
  rw [calls_solve] at somewhere ⊢
  rcases solver.plan_cases problem engine with nothing | ⟨title, objective, formulation, events⟩
  · rw [solver.journey_nowhere problem engine nothing] at somewhere
    exact absurd rfl somewhere
  · obtain ⟨rest, outward⟩ := events_outward solver engine title objective formulation
    have begins : outwardCalls solver formulation <+: (solver.journey problem engine).attempted := by
      rw [journey, unfailing, events, outward, travel_none_append _ rest (noStop_calls _)]
      rw [Journey.attempted, List.filterMap_append, filterMap_calls, List.append_assoc]
      exact List.prefix_append _ _
    rw [calls_journey, owed_of_outward solver engine formulation unfailing _ begins]

/-- A prepared problem gets to the engine. -/
theorem opens_first (prepared : Prepared) (isPrepared : prepare problem.assignNumbers = .ok (.ok prepared)) :
    ∃ others, (solver.solve problem engine).calls = .openEnvironment :: others := by
  obtain ⟨rest, outward⟩ := events_outward solver engine prepared.title
    (problem.objective.map Aim.key) prepared.formulation
  rw [calls_solve, journey_of_prepared solver problem engine prepared isPrepared, outward, Journey.calls]
  obtain ⟨others, attempted⟩ := attempted_first engine.failure .openEnvironment _
  exact ⟨_, congrArg (· ++ _) attempted⟩

theorem plan_of_no_calls (nothing : (solver.solve problem engine).calls = []) :
    solver.plan problem engine = [] := by
  apply solver.plan_of_unprepared problem engine
  intro prepared isPrepared
  obtain ⟨others, first⟩ := solver.opens_first problem engine prepared isPrepared
  rw [first] at nothing
  cases nothing

/-- A solve makes no calls only if its problem is refused or the solve raises. -/
theorem stays_of_no_calls (nothing : (solver.solve problem engine).calls = []) :
    problem.rejection? ≠ none ∨ ∃ fault, (solver.solve problem engine).outcome = .error fault := by
  cases isPrepared : prepare problem.assignNumbers with
  | error fault =>
      rw [solver.solve_of_fault problem engine fault isPrepared]
      exact Or.inr ⟨fault, rfl⟩
  | ok result =>
      cases result with
      | error rejected =>
          have refused := prepare_rejected problem.assignNumbers rejected.1 rejected.2 isPrepared
          rw [problem.rejection?_assignNumbers] at refused
          exact Or.inl (by simp [refused])
      | ok prepared =>
          obtain ⟨others, first⟩ := solver.opens_first problem engine prepared isPrepared
          rw [first] at nothing
          cases nothing

end Planned

/-- A solve closes what it opened, and a failure only cuts its calls short. Its calls begin those of the same
solve with an engine that does not fail; then the model is closed if it was made, then the environment if
it was made, and nothing follows. The solve whose engine does not fail closes both. An accepted problem whose
name can be written is sent to the engine in any case. -/
theorem solve_closes_what_it_opened (solver : Solver) (problem : Problem) (engine : Engine) :
    let solved := solver.solve problem engine
    let whole := solver.solve problem { engine with failure := none }
    (∃ sent, sent <+: whole.calls.filter (fun call => call.stage != .closing) ∧
      solved.calls = sent ++ engine.owed sent) ∧
    ((∀ failing, engine.failure = some failing → ¬ failing.IsReached (solver.plan problem engine)) →
      solved.calls = whole.calls) ∧
    (whole.calls = whole.calls.filter (fun call => call.stage != .closing) ++
        [.closeModel, .closeEnvironment] ∨
      whole.calls = [] ∧ solved.calls = [] ∧
        (problem.rejection? ≠ none ∨ ∃ fault, whole.outcome = .error fault)) ∧
    (problem.Reachable → problem.TextObjective → problem.Fits → problem.rejection? = none →
      (∃ title, problem.title = .ok title) → ∃ others, solved.calls = .openEnvironment :: others) := by
  intro solved whole
  have samePlan : solver.plan problem { engine with failure := none } = solver.plan problem engine := rfl
  have faultless : solver.journey problem { engine with failure := none } =
      travel none (solver.plan problem engine) := rfl
  have calls : solved.calls = _ := (solver.calls_solve problem engine).trans
    (solver.calls_journey problem engine)
  refine ⟨⟨_, ?_, calls⟩, ?_, ?_, ?_⟩
  · rw [← solver.attempted_journey problem { engine with failure := none }, faultless]
    exact attempted_begins engine.failure (solver.plan problem engine)
  · intro unreached
    have same := travel_unreached (solver.plan problem engine) engine.failure unreached
    rw [solver.calls_solve problem engine, solver.calls_solve problem { engine with failure := none }]
    rw [faultless, journey, same]
  · by_cases nothing : whole.calls = []
    · apply Or.inr
      have stays := solver.stays_of_no_calls problem { engine with failure := none } nothing
      have plan := solver.plan_of_no_calls problem { engine with failure := none } nothing
      refine ⟨nothing, ?_, stays⟩
      rw [solver.calls_solve problem engine, solver.journey_nowhere problem engine plan]
      rfl
    · exact Or.inl (solver.closes_both problem { engine with failure := none } rfl nothing)
  · rintro reachable named fits accepted ⟨title, titled⟩
    have inOrder := problem.inOrder_of_textObjective named
    exact solver.opens_first problem engine _
      (problem.prepare_assignNumbers reachable.closed inOrder fits accepted title titled)

def rowlessAnswers : Engine :=
  { blendAnswers with failure := some ⟨.addConstraint, 0, .reported (.int 10005) "lost"⟩ }

theorem blend_closed :
    let solved := ({} : Solver).solve blend rowlessAnswers
    let whole := ({} : Solver).solve blend { rowlessAnswers with failure := none }
    (∃ others, solved.calls = .openEnvironment :: others) ∧
      (∃ sent, sent <+: whole.calls ∧ solved.calls = sent ++ rowlessAnswers.owed sent) ∧
      solved.calls.map Call.stage =
        List.replicate 4 .opening ++ List.replicate 5 .building ++ [.closing, .closing] := by
  intro solved whole
  obtain ⟨⟨sent, begins, calls⟩, -, closes, opens⟩ := solve_closes_what_it_opened {} blend rowlessAnswers
  have opened := opens blend_reachable (by decide +kernel) (by decide +kernel) blend_accepted blend_titled
  refine ⟨opened, ⟨sent, ?_, calls⟩, by decide +kernel⟩
  rcases closes with both | ⟨-, nothing, -⟩
  · rw [show whole.calls = _ from both]
    exact begins.trans (List.prefix_append _ _)
  · obtain ⟨others, first⟩ := opened
    cases nothing.symm.trans first

end Solver

end LinearProgram
