import LinearProgram.Proofs.Closings
import LinearProgram.Proofs.Settings
import Mathlib.Data.List.TakeWhile

/-!
Tuning over the run of a program. The settings of a solver are those that its setters last accepted, and a
solve that gets to the optimisation sends them, all of them and before it.
-/

namespace LinearProgram

def ConfigChoice.setterCalls (choice : ConfigChoice) : List SetterCall :=
  match Session.configValues choice with
  | .ok config => config.setterCalls
  | .error _ => []

/-- The setter calls of a step on one of the solvers. A new solver comes after those that there are. -/
def Step.setterCalls (solvers index : Nat) : Step → List SetterCall
  | .setPresolve on value => if on = index then [.presolve value] else []
  | .setGap on value => if on = index then [.gap value] else []
  | .setTimeLimit on value => if on = index then [.timeLimit value] else []
  | .configure on choice => if on = index then choice.setterCalls else []
  | .solverFromConfig choice => if solvers = index then choice.setterCalls else []
  | _ => []

def SetterCall.step (index : Nat) : SetterCall → Step
  | presolve value => .setPresolve index value
  | gap value => .setGap index value
  | timeLimit value => .setTimeLimit index value

namespace Session

def setterCalls (session : Session) (step : Step) (index : Nat) : List SetterCall :=
  if index < (session.step step).1.solvers.length then step.setterCalls session.solvers.length index
  else []

def setterHistory : Session → List Step → Nat → List SetterCall
  | _, [], _ => []
  | session, first :: rest, index =>
      session.setterCalls first index ++ setterHistory (session.step first).1 rest index

def settingsAt (session : Session) (index : Nat) : Settings :=
  ((session.solvers[index]?).map Solver.settings).getD {}

section Solvers

variable (session : Session)

theorem solvers_store (index : Nat) (changed : Except Fault Problem) (kind : EntityKind) (key : Value) :
    (session.store index changed kind key).1.solvers = session.solvers := by
  unfold store
  split <;> rfl

theorem solvers_on (handle : Handle) (member : String) (act : EntityRef → Session × Reply)
    (each : ∀ ref, (act ref).1.solvers = session.solvers) :
    (session.on handle member act).1.solvers = session.solvers := by
  cases handle with
  | none => rfl
  | some ref => exact each ref

theorem solvers_setBounds (ref : EntityRef) (lower upper : Value) :
    (session.setBounds ref lower upper).1.solvers = session.solvers := by
  unfold setBounds
  split
  · rfl
  · dsimp only
    split <;> rfl

theorem solvers_add (ref : EntityRef) (coefficient target : Value) (indices : List Value) :
    (session.add ref coefficient target indices).1.solvers = session.solvers := by
  unfold add
  split
  · rfl
  · dsimp only
    split
    · rfl
    · split <;> rfl

theorem solvers_changeColumn (ref : EntityRef) (member : String) (change : Column → Column) :
    (session.changeColumn ref member change).1.solvers = session.solvers := by
  unfold changeColumn
  split
  · exact session.solvers_store ..
  · rfl

theorem solvers_assign (ref : EntityRef) (field : Field) (value : Value) :
    (session.assign ref field value).1.solvers = session.solvers := by
  unfold assign
  dsimp only
  split
  · exact session.solvers_changeColumn ..
  · exact session.solvers_store ..

theorem solvers_ensure (index : Nat) (kind : EntityKind) (name : Value) (indices : List Value) :
    (session.ensure index kind name indices).1.solvers = session.solvers := by
  unfold ensure
  split
  · rfl
  · split
    · rfl
    · exact session.solvers_store ..

theorem solvers_objective (index : Nat) (name direction : Value) :
    (session.objective index name direction).1.solvers = session.solvers := by
  unfold objective
  split
  · split
    · rfl
    · split <;> rfl
  · exact session.solvers_store ..

theorem solvers_setDirection (ref : EntityRef) (direction : Value) :
    (session.setDirection ref direction).1.solvers = session.solvers := by
  unfold setDirection
  split
  · exact session.solvers_store ..
  · rfl

theorem solvers_assignNumbers (index : Nat) :
    (session.assignNumbers index).1.solvers = session.solvers := by
  unfold assignNumbers
  split
  · rfl
  · dsimp only
    split <;> rfl

theorem solvers_setName (index : Nat) (name : Value) :
    (session.setName index name).1.solvers = session.solvers := by
  unfold setName
  split <;> rfl

end Solvers

end Session

def Step.isOnSolver : Step → Bool
  | .solver _ | .solverFromConfig _ | .configure .. | .setPresolve .. | .setGap .. | .setTimeLimit ..
  | .setCallback .. | .solve .. => true
  | _ => false

namespace Session

variable (session : Session)

theorem solvers_step (step : Step) (elsewhere : step.isOnSolver = false) :
    (session.step step).1.solvers = session.solvers := by
  cases step with
  | solver | solverFromConfig | configure | setPresolve | setGap | setTimeLimit | setCallback | solve =>
      cases elsewhere
  | setName index name => exact session.solvers_setName index name
  | column index name indices => exact session.solvers_ensure index .column name indices
  | row index name indices => exact session.solvers_ensure index .row name indices
  | objective index name direction => exact session.solvers_objective index name direction
  | newColumn | newRow | newObjective => exact session.solvers_store ..
  | setType handle _ => exact session.solvers_on handle _ _ fun ref => session.solvers_changeColumn ref ..
  | setBounds handle _ _ => exact session.solvers_on handle _ _ fun ref => session.solvers_setBounds ref ..
  | add handle _ _ _ => exact session.solvers_on handle _ _ fun ref => session.solvers_add ref ..
  | setDirection handle _ => exact session.solvers_on handle _ _ fun ref => session.solvers_setDirection ref ..
  | assign handle _ _ => exact session.solvers_on handle _ _ fun ref => session.solvers_assign ref ..
  | get handle => cases handle <;> rfl
  | columnText handle => exact session.solvers_on handle _ _ fun _ => rfl
  | rowText handle => exact session.solvers_on handle _ _ fun _ => rfl
  | engineBounds handle => exact session.solvers_on handle _ _ fun _ => rfl
  | assignNumbers index => exact session.solvers_assignNumbers index
  | _ => rfl

theorem solver_of_solverAt (index : Nat) (solver : Solver) (there : session.solverAt index = .ok solver) :
    session.solvers[index]? = some solver := by
  unfold solverAt at there
  split at there
  next found =>
    cases there
    exact found
  next => cases there

theorem solverAt_of_solver (index : Nat) (solver : Solver) (there : session.solvers[index]? = some solver) :
    session.solverAt index = .ok solver := by
  rw [solverAt, there]

theorem setSolver_self (index : Nat) (solver : Solver) (there : session.solvers[index]? = some solver) :
    session.setSolver index solver = session := by
  obtain ⟨inside, found⟩ := List.getElem?_eq_some_iff.mp there
  rw [setSolver, ← found, List.set_getElem_self]

theorem settingsAt_of_solverAt (index : Nat) (solver : Solver) (there : session.solverAt index = .ok solver) :
    session.settingsAt index = solver.settings := by
  rw [settingsAt, session.solver_of_solverAt index solver there]
  rfl

/-- What a changed solver does to the settings. -/
theorem settingsAt_setSolver (index on : Nat) (before after : Solver)
    (there : session.solverAt on = .ok before) :
    (session.setSolver on after).settingsAt index =
      if on = index then after.settings else session.settingsAt index := by
  have found := session.solver_of_solverAt on before there
  obtain ⟨inside, -⟩ := List.getElem?_eq_some_iff.mp found
  unfold settingsAt setSolver
  dsimp only
  by_cases same : on = index
  · subst same
    rw [if_pos rfl, List.getElem?_set_self inside]
    rfl
  · rw [if_neg same, List.getElem?_set_ne same]

theorem absent_of_solverAt (index : Nat) (fault : Fault) (absent : session.solverAt index = .error fault) :
    ¬ index < session.solvers.length := by
  intro inside
  unfold solverAt at absent
  rw [List.getElem?_eq_getElem inside] at absent
  cases absent

/-- A step on one solver calls its setters, if there is the solver. -/
theorem settingsAt_tune (on index : Nat) (calls : List SetterCall) (change : Settings → Tuned)
    (calling : ∀ settings, (change settings).settings = settings.after calls) :
    (session.tune on change).1.solvers.length = session.solvers.length ∧
      (session.tune on change).1.settingsAt index = (session.settingsAt index).after
        (if index < session.solvers.length then if on = index then calls else [] else []) := by
  unfold tune
  cases there : session.solverAt on with
  | error fault =>
      have absent := session.absent_of_solverAt on fault there
      refine ⟨rfl, ?_⟩
      by_cases same : on = index
      · subst same
        rw [if_neg absent]
        rfl
      · rw [if_neg same, ite_self]
        rfl
  | ok solver =>
      have found := session.solver_of_solverAt on solver there
      obtain ⟨inside, -⟩ := List.getElem?_eq_some_iff.mp found
      constructor
      · exact List.length_set
      · dsimp only
        rw [session.settingsAt_setSolver index on solver _ there]
        by_cases same : on = index
        · subst same
          rw [if_pos rfl, if_pos inside, if_pos rfl, calling, session.settingsAt_of_solverAt on solver there]
        · rw [if_neg same, if_neg same, ite_self]
          rfl

theorem settingsAt_append (solver : Solver) (index : Nat) :
    Session.settingsAt { session with solvers := session.solvers ++ [solver] } index =
      if session.solvers.length = index then solver.settings else session.settingsAt index := by
  unfold settingsAt
  by_cases same : session.solvers.length = index
  · rw [if_pos same, ← same, List.getElem?_concat_length]
    rfl
  · rw [if_neg same]
    dsimp only
    rcases Nat.lt_or_gt_of_ne same with beyond | inside
    · have after : (session.solvers ++ [solver]).length ≤ index := by simpa using Nat.succ_le_of_lt beyond
      rw [List.getElem?_eq_none after, List.getElem?_eq_none beyond.le]
    · rw [List.getElem?_append_left inside]

theorem settingsAt_beyond (index : Nat) (beyond : ¬ index < session.solvers.length) :
    session.settingsAt index = {} := by
  rw [settingsAt, List.getElem?_eq_none (Nat.le_of_not_lt beyond)]
  rfl

theorem settings_solve (solver : Solver) (problem : Problem) (engine : Engine) :
    (solver.solve problem engine).solver.settings = solver.settings := by
  unfold Solver.solve
  dsimp only
  split <;> rfl

theorem setterCalls_elsewhere (step : Step) (index solvers : Nat) (elsewhere : step.isOnSolver = false) :
    step.setterCalls solvers index = [] := by
  cases step with
  | solverFromConfig | configure | setPresolve | setGap | setTimeLimit => cases elsewhere
  | _ => rfl

theorem settingsAt_unchanged (index on : Nat) (before after : Solver)
    (there : session.solverAt on = .ok before) (same : after.settings = before.settings) :
    (session.setSolver on after).settingsAt index = session.settingsAt index := by
  rw [session.settingsAt_setSolver index on before after there]
  split
  next here => rw [same, ← here, session.settingsAt_of_solverAt on before there]
  next => rfl

theorem settingsAt_configure (on index : Nat) (choice : ConfigChoice) :
    (session.configure on (configValues choice)).1.solvers.length = session.solvers.length ∧
      (session.configure on (configValues choice)).1.settingsAt index = (session.settingsAt index).after
        (if index < session.solvers.length then if on = index then choice.setterCalls else [] else []) := by
  unfold ConfigChoice.setterCalls
  cases configValues choice with
  | error fault =>
      have stays : (session.configure on (.error fault)).1 = session := by
        unfold configure
        cases session.solverAt on <;> rfl
      rw [stays]
      refine ⟨rfl, ?_⟩
      rw [ite_self, ite_self]
      rfl
  | ok config =>
      have tunes : session.configure on (.ok config) =
          session.tune on fun settings => settings.configure config := by
        cases there : session.solverAt on with
        | error fault => simp only [configure, tune, there]
        | ok solver => simp only [configure, there]
      rw [tunes]
      exact session.settingsAt_tune on index _ _ fun settings => settings.configure_eq_after config

/-- A new solver has the settings that its configuration makes of the defaults. -/
theorem settingsAt_addSolver (index : Nat) (choice : ConfigChoice) :
    (session.addSolver (configValues choice)).1.settingsAt index = (session.settingsAt index).after
      (if index < (session.addSolver (configValues choice)).1.solvers.length then
        if session.solvers.length = index then choice.setterCalls else [] else []) := by
  unfold ConfigChoice.setterCalls
  cases configValues choice with
  | error fault =>
      dsimp only
      rw [ite_self, ite_self]
      rfl
  | ok config =>
      dsimp only
      have made : (session.addSolver (.ok config)).1 = session ∨ (session.addSolver (.ok config)).1 =
          { session with solvers := session.solvers ++ [{ settings := (Settings.configure {} config).settings }] } := by
        unfold addSolver
        dsimp only
        split
        · exact Or.inl rfl
        · exact Or.inr rfl
      rcases made with left_out | added
      · rw [left_out]
        split
        next inside =>
          rw [if_neg (Nat.ne_of_gt inside)]
          rfl
        next => rfl
      · rw [added, session.settingsAt_append, List.length_append, List.length_singleton]
        by_cases last : session.solvers.length = index
        · rw [if_pos last, if_pos (by omega), if_pos last, session.settingsAt_beyond index (by omega),
            Settings.configure_eq_after]
        · rw [if_neg last, if_neg last, ite_self]
          rfl

theorem settingsAt_solve (on target index : Nat) (engine : Engine) :
    (session.solve on target engine).1.settingsAt index = session.settingsAt index := by
  unfold solve
  split
  next given model there _ =>
    have kept : (session.setProblem target (given.solve model engine).problem).solverAt on = .ok given :=
      there
    exact settingsAt_unchanged _ index on given _ kept (settings_solve given model engine)
  next => rfl
  next => rfl

/-- The settings after a step are those before it, after the setter calls of the step. -/
theorem settingsAt_step (step : Step) (index : Nat) : (session.step step).1.settingsAt index =
    (session.settingsAt index).after (session.setterCalls step index) := by
  -- what does not change the count of solvers makes its setter calls on those that there are
  have counted (calls : List SetterCall)
      (isCalls : step.setterCalls session.solvers.length index = calls)
      (tuned : (session.step step).1.solvers.length = session.solvers.length ∧
        (session.step step).1.settingsAt index = (session.settingsAt index).after
          (if index < session.solvers.length then calls else [])) :
      (session.step step).1.settingsAt index =
        (session.settingsAt index).after (session.setterCalls step index) := by
    rw [tuned.2, setterCalls, tuned.1, isCalls]
  have untuned (none : step.setterCalls session.solvers.length index = [])
      (same : (session.step step).1.settingsAt index = session.settingsAt index) :
      (session.step step).1.settingsAt index =
        (session.settingsAt index).after (session.setterCalls step index) := by
    rw [same, setterCalls, none, ite_self]
    rfl
  by_cases elsewhere : step.isOnSolver = false
  · apply untuned (setterCalls_elsewhere step index _ elsewhere)
    rw [settingsAt, session.solvers_step step elsewhere]
    rfl
  · cases step with
    | setPresolve on value => exact counted _ rfl (session.settingsAt_tune on index _ _ fun _ => rfl)
    | setGap on value => exact counted _ rfl (session.settingsAt_tune on index _ _ fun _ => rfl)
    | setTimeLimit on value => exact counted _ rfl (session.settingsAt_tune on index _ _ fun _ => rfl)
    | configure on choice => exact counted _ rfl (session.settingsAt_configure on index choice)
    | solverFromConfig choice => exact session.settingsAt_addSolver index choice
    | solver listens =>
        apply untuned rfl
        refine (session.settingsAt_append { listens } index).trans ?_
        split
        next last => exact (session.settingsAt_beyond index (by omega)).symm
        next => rfl
    | setCallback on listens =>
        apply untuned rfl
        simp only [step, setListening]
        split
        next => rfl
        next solver there => exact session.settingsAt_unchanged index on solver _ there rfl
    | solve on target engine => exact untuned rfl (session.settingsAt_solve on target index engine)
    | _ => exact absurd rfl elsewhere

theorem settingsAt_run (steps : List Step) (index : Nat) : (session.run steps).1.settingsAt index =
    (session.settingsAt index).after (session.setterHistory steps index) := by
  induction steps generalizing session with
  | nil => rfl
  | cons first rest ih =>
      refine (ih (session.step first).1).trans ?_
      rw [settingsAt_step, setterHistory, Settings.after_append]

theorem step_setter (call : SetterCall) (index : Nat) :
    session.step (call.step index) = session.tune index call.on := by
  cases call <;> rfl

/-- A setter call that does not answer with true leaves all as it was. -/
theorem step_of_unaccepted (call : SetterCall) (index : Nat)
    (unaccepted : (session.step (call.step index)).2.answer ≠ .ok (.flag true)) :
    (session.step (call.step index)).1 = session := by
  rw [step_setter] at unaccepted ⊢
  unfold tune at unaccepted ⊢
  cases there : session.solverAt index with
  | error fault => rfl
  | ok solver =>
      rw [there] at unaccepted
      have refused : (call.on solver.settings).isAccepted = false := by
        unfold Tuned.isAccepted
        rw [beq_eq_false_iff_ne]
        intro accepted
        apply unaccepted
        dsimp only
        rw [ok_of_toOption _ true accepted]
        rfl
      dsimp only
      rw [Settings.settings_of_unaccepted solver.settings call refused]
      exact session.setSolver_self index solver (session.solver_of_solverAt index solver there)

end Session

def Call.tuning? : Call → Option (String × Value)
  | tune name value => some (name, value)
  | _ => none

section Sending

theorem tuning?_of_stage (call : Call) (other : call.stage ≠ .tuning) : call.tuning? = none := by
  cases call with
  | tune name value => exact absurd rfl other
  | _ => rfl

theorem tunings_of_stage (calls : List Call) (other : ∀ call ∈ calls, call.stage ≠ .tuning) :
    calls.filterMap Call.tuning? = [] := by
  apply List.filterMap_eq_nil_iff.mpr
  intro call member
  exact tuning?_of_stage call (other call member)

theorem tunings_tuningCalls (settings : Settings) : settings.tuningCalls.filterMap Call.tuning? =
    [("Presolve", .int (if settings.presolve then -1 else 0)), ("MIPGap", .float settings.gap)] ++
      (settings.timeLimit.map fun limit => ("TimeLimit", .float limit)).toList := by
  unfold Settings.tuningCalls
  cases settings.timeLimit <;> rfl

variable (solver : Solver) (formulation : Formulation)

-- Of the calls before the optimisation those that tune are the settings.
theorem tunings_before (others : List Call) :
    ((outwardCalls solver formulation ++ others).takeWhile fun call => !call.isOptimize).filterMap
      Call.tuning? = solver.settings.tuningCalls.filterMap Call.tuning? := by
  have opening := tunings_of_stage (Formulation.openingCalls solver.listens formulation.name)
    fun call member => by simp [stage_openingCalls _ _ call member]
  have building := tunings_of_stage formulation.buildingCalls
    fun call member => by simp [stage_buildingCalls formulation call member]
  rw [takeWhile_outward, List.filterMap_append, List.filterMap_append, opening, building]
  rfl

theorem tunings_outward (others : List Call) (other : ∀ call ∈ others, call.stage ≠ .tuning) :
    (outwardCalls solver formulation ++ others).filterMap Call.tuning? =
      solver.settings.tuningCalls.filterMap Call.tuning? := by
  have before := tunings_before solver formulation []
  rw [takeWhile_outward] at before
  rw [List.filterMap_append, tunings_of_stage others other, List.append_nil, outwardCalls,
    List.filterMap_append, before]
  exact List.append_nil _

theorem early_outward (call : Call) (member : call ∈ (outwardCalls solver formulation).dropLast) :
    call.isOptimize = false := by
  have before := takeWhile_outward solver formulation []
  rw [List.append_nil] at before
  rw [outwardCalls, List.dropLast_concat, ← before] at member
  simpa using List.mem_takeWhile_imp member

/-- A solve that gets to the optimisation has made all its calls up to there. -/
theorem outward_of_optimize (problem : Problem) (engine : Engine)
    (reached : (solver.solve problem engine).calls.any Call.isOptimize = true) :
    ∃ formulation others, (∀ call ∈ others, call.stage ≠ .tuning) ∧
      (solver.solve problem engine).calls = outwardCalls solver formulation ++ others := by
  rw [solver.calls_solve, solver.calls_journey] at reached ⊢
  have owed := closing_owed engine (solver.journey problem engine).attempted
  obtain ⟨call, member, optimizes⟩ := List.any_eq_true.mp reached
  have attempts : call ∈ (solver.journey problem engine).attempted := by
    rcases List.mem_append.mp member with attempted | closes
    · exact attempted
    · have stage := owed call closes
      cases call with
      | optimize => cases stage
      | _ => cases optimizes
  rcases solver.plan_cases problem engine with nothing | ⟨title, objective, formulation, events⟩
  · rw [solver.journey_nowhere problem engine nothing] at attempts
    cases attempts
  · obtain ⟨fetches, only, calls⟩ := calls_events solver title objective formulation engine
    have within := attempted_within engine.failure (solver.plan problem engine)
    rw [events, calls, ← events] at within
    obtain ⟨rest, split⟩ := within
    change (solver.journey problem engine).attempted ++ rest = _ at split
    have later : ∀ call ∈ fetches ++ engine.owed (solver.journey problem engine).attempted,
        call.stage ≠ .tuning := by
      intro call member
      rcases List.mem_append.mp member with fetch | closes
      · simp [only call fetch, Call.stage]
      · simp [owed call closes]
    rcases List.append_eq_append_iff.mp split with ⟨more, whole, -⟩ | ⟨sent, attempted, isSent⟩
    · -- what is attempted is all of it, since the last call optimises
      have none : more = [] := by
        by_contra some
        have early : call ∈ (outwardCalls solver formulation).dropLast := by
          rw [whole, List.dropLast_append_of_ne_nil some]
          exact List.mem_append_left _ attempts
        rw [early_outward solver formulation call early] at optimizes
        cases optimizes
      rw [none, List.append_nil] at whole
      refine ⟨formulation, engine.owed (solver.journey problem engine).attempted, ?_, ?_⟩
      · intro call member
        exact later call (List.mem_append_right _ member)
      · rw [whole]
    · refine ⟨formulation, sent ++ engine.owed (solver.journey problem engine).attempted, ?_, ?_⟩
      · intro call member
        apply later call
        rw [isSent, List.append_assoc]
        rcases List.mem_append.mp member with inside | closes
        · exact List.mem_append_left _ inside
        · exact List.mem_append_right _ (List.mem_append_right _ closes)
      · rw [← List.append_assoc, ← attempted]

end Sending

namespace Session

theorem calls_solveStep (session : Session) (index target : Nat) (engine : Engine) (solver : Solver)
    (there : session.solvers[index]? = some solver) :
    let reply := (session.step (.solve index target engine)).2
    reply.calls = [] ∨ ∃ problem, reply.calls = (solver.solve problem engine).calls := by
  simp only [step, solve, session.solverAt_of_solver index solver there]
  cases session.problemAt target with
  | error fault => exact Or.inl rfl
  | ok problem => exact Or.inr ⟨problem, rfl⟩

/-- A solve that gets to the optimisation sends the settings of its solver before it, and no others. -/
theorem tunings_of_solve (session : Session) (index target : Nat) (engine : Engine) (solver : Solver)
    (there : session.solvers[index]? = some solver)
    (reached : (session.step (.solve index target engine)).2.calls.any Call.isOptimize = true) :
    let calls := (session.step (.solve index target engine)).2.calls
    calls.filterMap Call.tuning? = solver.settings.tuningCalls.filterMap Call.tuning? ∧
      (calls.takeWhile fun call => !call.isOptimize).filterMap Call.tuning? =
        solver.settings.tuningCalls.filterMap Call.tuning? := by
  intro calls
  rcases session.calls_solveStep index target engine solver there with nothing | ⟨problem, solved⟩
  · rw [nothing] at reached
    cases reached
  · have isSolve : calls = (solver.solve problem engine).calls := solved
    rw [solved] at reached
    obtain ⟨formulation, others, later, sent⟩ := outward_of_optimize solver problem engine reached
    rw [isSolve, sent]
    exact ⟨tunings_outward solver formulation others later, tunings_before solver formulation others⟩

/-- Tuning over the run of a program. The settings of a solver are valid, and each is what was last accepted
for it; a setter call that is not accepted changes nothing; and a solve that gets to the optimisation sends
the settings before it, and no others. -/
theorem tuning_of_run (steps : List Step) (index : Nat) (solver : Solver)
    (there : (Session.run {} steps).1.solvers[index]? = some solver) :
    let session := (Session.run {} steps).1
    solver.settings.Valid ∧
    solver.settings.IsLastOf (setterHistory {} steps index) ∧
    (∀ call : SetterCall, (call.on solver.settings).isAccepted = false →
      (call.on solver.settings).settings = solver.settings) ∧
    (∀ call : SetterCall, (session.step (call.step index)).2.answer ≠ .ok (.flag true) →
      (session.step (call.step index)).1 = session) ∧
    ∀ target engine,
      let calls := (session.step (.solve index target engine)).2.calls
      let settings :=
        [("Presolve", Value.int (if solver.settings.presolve then -1 else 0)),
            ("MIPGap", .float solver.settings.gap)] ++
          (solver.settings.timeLimit.map fun limit => ("TimeLimit", .float limit)).toList
      calls.any Call.isOptimize = true →
        calls.filterMap Call.tuning? = settings ∧
          (calls.takeWhile fun call => !call.isOptimize).filterMap Call.tuning? = settings := by
  intro session
  have settings : solver.settings = Settings.after {} (setterHistory {} steps index) := by
    have run := settingsAt_run {} steps index
    rw [settingsAt, there] at run
    exact run
  refine ⟨?_, ?_, ?_, ?_, ?_⟩
  · rw [settings]
    exact Settings.valid_default.after _
  · rw [settings]
    exact Settings.isLastOf_after _
  · exact fun call unaccepted => solver.settings.settings_of_unaccepted call unaccepted
  · exact fun call unaccepted => session.step_of_unaccepted call index unaccepted
  · intro target engine calls expected reached
    obtain ⟨sends, before⟩ := session.tunings_of_solve index target engine solver there reached
    rw [tunings_tuningCalls] at sends before
    exact ⟨sends, before⟩

section Blend

/-- A program that tunes a solver for the blending problem. Not-a-number and a value that does not convert
are not accepted, and a configuration ends at the latter. -/
def tunedSteps : List Step :=
  blendSteps ++
    [.solver false, .setGap 0 (.bool true), .setGap 0 (.float .nan), .setTimeLimit 0 (.int 60),
      .setTimeLimit 0 (.text "5"),
      .configure 0 (.values { presolve := .list [], gap := .int (10 ^ 400), timeLimit := .int 5 })]

theorem blend_tuned : ∃ solver, (Session.run {} tunedSteps).1.solvers[0]? = some solver ∧
    solver.settings.Valid ∧
    (((Session.run {} tunedSteps).1.step (.solve 0 0 plainAnswers)).2.calls).filterMap Call.tuning? =
      [("Presolve", .int 0), ("MIPGap", .float (.ofInt 1)), ("TimeLimit", .float (.ofInt 60))] := by
  have tuned : (Session.run {} tunedSteps).1.solvers[0]?.map Solver.settings =
      some { presolve := false, gap := .ofInt 1, timeLimit := some (.ofInt 60) } := by decide +kernel
  obtain ⟨solver, there, settings⟩ := Option.map_eq_some_iff.mp tuned
  obtain ⟨valid, -, -, -, sends⟩ := tuning_of_run tunedSteps 0 solver there
  have sent := (sends 0 plainAnswers (by decide +kernel)).1
  rw [settings] at sent
  exact ⟨solver, there, valid, sent⟩

end Blend

end Session

end LinearProgram
