import LinearProgram.Proofs.Readback
import LinearProgram.Proofs.Store

/-!
What escapes a solve. A failure that the engine reports becomes a failed state. A failure of another kind
escapes, and so does a count of the engine that has no whole part, or anything that has to be written and is
too long; nothing else does, if all names are texts and the engine answers with numbers.
-/

namespace LinearProgram

section Names

/-- The problem is named by a text or not at all, and so is its objective. -/
structure Problem.NamedByText (problem : Problem) : Prop where
  name : problem.name = .null ∨ ∃ name, problem.name = .text name
  objective : problem.TextObjective

def Step.NamesTexts (step : Step) : Prop :=
  ∀ name, step.Names name → name = .null ∨ ∃ text, name = .text text

def Problem.BuiltByText (problem : Problem) : Prop :=
  ∃ steps, Session.SoundRun {} steps ∧ (∀ step ∈ steps, step.NamesTexts) ∧
    problem ∈ (Session.run {} steps).1.problems

theorem Problem.SameFrame.textObjective {before after : Problem} (same : SameFrame before after)
    (named : before.TextObjective) : after.TextObjective := by
  have aim := same.aim
  unfold TextObjective beside? at named ⊢
  cases isAim : after.objective with
  | none => rfl
  | some aimed =>
      cases aimed with
      | row key => rfl
      | beside name row earlier =>
          rw [isAim, Option.map_some, eq_comm, Option.map_eq_some_iff] at aim
          obtain ⟨old, wasAim, bare⟩ := aim
          rw [wasAim] at named
          cases old with
          | row key => cases bare
          | beside => cases named

theorem Problem.name_changeRow (problem : Problem) (key : Value) (change : Row → Row) :
    (problem.changeRow key change).name = problem.name := by
  unfold changeRow
  split
  · rfl
  · split <;> rfl

theorem Problem.NamedByText.withWrite {problem : Problem} (named : problem.NamedByText) (index : Nat)
    (write : Option CellWrite) : (problem.withWrite index write).NamedByText := by
  refine ⟨?_, (problem.sameFrame_withWrite index write).textObjective named.objective⟩
  unfold Problem.withWrite
  split
  · split
    · rw [Problem.setCoefficient, Problem.name_changeRow]
      exact named.name
    · exact named.name
  · exact named.name

variable {builds : Prop} {names : Value → Prop}
  (texts : ∀ name, names name → name = .null ∨ ∃ text, name = .text text)

include texts

theorem Edit.namedByText {declares : EntityKind → Value → Prop} {before after : Problem}
    (edit : Edit builds names declares before after) (named : before.NamedByText) : after.NamedByText := by
  cases edit with
  | rename name given => exact ⟨texts name given, named.objective⟩
  | aim => exact ⟨named.name, rfl⟩
  | aside name direction _ _ given notNull notText =>
      rcases texts name given with null | ⟨text, isText⟩
      · exact absurd null notNull
      · exact absurd isText (notText text)
  | changeRow key change _ _ _ =>
      exact ⟨before.name_changeRow key change ▸ named.name,
        (before.sameFrame_changeRow key change).textObjective named.objective⟩
  | column | row | changeColumn | number => exact ⟨named.name, named.objective⟩

theorem Edits.namedByText {declares : EntityKind → Value → Prop} {before after : Problem}
    (edits : Edits builds names declares before after) (named : before.NamedByText) : after.NamedByText := by
  induction edits with
  | refl => exact named
  | tail _ edit ih => exact edit.namedByText texts ih

theorem Session.Moved.namedByText {declares : EntityRef → Prop} {write : Option CellWrite}
    {before after : Session} (moved : Moved builds names declares write before after)
    (named : ∀ problem ∈ before.problems, problem.NamedByText) :
    ∀ problem ∈ after.problems, problem.NamedByText := by
  intro problem member
  obtain ⟨index, found⟩ := List.mem_iff_getElem?.mp member
  cases was : before.problems[index]? with
  | none =>
      obtain ⟨-, name, given, rfl⟩ := moved.fresh index problem was found
      exact ⟨texts name given, rfl⟩
  | some old =>
      obtain ⟨edited, edits, _, there⟩ := moved.edits index old was
      rw [found] at there
      cases there
      exact (edits.namedByText texts (named old (List.mem_of_getElem? was))).withWrite index write

omit texts in
theorem Session.run_namedByText (session : Session) (steps : List Step) (sound : session.SoundRun steps)
    (texts : ∀ step ∈ steps, step.NamesTexts)
    (named : ∀ problem ∈ session.problems, problem.NamedByText) :
    ∀ problem ∈ (session.run steps).1.problems, problem.NamedByText := by
  induction steps generalizing session with
  | nil => exact named
  | cons first rest ih =>
      have moved := session.step_moved first sound.1
      exact ih (session.step first).1 sound.2 (fun step inside => texts step (List.mem_cons_of_mem _ inside))
        (moved.namedByText (texts first List.mem_cons_self) named)

omit texts in
theorem Problem.BuiltByText.reachable {problem : Problem} (built : problem.BuiltByText) :
    problem.Reachable ∧ problem.NamedByText := by
  obtain ⟨steps, sound, texts, member⟩ := built
  exact ⟨⟨_, Session.Reachable.run {} steps .start sound, member⟩,
    Session.run_namedByText {} steps sound texts (by simp) problem member⟩

end Names

/-- What an engine answers where it does not fail: numbers, messages that are texts, and a value of every
expression. -/
structure Engine.Numeric (engine : Engine) : Prop where
  status : ∃ x, engine.status = .number x
  solutionCount : ∃ x, engine.solutionCount = .number x
  expressions : ∀ expression, ∃ x, engine.expressionValue expression = .ok x
  talks : engine.Talks

theorem Engine.Numeric.answered {engine : Engine} (numeric : engine.Numeric) :
    ∃ status, SolveStatus.ofCode engine.status engine.solutionCount = .ok status := by
  obtain ⟨code, isCode⟩ := numeric.status
  obtain ⟨count, isCount⟩ := numeric.solutionCount
  rw [isCode, isCount]
  unfold SolveStatus.ofCode
  simp only [Value.isKey, Bool.not_true, Bool.false_eq_true, if_false]
  split
  next status _ => exact ⟨status, rfl⟩
  next =>
    split
    · exact ⟨_, rfl⟩
    · exact ⟨_, rfl⟩

def untilStop : List Event → List Event
  | [] => []
  | .stop _ :: _ => []
  | event :: rest => event :: untilStop rest

def FailurePoint.IsReached (failing : FailurePoint) (events : List Event) : Prop :=
  failing.skipped < hits failing.point (untilStop events)

section Reaching

theorem untilStop_cons (event : Event) (rest : List Event) (notStop : ∀ fault, event ≠ .stop fault) :
    untilStop (event :: rest) = event :: untilStop rest := by
  cases event with
  | stop fault => exact absurd rfl (notStop fault)
  | _ => rfl

theorem untilStop_append (before rest : List Event) (noStop : NoStop before) :
    untilStop (before ++ rest) = before ++ untilStop rest := by
  induction before with
  | nil => rfl
  | cons event before ih =>
      obtain ⟨notStop, noStop⟩ := (noStop_cons event before).mp noStop
      rw [List.cons_append, untilStop_cons event _ notStop, ih noStop, List.cons_append]

variable (failing : FailurePoint) (before after : List Event)

-- An engine that fails after all events does not fail on them.
theorem not_isReached_of_passes (passes : Passes (some failing) before) : ¬ failing.IsReached before := by
  have whole := untilStop_append before [] passes.noStop
  rw [List.append_nil, untilStop, List.append_nil] at whole
  rw [FailurePoint.IsReached, whole]
  exact Nat.not_lt.mpr (passes.later failing rfl)

-- Nor does it if a stop comes first.
theorem not_isReached_of_stop (passes : Passes (some failing) before) (fault : Fault) :
    ¬ failing.IsReached (before ++ .stop fault :: after) := by
  rw [FailurePoint.IsReached, untilStop_append before _ passes.noStop, untilStop, List.append_nil]
  exact Nat.not_lt.mpr (passes.later failing rfl)

theorem isReached_of_due (event : Event) (noStop : NoStop before) (here : event.point? = some failing.point)
    (due : hits failing.point before = failing.skipped) :
    failing.IsReached (before ++ event :: after) := by
  have notStop (fault : Fault) : event ≠ .stop fault := by
    rintro rfl
    cases here
  rw [FailurePoint.IsReached, untilStop_append before _ noStop, untilStop_cons event after notStop,
    hits_append, hits_cons, if_pos here, due]
  omega

end Reaching

theorem Rejection.message_ne_empty (rejection : Rejection) : rejection.message ≠ "" := by
  intro empty
  have letters := congrArg String.toList empty
  cases rejection <;> simp [message] at letters

namespace Solver

variable (solver : Solver) (problem : Problem) (engine : Engine)

def itinerary : List Event :=
  Itinerary.events solver (problem.title.toOption.getD "") (problem.objective.map Aim.key) problem.outline
    engine

/-- What a solve fails of: the problem is refused, or the engine that it was sent to reports an error. -/
def Rejects (rejection : Rejection) : Prop :=
  problem.rejection? = some rejection ∨
    problem.rejection? = none ∧ ∃ failing code message, engine.failure = some failing ∧
      failing.IsReached (solver.itinerary problem engine) ∧ failing.failure = .reported code message ∧
      rejection = .engine code message

def Reports : Prop := ∃ rejection, solver.Rejects problem engine rejection ∧ rejection.check = .ok ()

/-- A failure whose message cannot be written, a breakdown of the engine, or an answer that stops a solve
before the engine fails. -/
def Escapes : Prop :=
  (∃ rejection fault, solver.Rejects problem engine rejection ∧ rejection.check = .error fault) ∨
  problem.rejection? = none ∧
    ((∃ failing message, engine.failure = some failing ∧
        failing.IsReached (solver.itinerary problem engine) ∧ failing.failure = .broken message) ∨
      ((∀ failing, engine.failure = some failing → ¬ failing.IsReached (solver.itinerary problem engine)) ∧
        ∃ status, SolveStatus.ofCode engine.status engine.solutionCount = .ok status ∧
          ¬ engine.Tells problem.outline status))

section Outcomes

variable (title : String)

/-- A run ends by itself, at an answer that stops it, or at a failure of the engine. -/
theorem run_ends (numeric : engine.Numeric) (titled : problem.title = .ok title) (status : SolveStatus)
    (answered : SolveStatus.ofCode engine.status engine.solutionCount = .ok status) :
    let solved := solver.run problem.assignNumbers title problem.outline engine
    let unreached := ∀ failing, engine.failure = some failing →
      ¬ failing.IsReached (solver.itinerary problem engine)
    (engine.Tells problem.outline status ∧ unreached ∧ ∃ b, solved.outcome = .ok b) ∨
      (¬ engine.Tells problem.outline status ∧ unreached ∧ ∃ fault, solved.outcome = .error fault) ∨
      ∃ failing, engine.failure = some failing ∧ failing.IsReached (solver.itinerary problem engine) ∧
        match failing.failure with
        | .reported code message =>
            let rejection := Rejection.engine code message
            solved.outcome = rejection.check.map (fun _ => false) ∧
              (rejection.check = .ok () → solved.solver.state = failedState rejection)
        | .broken message => solved.outcome = .error (.engineBroke message) := by
  intro solved unreached
  have isItinerary : Itinerary.events solver title (problem.objective.map Aim.key) problem.outline engine =
      solver.itinerary problem engine := by
    rw [itinerary, titled]
    rfl
  have tells := noStop_events_iff solver problem engine title (problem.objective.map Aim.key) status
    (fun _ => numeric.talks) (fun entry _ => numeric.expressions entry.2.expression) answered
  rw [isItinerary] at tells
  rcases travel_cases engine.failure (solver.itinerary problem engine) with
    ⟨passes, whole⟩ | ⟨before, event, after, stop, split, passes, ends, cut⟩
  · obtain ⟨outcome, -⟩ := run_passes solver problem.assignNumbers engine title problem.outline _
      isItinerary whole
    exact Or.inl ⟨tells.mp passes.noStop,
      fun failing fails => not_isReached_of_passes failing _ (fails ▸ passes), _, outcome⟩
  · have run : solved = solver.run problem.assignNumbers title problem.outline engine := rfl
    unfold Solver.run at run
    rw [show (problem.assignNumbers.objective.map Aim.key) = problem.objective.map Aim.key from rfl,
      isItinerary, cut] at run
    cases ends with
    | stop fault =>
        refine Or.inr (Or.inl ⟨fun told => ?_, fun failing fails => ?_, fault, by rw [run]⟩)
        · exact tells.mpr told fault (by simp [split])
        · rw [split]
          exact not_isReached_of_stop failing before after (fails ▸ passes) fault
    | engine failing _ fails here due =>
        refine Or.inr (Or.inr ⟨failing, fails, ?_, ?_⟩)
        · rw [split]
          exact isReached_of_due failing before after event passes.noStop here due
        · cases failure : failing.failure with
          | reported code message =>
              rw [failure] at run
              dsimp only [EngineFailure.stop] at run ⊢
              cases check : (Rejection.engine code message).check with
              | ok =>
                  rw [check] at run
                  exact ⟨by rw [run]; rfl, fun _ => by rw [run]⟩
              | error fault =>
                  rw [check] at run
                  exact ⟨by rw [run]; rfl, fun passes => by cases passes⟩
          | broken message =>
              rw [failure] at run
              rw [run]
              rfl

end Outcomes

-- A problem is refused unless the refusal itself cannot be shown.
theorem prepare_refused (inOrder : problem.orderFault? = none) (rejection : Rejection)
    (refused : problem.rejection? = some rejection) (title : String) (titled : problem.title = .ok title) :
    prepare problem.assignNumbers = rejection.check.map fun _ => .error (title, rejection) := by
  have ordered : problem.assignNumbers.checkOrder = .ok () := by
    simp [Problem.checkOrder, Problem.orderFault?_assignNumbers, inOrder]
  have name : problem.assignNumbers.title = .ok title := titled
  simp only [prepare, ordered, ok_bind, Problem.rejection?_assignNumbers, refused, name]
  cases rejection.check <;> rfl

section Failures

-- A refused problem fails of its refusal.
theorem rejects_iff_of_refused (refusal rejection : Rejection)
    (refused : problem.rejection? = some refusal) :
    solver.Rejects problem engine rejection ↔ rejection = refusal := by
  unfold Rejects
  simp [refused, eq_comm]

variable (accepted : problem.rejection? = none)

section Unreached

variable (unreached : ∀ failing, engine.failure = some failing →
  ¬ failing.IsReached (solver.itinerary problem engine))

include accepted unreached

theorem not_rejects_of_unreached (rejection : Rejection) : ¬ solver.Rejects problem engine rejection := by
  rintro (refused | ⟨-, failing, code, message, fails, reached, -⟩)
  · cases accepted.symm.trans refused
  · exact unreached failing fails reached

theorem escapes_iff_of_unreached (status : SolveStatus)
    (answered : SolveStatus.ofCode engine.status engine.solutionCount = .ok status) :
    solver.Escapes problem engine ↔ ¬ engine.Tells problem.outline status := by
  constructor
  · rintro (⟨rejection, fault, rejects, -⟩ | ⟨-, ⟨failing, message, fails, reached, -⟩ | ⟨-, other, also, stops⟩⟩)
    · exact absurd rejects (not_rejects_of_unreached solver problem engine accepted unreached rejection)
    · exact absurd reached (unreached failing fails)
    · cases answered.symm.trans also
      exact stops
  · exact fun stops => Or.inr ⟨accepted, Or.inr ⟨unreached, status, answered, stops⟩⟩

end Unreached

section Reached

variable (failing : FailurePoint) (fails : engine.failure = some failing)
  (reached : failing.IsReached (solver.itinerary problem engine))

include accepted fails reached

theorem rejects_iff_of_reported (code : Value) (message : String)
    (reports : failing.failure = .reported code message) (rejection : Rejection) :
    solver.Rejects problem engine rejection ↔ rejection = .engine code message := by
  unfold Rejects
  simp [accepted, fails, reached, reports]

theorem escapes_of_broken (message : String) (breaks : failing.failure = .broken message) :
    solver.Escapes problem engine :=
  Or.inr ⟨accepted, Or.inl ⟨failing, message, fails, reached, breaks⟩⟩

omit reached in
theorem not_rejects_of_broken (message : String) (breaks : failing.failure = .broken message)
    (rejection : Rejection) : ¬ solver.Rejects problem engine rejection := by
  unfold Rejects
  simp [accepted, fails, breaks]

theorem escapes_iff_of_reported (code : Value) (message : String)
    (reports : failing.failure = .reported code message) :
    solver.Escapes problem engine ↔ ∃ fault, (Rejection.engine code message).check = .error fault := by
  have rejects := rejects_iff_of_reported solver problem engine accepted failing fails reached code message
    reports
  constructor
  · rintro (⟨rejection, fault, isRejected, unwritten⟩ | ⟨-, ⟨other, _, isFailing, -, breaks⟩ | ⟨unreached, -⟩⟩)
    · cases (rejects rejection).mp isRejected
      exact ⟨fault, unwritten⟩
    · cases fails.symm.trans isFailing
      cases reports.symm.trans breaks
    · exact absurd reached (unreached failing fails)
  · rintro ⟨fault, unwritten⟩
    exact Or.inl ⟨_, fault, (rejects _).mpr rfl, unwritten⟩

end Reached

end Failures

/-- A refused problem makes a solve fail of its refusal, or raise if that cannot be written. -/
theorem refused_solve_ends (named : problem.NamedByText)
    (refusal : Rejection) (refused : problem.rejection? = some refusal) :
    let solved := solver.solve problem engine
    solved.outcome = refusal.check.map (fun _ => false) ∧
      (refusal.check = .ok () → solved.solver.state = failedState refusal) := by
  obtain ⟨title, titled⟩ := titled_of_text problem named.name
  have prepared := prepare_refused problem (problem.inOrder_of_textObjective named.objective) refusal
    refused title titled
  cases check : refusal.check with
  | ok =>
      rw [check] at prepared
      rw [solver.solve_of_rejected problem engine title refusal prepared]
      exact ⟨rfl, fun _ => rfl⟩
  | error fault =>
      rw [check] at prepared
      rw [solver.solve_of_fault problem engine fault prepared]
      exact ⟨rfl, fun passes => by cases passes⟩

/-- What escapes a solve. For a problem that was built with names that are texts, and an engine that answers
with numbers, a solve raises if and only if the message of what it fails of cannot be written, the engine fails
otherwise than by an error of its own kind, or it answers what stops the solve: a count without a whole part,
or what cannot be written into the report. Any other refusal or error of the engine makes the solve return
false, in a state of error with a message. -/
theorem solve_raises_iff_escapes (built : problem.BuiltByText) (fits : problem.Fits)
    (numeric : engine.Numeric) :
    ((∃ fault, (solver.solve problem engine).outcome = .error fault) ↔ solver.Escapes problem engine) ∧
      (solver.Reports problem engine → (solver.solve problem engine).outcome = .ok false ∧
        (solver.solve problem engine).solver.state.status = .error ∧
        (solver.solve problem engine).solver.state.message ≠ "") := by
  obtain ⟨reachable, named⟩ := built.reachable
  have failed (rejection : Rejection) : (failedState rejection).status = .error ∧
      (failedState rejection).message ≠ "" := ⟨rfl, rejection.message_ne_empty⟩
  cases refused : problem.rejection? with
  | some refusal =>
      have rejects (rejection : Rejection) :=
        rejects_iff_of_refused solver problem engine refusal rejection refused
      obtain ⟨outcome, state⟩ := refused_solve_ends solver problem engine named refusal refused
      unfold Escapes Reports
      simp only [rejects, outcome, refused, exists_and_left, exists_eq_left, reduceCtorEq, false_and, or_false]
      cases check : refusal.check with
      | ok => exact ⟨by simp [Except.map], fun _ => ⟨rfl, by rw [state check]; exact failed refusal⟩⟩
      | error fault => simp [Except.map]
  | none =>
      obtain ⟨status, answered⟩ := numeric.answered
      obtain ⟨title, titled⟩ := titled_of_text problem named.name
      obtain ⟨notice, solved⟩ := solver.solve_accepted problem engine reachable.closed
        (problem.inOrder_of_textObjective named.objective) fits refused title titled
      rw [solved]
      rcases run_ends solver problem engine title numeric titled status answered with
        ⟨told, unreached, b, outcome⟩ | ⟨untold, unreached, fault, outcome⟩ |
          ⟨failing, fails, reached, ending⟩
      · have quiet := not_rejects_of_unreached solver problem engine refused unreached
        rw [escapes_iff_of_unreached solver problem engine refused unreached status answered]
        exact ⟨iff_of_false (by simp [outcome]) (not_not_intro told),
          fun ⟨rejection, rejects, _⟩ => absurd rejects (quiet rejection)⟩
      · have quiet := not_rejects_of_unreached solver problem engine refused unreached
        rw [escapes_iff_of_unreached solver problem engine refused unreached status answered]
        exact ⟨iff_of_true ⟨fault, outcome⟩ untold,
          fun ⟨rejection, rejects, _⟩ => absurd rejects (quiet rejection)⟩
      · cases failure : failing.failure with
        | reported code message =>
            rw [failure] at ending
            obtain ⟨outcome, state⟩ := ending
            rw [escapes_iff_of_reported solver problem engine refused failing fails reached code message failure]
            cases check : (Rejection.engine code message).check with
            | ok =>
                rw [check] at outcome
                refine ⟨iff_of_false (by simp [outcome, Except.map]) (by simp), fun _ => ⟨outcome, ?_⟩⟩
                rw [state check]
                exact failed _
            | error fault =>
                rw [check] at outcome
                refine ⟨iff_of_true ⟨fault, outcome⟩ ⟨fault, rfl⟩, ?_⟩
                rintro ⟨rejection, rejects, written⟩
                cases (rejects_iff_of_reported solver problem engine refused failing fails reached code message
                  failure rejection).mp rejects
                cases check.symm.trans written
        | broken message =>
            rw [failure] at ending
            refine ⟨iff_of_true ⟨_, ending⟩
              (escapes_of_broken solver problem engine refused failing fails reached message failure), ?_⟩
            rintro ⟨rejection, rejects, -⟩
            exact absurd rejects (not_rejects_of_broken solver problem engine refused failing fails message failure
              rejection)

section Blend

theorem blend_builtByText : blend.BuiltByText := by
  refine ⟨blendSteps, by decide +kernel, ?_, List.mem_of_getElem? blend_found⟩
  intro step inside name given
  simp only [blendSteps, List.mem_cons, List.not_mem_nil, or_false] at inside
  rcases inside with rfl | rfl | rfl | rfl | rfl | rfl | rfl | rfl | rfl | rfl | rfl | rfl | rfl | rfl | rfl <;>
    first | exact Or.inr ⟨_, given⟩ | cases given

theorem blend_accepted : blend.rejection? = none := Option.isNone_iff_eq_none.mp (by decide +kernel)

theorem expressionValue_unlisted (script : Script) (unlisted : script.values = []) (expression : Expression) :
    ∃ x, script.engine.expressionValue expression = .ok x := by
  suffices ∃ x, script.evaluate expression = .ok x by
    obtain ⟨x, evaluates⟩ := this
    exact ⟨.float x, congrArg (Except.map Value.float) evaluates⟩
  unfold Script.evaluate
  generalize Binary64.zero = sum
  induction expression generalizing sum with
  | nil => exact ⟨sum, rfl⟩
  | cons term rest ih =>
      obtain ⟨coefficient, name⟩ := term
      obtain ⟨y, total⟩ := ih (sum.add (coefficient.mul .zero))
      have zero : Script.answer script.values name = .float .zero := by rw [unlisted]; rfl
      refine ⟨y, ?_⟩
      rw [List.foldlM_cons]
      dsimp only
      rw [zero]
      exact total

def endlessAnswers : Engine := Script.engine { iterationCount := .float (.infinity false) }

theorem blend_count_escapes :
    ∃ fault, (({} : Solver).solve blend endlessAnswers).outcome = .error fault := by
  have numeric : endlessAnswers.Numeric :=
    ⟨⟨_, rfl⟩, ⟨_, rfl⟩, expressionValue_unlisted _ rfl, fun _ inside => by cases inside⟩
  have answered : SolveStatus.ofCode endlessAnswers.status endlessAnswers.solutionCount = .ok .optimal :=
    ok_of_toOption _ _ (by decide +kernel)
  have stops : ¬ endlessAnswers.Tells blend.outline .optimal := by
    rintro ⟨⟨-, n, isWhole⟩, -, -⟩
    have fails : endlessAnswers.iterationCount.toWhole.isOk = false := by decide +kernel
    rw [isWhole] at fails
    cases fails
  exact (solve_raises_iff_escapes {} blend endlessAnswers blend_builtByText (by decide +kernel) numeric).1.mpr
    (Or.inr ⟨blend_accepted, Or.inr ⟨fun failing fails => (by cases fails), .optimal, answered, stops⟩⟩)

def brokenAnswers : Engine := Script.engine { failure := some ⟨.optimize, 0, .broken "lost"⟩ }

/-- A solve can raise when the engine fails, though all names are texts and all answers are numbers. -/
theorem engine_failure_can_escape :
    ¬ ∀ (solver : Solver) (problem : Problem) (engine : Engine), problem.BuiltByText → engine.Numeric →
      ∃ b, (solver.solve problem engine).outcome = .ok b := by
  intro returns
  have numeric : brokenAnswers.Numeric :=
    ⟨⟨_, rfl⟩, ⟨_, rfl⟩, expressionValue_unlisted _ rfl, fun _ inside => by cases inside⟩
  obtain ⟨b, outcome⟩ := returns {} blend brokenAnswers blend_builtByText numeric
  have raises : (({} : Solver).solve blend brokenAnswers).outcome.isOk = false := by decide +kernel
  rw [outcome] at raises
  cases raises

end Blend

end Solver

end LinearProgram
