import LinearProgram.Proofs.Closings

/-!
Listening only observes. Two solves of which one has a listener pass the same events from the optimisation on;
before it they differ in how the engine is told to speak, and in the messages that are fetched and delivered.
-/

namespace LinearProgram

/-- A call as it is made when nobody listens. The calls that are only there for a listener are left out. -/
def Call.unheard? : Call → Option Call
  | .setParameter name value =>
      if name = "OutputFlag" ∨ name = "LogToConsole" then none else some (.setParameter name value)
  | .optimize _ => some (.optimize false)
  | .fetchMessage => none
  | call => some call

namespace Engine

def isMessage (event : Value × Value) : Bool := event.1.equals messageEvent

def told (engine : Engine) : List (Value × Value) := engine.messages.filter isMessage

end Engine

structure Trims (message : Value × Value) (text : String) : Prop where
  whole : ∃ line : String, message.2 = .text line ∧ ∃ n, line.toList = text.toList ++ List.replicate n '\n'
  bare : text.toList.getLast? ≠ some '\n'

section Trimming

theorem takeWhile_eq_replicate (letter : Char) (letters : List Char) :
    letters.takeWhile (· == letter) = List.replicate (letters.takeWhile (· == letter)).length letter := by
  refine List.eq_replicate_length.mpr fun other inside => ?_
  exact beq_iff_eq.mp (List.all_eq_true.mp List.all_takeWhile other inside)

theorem trims_trimmedMessage (kind : Value) (line : String) :
    Trims (kind, .text line) (Itinerary.trimmedMessage line) := by
  have split := List.takeWhile_append_dropWhile (p := (· == '\n')) (l := line.toList.reverse)
  unfold Itinerary.trimmedMessage
  constructor
  · refine ⟨line, rfl, (line.toList.reverse.takeWhile (· == '\n')).length, ?_⟩
    rw [String.toList_ofList, ← List.reverse_replicate, ← takeWhile_eq_replicate, ← List.reverse_append,
      split, List.reverse_reverse]
  · rw [String.toList_ofList, List.getLast?_reverse]
    intro ends
    have kept := List.head?_dropWhile_not (· == '\n') line.toList.reverse
    rw [ends] at kept
    cases kept

end Trimming

section Messages

theorem attempted_append (before : List Event) (journey : Journey) :
    Journey.attempted { journey with passed := before ++ journey.passed } =
      before.filterMap Event.call? ++ journey.attempted := by
  rw [Journey.attempted, List.filterMap_append, List.append_assoc, Journey.attempted]

theorem delivered_append (before after : List Event) (ended : Option (Event × Stop)) :
    Journey.delivered ⟨before ++ after, ended⟩ =
      Journey.delivered ⟨before, ended⟩ ++ Journey.delivered ⟨after, ended⟩ :=
  List.filterMap_append

theorem messageEvents_message (kind : Value) (line : String) (rest : List (Value × Value))
    (message : Engine.isMessage (kind, .text line) = true) :
    Itinerary.messageEvents ((kind, .text line) :: rest) =
      [.call .fetchMessage, .report (.engineMessage (Itinerary.trimmedMessage line)),
        .deliver (Itinerary.trimmedMessage line)] ++ Itinerary.messageEvents rest := by
  unfold Itinerary.messageEvents
  rw [List.flatMap_cons]
  exact congrArg (· ++ _) (if_pos message)

theorem messageEvents_other (event : Value × Value) (rest : List (Value × Value))
    (other : ¬ Engine.isMessage event = true) :
    Itinerary.messageEvents (event :: rest) = Itinerary.messageEvents rest := by
  unfold Itinerary.messageEvents
  rw [List.flatMap_cons]
  exact congrArg (· ++ _) (if_neg other)

/-- Every message that is told is fetched, and delivered without the newlines at its end. -/
theorem messageEvents_told (engine : Engine) (talks : engine.Talks) (ended : Option (Event × Stop)) :
    let events := Itinerary.messageEvents engine.messages
    events.filterMap Event.call? = engine.told.map (fun _ => .fetchMessage) ∧
      List.Forall₂ Trims engine.told (Journey.delivered ⟨events, ended⟩) := by
  unfold Engine.told
  unfold Engine.Talks at talks
  generalize engine.messages = messages at talks ⊢
  induction messages with
  | nil => exact ⟨rfl, .nil⟩
  | cons event rest ih =>
      obtain ⟨fetched, delivered⟩ := ih fun entry member => talks entry (List.mem_cons_of_mem _ member)
      by_cases isMessage : Engine.isMessage event = true
      · obtain ⟨line, isText⟩ := talks event List.mem_cons_self isMessage
        obtain ⟨kind, message⟩ := event
        cases isText
        dsimp only
        rw [messageEvents_message kind line rest isMessage, List.filter_cons_of_pos isMessage,
          List.filterMap_append, fetched, delivered_append]
        exact ⟨rfl, .cons (trims_trimmedMessage kind line) delivered⟩
      · rw [messageEvents_other event rest isMessage, List.filter_cons_of_neg isMessage]
        exact ⟨fetched, delivered⟩

end Messages

-- Up to the end of the optimisation everything that is told is fetched and delivered.
theorem outward_tells (solver : Solver) (engine : Engine) (formulation : Formulation) (talks : engine.Talks)
    (ended : Option (Event × Stop)) :
    let told := if solver.listens then engine.told else []
    (Itinerary.outward solver formulation engine).filterMap Event.call? =
        outwardCalls solver formulation ++ told.map (fun _ => .fetchMessage) ∧
      List.Forall₂ Trims told (Journey.delivered ⟨Itinerary.outward solver formulation engine, ended⟩) := by
  obtain ⟨fetched, delivered⟩ := messageEvents_told engine talks ended
  have undelivered : Journey.delivered ⟨(outwardCalls solver formulation).map Event.call, ended⟩ = [] := by
    refine List.filterMap_eq_nil_iff.mpr fun event member => ?_
    obtain ⟨call, -, rfl⟩ := List.mem_map.mp member
    rfl
  have outward : Itinerary.outward solver formulation engine = (outwardCalls solver formulation).map Event.call ++
      (if solver.listens then Itinerary.messageEvents engine.messages else []) := rfl
  rw [outward, List.filterMap_append, filterMap_calls, delivered_append, undelivered, List.nil_append]
  cases solver.listens with
  | true => exact ⟨congrArg _ fetched, delivered⟩
  | false => exact ⟨rfl, .nil⟩

section Inward

variable (title : String) (objective : Option Value) (formulation : Formulation) (engine : Engine)

def Itinerary.inward : List Event :=
  [.read .status, .read .solutionCount] ++ homeward title objective formulation engine

theorem inward_quiet (event : Event) (member : event ∈ Itinerary.inward title objective formulation engine) :
    event.call? = none ∧ ∀ text, event ≠ .deliver text := by
  obtain ⟨reading, homeward, reads⟩ := Itinerary.homeward_concludes title objective formulation engine
  unfold Itinerary.inward at member
  rw [homeward] at member
  rcases List.mem_append.mp member with asked | answered
  · simp only [List.mem_cons, List.not_mem_nil, or_false] at asked
    rcases asked with rfl | rfl <;> simp [Event.call?]
  · rcases List.mem_append.mp answered with inside | last
    · have isReading := reads event inside
      cases event with
      | call _ => cases isReading
      | deliver _ => cases isReading
      | _ => simp [Event.call?]
    · cases List.mem_singleton.mp last
      unfold Itinerary.conclusion
      split
      · simp [Event.call?]
      · split <;> split <;> simp [Event.call?]

theorem ended_inside (failure : Option FailurePoint) (events : List Event) (event : Event) (stop : Stop)
    (ended : (travel failure events).ended = some (event, stop)) : event ∈ events := by
  rcases travel_cases failure events with ⟨-, whole⟩ | ⟨before, last, after, stop, split, -, -, cut⟩
  · rw [whole] at ended
    cases ended
  · rw [cut] at ended
    cases ended
    rw [split]
    exact List.mem_append_right _ List.mem_cons_self

-- Nothing is called or delivered on the way home.
theorem inward_silent :
    let inner := travel none (Itinerary.inward title objective formulation engine)
    inner.attempted = [] ∧ inner.delivered = [] := by
  intro inner
  have quiet := inward_quiet title objective formulation engine
  have inside := (passed_begins none (Itinerary.inward title objective formulation engine)).subset
  constructor
  · have passed : inner.passed.filterMap Event.call? = [] :=
      List.filterMap_eq_nil_iff.mpr fun event member => (quiet event (inside member)).1
    rw [Journey.attempted, passed]
    cases ended : inner.ended with
    | none => rfl
    | some last => simp [(quiet last.1 (ended_inside _ _ _ _ ended)).1]
  · refine List.filterMap_eq_nil_iff.mpr fun event member => ?_
    have undelivered := (quiet event (inside member)).2
    cases event with
    | deliver text => exact absurd rfl (undelivered text)
    | _ => rfl

theorem recorded_messageEvents (messages : List (Value × Value)) :
    (Itinerary.messageEvents messages).filterMap Event.recorded? = [] := by
  refine List.filterMap_eq_nil_iff.mpr fun event member => ?_
  rcases mem_messageEvents messages event member with rfl | ⟨_, rfl | rfl⟩ | ⟨_, rfl⟩ <;> rfl

theorem recorded_outward (solver : Solver) :
    (Itinerary.outward solver formulation engine).filterMap Event.recorded? = [] := by
  have calls (sent : List Call) : (sent.map Event.call).filterMap Event.recorded? = [] :=
    List.filterMap_eq_nil_iff.mpr fun event member => by
      obtain ⟨call, -, rfl⟩ := List.mem_map.mp member
      rfl
  unfold Itinerary.outward
  rw [List.filterMap_append, calls, List.nil_append]
  split
  · exact recorded_messageEvents engine.messages
  · rfl

/-- A solve goes out and comes home. -/
theorem travel_events (solver : Solver) (talks : solver.listens = true → engine.Talks) :
    travel none (Itinerary.events solver title objective formulation engine) =
      let inner := travel none (Itinerary.inward title objective formulation engine)
      { inner with passed := Itinerary.outward solver formulation engine ++ inner.passed } := by
  have departs : Itinerary.events solver title objective formulation engine =
      Itinerary.outward solver formulation engine ++ Itinerary.inward title objective formulation engine :=
    List.append_assoc ..
  rw [departs, travel_none_append _ _ (noStop_outward solver engine formulation talks)]

end Inward

def wholeCalls (solver : Solver) (formulation : Formulation) (fetched : List (Value × Value)) : List Call :=
  outwardCalls solver formulation ++ fetched.map (fun _ => .fetchMessage) ++ [.closeModel, .closeEnvironment]

def Solver.toldTo (solver : Solver) (listens : Bool) : Solver := { solver with listens }

section Running

variable (solver : Solver) (problem : Problem) (engine : Engine) (title : String) (formulation : Formulation)
  (unfailing : engine.failure = none) (talks : engine.Talks)

include unfailing talks

-- What a run leaves and answers is settled on the way home, which is the same for both.
theorem run_alike :
    let heard := (solver.toldTo true).run problem title formulation engine
    let silent := (solver.toldTo false).run problem title formulation engine
    heard.outcome = silent.outcome ∧ heard.solver = silent.solver.toldTo true ∧
      heard.problem = silent.problem := by
  let inner := travel none (Itinerary.inward title (problem.objective.map Aim.key) formulation engine)
  have stored (listens : Bool) : Journey.storeResults { inner with
      passed := Itinerary.outward (solver.toldTo listens) formulation engine ++ inner.passed } problem =
        inner.storeResults problem := by
    rw [storeResults_eq_foldl, storeResults_eq_foldl, storedIn_append, storedIn_outward, List.nil_append]
  have recorded (listens : Bool) : Journey.lastState { inner with
      passed := Itinerary.outward (solver.toldTo listens) formulation engine ++ inner.passed } solver.state =
        inner.lastState solver.state := by
    rw [lastState_eq, lastState_eq, List.filterMap_append, recorded_outward, List.nil_append]
  have whole (listens : Bool) := travel_events title (problem.objective.map Aim.key) formulation engine
    (solver.toldTo listens) fun _ => talks
  unfold Solver.run
  rw [unfailing, whole true, whole false]
  dsimp only
  rw [stored true, stored false]
  rw [show (solver.toldTo true).state = solver.state from rfl, recorded true]
  rw [show (solver.toldTo false).state = solver.state from rfl, recorded false]
  exact ⟨rfl, rfl, rfl⟩

-- A run calls what leads to the optimisation, fetches what it is told, and closes what it made.
theorem run_sends (listens : Bool) :
    let solved := (solver.toldTo listens).run problem title formulation engine
    let told := if listens then engine.told else []
    solved.calls = wholeCalls (solver.toldTo listens) formulation told ∧
      List.Forall₂ Trims told solved.messages := by
  intro solved told
  let journey := travel engine.failure
    (Itinerary.events (solver.toldTo listens) title (problem.objective.map Aim.key) formulation engine)
  have calls : solved.calls = journey.attempted ++ journey.closings := rfl
  have messages : solved.messages = journey.delivered := rfl
  have closings : journey.closings = engine.owed journey.attempted :=
    closings_eq_owed (solver.toldTo listens) engine title (problem.objective.map Aim.key) formulation
  have outward : journey = _ := (congrArg (travel · _) unfailing).trans
    (travel_events title (problem.objective.map Aim.key) formulation engine (solver.toldTo listens) fun _ => talks)
  obtain ⟨uncalled, undelivered⟩ := inward_silent title (problem.objective.map Aim.key) formulation engine
  obtain ⟨fetched, delivered⟩ := outward_tells (solver.toldTo listens) engine formulation talks journey.ended
  have attempted : journey.attempted =
      outwardCalls (solver.toldTo listens) formulation ++ told.map (fun _ => .fetchMessage) := by
    rw [outward, attempted_append, uncalled, List.append_nil]
    exact fetched
  constructor
  · rw [calls, closings, attempted, owed_of_outward (solver.toldTo listens) engine formulation unfailing _
      (List.prefix_append _ _), wholeCalls]
  · rw [outward] at delivered
    rw [messages, outward, delivered_append, undelivered, List.append_nil]
    exact delivered

end Running

/-- What two solves share of which the first has a listener: everything that they return and leave, and their
calls but for those that serve the listener. -/
structure Solved.Echoes (heard silent : Solved) : Prop where
  outcome : heard.outcome = silent.outcome
  solver : heard.solver = silent.solver.toldTo true
  problem : heard.problem = silent.problem
  calls : heard.calls.filterMap Call.unheard? = silent.calls.filterMap Call.unheard?

/-- Every message that arrives while the engine optimises is delivered, in order and but for the newlines at its
end. Nothing else is. Only a problem that is refused, or that makes the solve raise, is not optimised. -/
def Solved.Hears (heard : Solved) (problem : Problem) (engine : Engine) : Prop :=
  heard.calls = [] ∧ heard.messages = [] ∧
      (problem.rejection?.isSome = true ∨ ∃ fault, heard.outcome = .error fault) ∨
    Call.optimize true ∈ heard.calls ∧ List.Forall₂ Trims engine.told heard.messages

def Solved.IsSilenced (silent : Solved) : Prop :=
  silent.messages = [] ∧ (silent.calls = [] ∨ ∃ rest,
    silent.calls = [.openEnvironment, .setParameter "OutputFlag" 0, .start] ++ rest ∧
      ∀ name value, Call.setParameter name value ∉ rest)

def Problem.Shown (problem : Problem) : Prop :=
  (∃ title, problem.title = .ok title) ∧
    ∀ rejection, problem.rejection? = some rejection → rejection.check = .ok ()

section Listening

variable (solver : Solver) (problem : Problem) (engine : Engine)

theorem unheard_wholeCalls (formulation : Formulation) (listens : Bool) (fetched : List (Value × Value)) :
    (wholeCalls (solver.toldTo listens) formulation fetched).filterMap Call.unheard? =
      (wholeCalls (solver.toldTo false) formulation []).filterMap Call.unheard? := by
  have fetches : (fetched.map fun _ => Call.fetchMessage).filterMap Call.unheard? = [] := by
    refine List.filterMap_eq_nil_iff.mpr fun call member => ?_
    obtain ⟨_, -, rfl⟩ := List.mem_map.mp member
    rfl
  have opening : (Formulation.openingCalls listens formulation.name).filterMap Call.unheard? =
      (Formulation.openingCalls false formulation.name).filterMap Call.unheard? := by
    cases listens <;> rfl
  simp only [wholeCalls, outwardCalls, List.filterMap_append, fetches, List.map_nil, List.filterMap_nil]
  exact congrArg (· ++ _ ++ _ ++ _ ++ _ ++ _) opening

-- Parameters are set when the environment is opened, and not later.
theorem silenced_wholeCalls (formulation : Formulation) : ∃ rest,
    wholeCalls (solver.toldTo false) formulation [] =
        [.openEnvironment, .setParameter "OutputFlag" 0, .start] ++ rest ∧
      ∀ name value, Call.setParameter name value ∉ rest := by
  refine ⟨[.openModel formulation.name] ++ formulation.buildingCalls ++ solver.settings.tuningCalls ++
    [.optimize false, .closeModel, .closeEnvironment], ?_, ?_⟩
  · simp [wholeCalls, outwardCalls, Formulation.openingCalls, Solver.toldTo]
  · intro name value member
    simp only [List.mem_append, List.mem_cons, List.not_mem_nil, or_false, reduceCtorEq, false_or] at member
    rcases member with building | tuning
    · cases stage_buildingCalls formulation _ building
    · cases stage_tuningCalls _ _ tuning

theorem echoes_of_prepared (unfailing : engine.failure = none) (talks : engine.Talks) (prepared : Solver.Prepared)
    (isPrepared : Solver.prepare problem.assignNumbers = .ok (.ok prepared)) :
    let heard := (solver.toldTo true).solve problem engine
    let silent := (solver.toldTo false).solve problem engine
    heard.Echoes silent ∧ heard.Hears problem engine ∧ silent.IsSilenced := by
  intro heard silent
  obtain ⟨loud, isHeard⟩ := (solver.toldTo true).solve_of_prepared problem engine prepared isPrepared
  obtain ⟨quiet, isSilent⟩ := (solver.toldTo false).solve_of_prepared problem engine prepared isPrepared
  have alike := run_alike solver problem.assignNumbers engine prepared.title prepared.formulation unfailing talks
  have sends := run_sends solver problem.assignNumbers engine prepared.title prepared.formulation unfailing talks
  obtain ⟨heardCalls, heardMessages⟩ := sends true
  obtain ⟨silentCalls, silentMessages⟩ := sends false
  have silences := silenced_wholeCalls solver prepared.formulation
  rw [show heard = _ from isHeard, show silent = _ from isSilent]
  refine ⟨⟨alike.1, alike.2.1, alike.2.2, ?_⟩, Or.inr ⟨?_, heardMessages⟩, ?_, Or.inr ?_⟩
  · dsimp only
    rw [heardCalls, silentCalls]
    exact unheard_wholeCalls solver prepared.formulation true _
  · dsimp only
    rw [heardCalls]
    simp [wholeCalls, outwardCalls, Solver.toldTo]
  · exact List.forall₂_nil_left_iff.mp silentMessages
  · dsimp only
    rw [silentCalls]
    exact silences

-- A problem that can be shown is solved without a fault by an engine that fails nowhere and tells what can be
-- written.
theorem returns_of_answers (reachable : problem.Reachable) (named : problem.TextObjective) (fits : problem.Fits)
    (shown : problem.Shown) (status : SolveStatus)
    (answered : SolveStatus.ofCode engine.status engine.solutionCount = .ok status)
    (answers : engine.Answers problem solver.listens)
    (reported : ∃ text, (engine.reported status).written = .ok text) : ∃ b, (solver.solve problem engine).outcome = .ok b := by
  obtain ⟨⟨title, titled⟩, displays⟩ := shown
  have inOrder := problem.inOrder_of_textObjective named
  cases refused : problem.rejection? with
  | some rejection =>
      have prepared := Solver.prepare_refused problem inOrder rejection refused title titled
      rw [displays rejection refused] at prepared
      rw [solver.solve_of_rejected problem engine title rejection prepared]
      exact ⟨false, rfl⟩
  | none =>
      obtain ⟨notice, solved⟩ :=
        solver.solve_accepted problem engine reachable.closed inOrder fits refused title titled
      have tells : engine.Tells problem.outline status :=
        ⟨⟨fun _ => answers.nodes, answers.iterations⟩, reported, fun _ => answers.runtime⟩
      have noStop := (noStop_events_iff solver problem engine title (problem.objective.map Aim.key) status
        answers.messages answers.expressions answered).mpr tells
      have whole := travel_passes engine.failure _ (answers.noFailure ▸ passes_of_noStop _ noStop)
      obtain ⟨outcome, -⟩ := run_passes solver problem.assignNumbers engine title problem.outline _ rfl whole
      rw [solved]
      exact ⟨_, outcome⟩

/-- Listening only observes. With an engine that does not fail, whose messages are texts, a solve with a listener
echoes the one without: it returns and leaves the same, and makes the same calls but for those that serve the
listener. The listener hears every message, and without one the engine is told to be silent. If the problem can be
shown, the engine fails nowhere and what it reports can be written, both solves return. -/
theorem listening_only_observes (unfailing : engine.failure = none) (talks : engine.Talks) :
    let heard := (solver.toldTo true).solve problem engine
    let silent := (solver.toldTo false).solve problem engine
    heard.Echoes silent ∧ heard.Hears problem engine ∧ silent.IsSilenced ∧
      (problem.Reachable → problem.TextObjective → problem.Fits → problem.Shown →
        engine.Answers problem true →
        (∃ status, SolveStatus.ofCode engine.status engine.solutionCount = .ok status ∧
          ∃ text, (engine.reported status).written = .ok text) →
            ∃ b, heard.outcome = .ok b ∧ silent.outcome = .ok b) := by
  intro heard silent
  have echoes : heard.Echoes silent ∧ heard.Hears problem engine ∧ silent.IsSilenced := by
    cases isPrepared : Solver.prepare problem.assignNumbers with
    | error fault =>
        have raised (listens : Bool) := (solver.toldTo listens).solve_of_fault problem engine fault isPrepared
        rw [show heard = _ from raised true, show silent = _ from raised false]
        exact ⟨⟨rfl, rfl, rfl, rfl⟩, Or.inl ⟨rfl, rfl, Or.inr ⟨fault, rfl⟩⟩, rfl, Or.inl rfl⟩
    | ok result =>
        cases result with
        | error rejected =>
            obtain ⟨title, rejection⟩ := rejected
            have refused (listens : Bool) :=
              (solver.toldTo listens).solve_of_rejected problem engine title rejection isPrepared
            have stands : problem.rejection? = some rejection :=
              problem.rejection?_assignNumbers.symm.trans (prepare_rejected _ title rejection isPrepared)
            rw [show heard = _ from refused true, show silent = _ from refused false]
            exact ⟨⟨rfl, rfl, rfl, rfl⟩, Or.inl ⟨rfl, rfl, Or.inl (by rw [stands]; rfl)⟩, rfl, Or.inl rfl⟩
        | ok prepared => exact echoes_of_prepared solver problem engine unfailing talks prepared isPrepared
  obtain ⟨echo, hears, silenced⟩ := echoes
  refine ⟨echo, hears, silenced, ?_⟩
  rintro reachable named fits shown answers ⟨status, answered, reported⟩
  obtain ⟨b, returns⟩ := returns_of_answers (solver.toldTo true) problem engine reachable named fits shown
    status answered answers reported
  exact ⟨b, returns, echo.outcome.symm.trans returns⟩

end Listening

def chattyAnswers : Engine :=
  { blendAnswers with
    messages := [(.int 6, .text "presolve\n\n"), (.int 3, .null), (.float (.ofInt 6), .text "\nroot\n")] }

theorem chattyAnswers_talks : chattyAnswers.Talks := by
  intro event member message
  simp only [chattyAnswers, List.mem_cons, List.not_mem_nil, or_false] at member
  rcases member with rfl | rfl | rfl
  · exact ⟨_, rfl⟩
  · cases (show Value.equals (.int 3) Engine.messageEvent = false by decide +kernel).symm.trans message
  · exact ⟨_, rfl⟩

theorem blend_heard :
    let heard := (({} : Solver).toldTo true).solve blend chattyAnswers
    let silent := (({} : Solver).toldTo false).solve blend chattyAnswers
    heard.Echoes silent ∧ heard.Hears blend chattyAnswers ∧ heard.messages = ["presolve", "\nroot"] ∧
      ∃ b, heard.outcome = .ok b ∧ silent.outcome = .ok b := by
  intro heard silent
  have evaluated : ∀ entry ∈ blend.constraints, (chattyAnswers.expressionValue entry.2.expression).isOk = true := by
    decide +kernel
  have answers : chattyAnswers.Answers blend true :=
    ⟨rfl, fun _ => chattyAnswers_talks, ok_of_isOk _ (by decide +kernel), ok_of_isOk _ (by decide +kernel),
      ok_of_isOk _ (by decide +kernel), fun entry member => ok_of_isOk _ (evaluated entry member)⟩
  have shown : blend.Shown :=
    ⟨blend_titled, fun rejection refused => by cases Solver.blend_accepted.symm.trans refused⟩
  obtain ⟨echoes, hears, -, returns⟩ := listening_only_observes {} blend chattyAnswers rfl chattyAnswers_talks
  exact ⟨echoes, hears, by decide +kernel, returns blend_reachable (by decide +kernel) (by decide +kernel) shown
    answers ⟨.optimal, ok_of_toOption _ _ (by decide +kernel), ok_of_isOk _ (by decide +kernel)⟩⟩

end LinearProgram
