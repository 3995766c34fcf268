import LinearProgram.Proofs.Entities
import LinearProgram.Solver.Solve

/-!
How far a journey goes. A journey passes every event up to the first stop or up to the hit of the
failing point that is no longer skipped, and what it stores are the results among the events that it
passed.
-/

namespace LinearProgram

def hits (point : Point) (events : List Event) : Nat :=
  events.countP fun event => event.point? == some point

structure Passes (failure : Option FailurePoint) (events : List Event) : Prop where
  noStop : ∀ fault, Event.stop fault ∉ events
  later : ∀ failing, failure = some failing → hits failing.point events ≤ failing.skipped

inductive Ends (failure : Option FailurePoint) (before : List Event) : Event → Stop → Prop where
  | stop (fault : Fault) : Ends failure before (.stop fault) (.fault fault)
  | engine (failing : FailurePoint) (event : Event) :
      failure = some failing → event.point? = some failing.point →
        hits failing.point before = failing.skipped → Ends failure before event failing.failure.stop

section Travelling

theorem hits_cons (point : Point) (event : Event) (events : List Event) :
    hits point (event :: events) = hits point events + if event.point? = some point then 1 else 0 := by
  by_cases here : event.point? = some point <;> simp [hits, here]

theorem hits_append (point : Point) (events others : List Event) :
    hits point (events ++ others) = hits point events + hits point others :=
  List.countP_append

variable (event : Event) (rest : List Event)

-- A stop ends a journey whatever the engine does.
theorem travel_stop (failure : Option FailurePoint) (fault : Fault) :
    travel failure (.stop fault :: rest) = ⟨[], some (.stop fault, .fault fault)⟩ := by
  cases failure <;> rfl

theorem travel_onward (notStop : ∀ fault, event ≠ .stop fault) :
    travel none (event :: rest) =
      { travel none rest with passed := event :: (travel none rest).passed } := by
  cases event with
  | stop fault => exact absurd rfl (notStop fault)
  | _ => rfl

theorem travel_elsewhere (notStop : ∀ fault, event ≠ .stop fault) (failing : FailurePoint)
    (elsewhere : event.point? ≠ some failing.point) :
    travel (some failing) (event :: rest) =
      { travel (some failing) rest with passed := event :: (travel (some failing) rest).passed } := by
  cases event with
  | stop fault => exact absurd rfl (notStop fault)
  | _ => simp [travel, elsewhere]

theorem travel_fails (failing : FailurePoint) (here : event.point? = some failing.point)
    (due : failing.skipped = 0) :
    travel (some failing) (event :: rest) = ⟨[], some (event, failing.failure.stop)⟩ := by
  cases event with
  | call c => simp [travel, here, due]
  | read point => simp [travel, here, due]
  | _ => cases here

theorem travel_skips (failing : FailurePoint) (skipped : Nat)
    (here : event.point? = some failing.point) (many : failing.skipped = skipped + 1) :
    travel (some failing) (event :: rest) =
      { travel (some { failing with skipped }) rest with
        passed := event :: (travel (some { failing with skipped }) rest).passed } := by
  cases event with
  | call c => simp [travel, here, many]
  | read point => simp [travel, here, many]
  | _ => cases here

theorem passes_nil (failure : Option FailurePoint) : Passes failure [] :=
  ⟨fun _ => List.not_mem_nil, fun _ _ => Nat.zero_le _⟩

-- The ways of one event: it stops the journey, the engine fails at it, or the journey goes on with a
-- failing point that is as far away as it was before the event.
theorem travel_event (failure : Option FailurePoint) :
    (∃ stop, travel failure (event :: rest) = ⟨[], some (event, stop)⟩ ∧ Ends failure [] event stop) ∨
      (∀ fault, event ≠ .stop fault) ∧ ∃ next,
        travel failure (event :: rest) =
          { travel next rest with passed := event :: (travel next rest).passed } ∧
        (∀ failing, failure = some failing → ∃ ahead, next = some ahead ∧
          ahead.point = failing.point ∧ ahead.failure = failing.failure ∧
          failing.skipped = ahead.skipped + hits failing.point [event]) ∧
        (failure = none → next = none) := by
  by_cases stops : ∃ fault, event = .stop fault
  · obtain ⟨fault, rfl⟩ := stops
    exact Or.inl ⟨_, travel_stop rest failure fault, .stop fault⟩
  · have notStop : ∀ fault, event ≠ .stop fault := fun fault same => stops ⟨fault, same⟩
    cases failure with
    | none =>
        refine Or.inr ⟨notStop, none, travel_onward event rest notStop, ?_, fun _ => rfl⟩
        intro failing fails
        cases fails
    | some failing =>
        by_cases here : event.point? = some failing.point
        · cases many : failing.skipped with
          | zero =>
              exact Or.inl ⟨_, travel_fails event rest failing here many,
                .engine failing event rfl here (by simp [hits, many])⟩
          | succ skipped =>
              refine Or.inr ⟨notStop, _, travel_skips event rest failing skipped here many, ?_, ?_⟩
              · rintro other ⟨⟩
                exact ⟨_, rfl, rfl, rfl, by simp [here, hits, many]⟩
              · intro none
                cases none
        · refine Or.inr ⟨notStop, _, travel_elsewhere event rest notStop failing here, ?_, ?_⟩
          · rintro other ⟨⟩
            exact ⟨failing, rfl, rfl, rfl, by simp [hits, here]⟩
          · intro none
            cases none

/-- A journey passes all its events, or those before the one that ends it. -/
theorem travel_cases (failure : Option FailurePoint) (events : List Event) :
    (Passes failure events ∧ travel failure events = ⟨events, none⟩) ∨
      ∃ before event after stop, events = before ++ event :: after ∧ Passes failure before ∧
        Ends failure before event stop ∧ travel failure events = ⟨before, some (event, stop)⟩ := by
  induction events generalizing failure with
  | nil => exact Or.inl ⟨passes_nil failure, by simp [travel]⟩
  | cons event rest ih =>
      rcases travel_event event rest failure with ⟨stop, ended, ends⟩ | ⟨notStop, next, goes, ahead, free⟩
      · exact Or.inr ⟨[], event, rest, stop, rfl, passes_nil failure, ends, ended⟩
      · -- one event more before the same end
        have extend : ∀ events, Passes next events → Passes failure (event :: events) := by
          intro events passes
          refine ⟨fun fault member => ?_, fun failing fails => ?_⟩
          · rcases List.mem_cons.mp member with same | inside
            · exact notStop fault same.symm
            · exact passes.noStop fault inside
          · obtain ⟨later, isNext, samePoint, -, count⟩ := ahead failing fails
            have bound := passes.later later isNext
            have step := hits_append failing.point [event] events
            rw [samePoint] at bound
            simp only [List.singleton_append] at step
            omega
        rcases ih next with ⟨passes, whole⟩ | ⟨before, last, after, stop, split, passes, ends, cut⟩
        · exact Or.inl ⟨extend rest passes, by rw [goes, whole]⟩
        · refine Or.inr ⟨event :: before, last, after, stop, by rw [split]; rfl, extend before passes,
            ?_, by rw [goes, cut]⟩
          cases ends with
          | stop fault => exact .stop fault
          | engine later _ isNext here due =>
              cases failure with
              | none => rw [free rfl] at isNext; cases isNext
              | some failing =>
                  obtain ⟨other, isOther, samePoint, sameFailure, count⟩ := ahead failing rfl
                  rw [isOther] at isNext
                  cases isNext
                  rw [sameFailure]
                  refine .engine failing last rfl (samePoint ▸ here) ?_
                  have step := hits_append failing.point [event] before
                  rw [samePoint] at due
                  simp only [List.singleton_append] at step
                  omega

-- Events that nothing ends are passed, all of them.
theorem travel_passes (failure : Option FailurePoint) (events : List Event)
    (passes : Passes failure events) : travel failure events = ⟨events, none⟩ := by
  rcases travel_cases failure events with ⟨-, whole⟩ | ⟨before, event, after, stop, split, -, ends, -⟩
  · exact whole
  · cases ends with
    | stop fault => exact absurd (by simp [split]) (passes.noStop fault)
    | engine failing _ fails here due =>
        have bound := passes.later failing fails
        rw [split, hits_append, hits_cons, if_pos here] at bound
        omega

theorem passed_begins (failure : Option FailurePoint) (events : List Event) :
    (travel failure events).passed <+: events := by
  rcases travel_cases failure events with ⟨-, whole⟩ | ⟨before, event, after, stop, split, -, -, cut⟩
  · exact ⟨[], by simp [whole]⟩
  · rw [cut, split]
    exact List.prefix_append before (event :: after)

end Travelling

section Recorded

theorem hits_calls (point : Point) (calls : List Call) :
    hits point (calls.map Event.call) = calls.countP fun call => call.point? == some point := by
  simp [hits, List.countP_map, Function.comp_def, Event.point?]

theorem filterMap_calls (calls : List Call) :
    (calls.map Event.call).filterMap Event.call? = calls := by
  rw [List.filterMap_map]
  exact List.filterMap_some

-- The engine fails at a call only when the record shows one call more than it lets through. Calls that
-- come first are recorded in full if it does not.
theorem attempted_calls (failure : Option FailurePoint) (calls : List Call) (rest : List Event)
    (succeed : ∀ failing, failure = some failing →
      (travel failure (calls.map Event.call ++ rest)).attempted.countP
        (fun call => call.point? == some failing.point) ≤ failing.skipped) :
    ∃ others, (travel failure (calls.map Event.call ++ rest)).attempted = calls ++ others := by
  rcases travel_cases failure (calls.map Event.call ++ rest) with
    ⟨-, whole⟩ | ⟨before, event, after, stop, split, passes, ends, cut⟩
  · rw [whole]
    exact ⟨_, by rw [Journey.attempted, List.filterMap_append, filterMap_calls, List.append_assoc]⟩
  · rcases List.append_eq_append_iff.mp split with ⟨more, isBefore, -⟩ | ⟨more, isCalls, isRest⟩
    · rw [cut, isBefore]
      exact ⟨_, by rw [Journey.attempted, List.filterMap_append, filterMap_calls, List.append_assoc]⟩
    · cases more with
      | nil =>
          rw [cut, ← List.append_nil before, ← isCalls]
          exact ⟨_, by rw [Journey.attempted, filterMap_calls]⟩
      | cons first others =>
          obtain ⟨sent, unsent, isSplit, rfl, isUnsent⟩ := List.map_eq_append_iff.mp isCalls
          obtain ⟨call, later, rfl, rfl, -⟩ := List.map_eq_cons_iff.mp isUnsent
          have isEvent : event = .call call := by simpa using (List.cons.inj isRest).1
          subst isEvent
          cases ends with
          | engine failing _ fails here due =>
              have bound := succeed failing fails
              have attempted : (travel failure (calls.map Event.call ++ rest)).attempted =
                  sent ++ [call] := by
                rw [cut, Journey.attempted, filterMap_calls]
                rfl
              have reached : call.point? = some failing.point := here
              rw [hits_calls] at due
              rw [attempted, List.countP_append, due] at bound
              simp only [reached, beq_self_eq_true, List.countP_cons_of_pos, List.countP_nil] at bound
              omega

end Recorded

structure StoredResult where
  kind : EntityKind
  key : Value
  result : Result
  x : Value

namespace StoredResult

def isFor (stored : StoredResult) (kind : EntityKind) (key : Value) (result : Result) : Bool :=
  Problem.sameEntity kind stored.kind key stored.key && stored.result == result

end StoredResult

def Event.stored? : Event → Option StoredResult
  | .store kind key result x => some ⟨kind, key, result, x⟩
  | _ => none

def storedIn (events : List Event) : List StoredResult := events.filterMap Event.stored?

def lastStored (stores : List StoredResult) (kind : EntityKind) (key : Value) (result : Result) :
    Option Value :=
  (stores.reverse.find? fun stored => stored.isFor kind key result).map (·.x)

def Attributes.withStored (attributes : Attributes) (stores : List StoredResult) (kind : EntityKind)
    (key : Value) : Attributes :=
  { attributes with
    value := (lastStored stores kind key .value).getD attributes.value
    dual := (lastStored stores kind key .dual).getD attributes.dual }

section Stored

variable (problem : Problem)

theorem lastStored_cons (first : StoredResult) (rest : List StoredResult) (kind : EntityKind)
    (key : Value) (result : Result) :
    lastStored (first :: rest) kind key result =
      (lastStored rest kind key result).or
        (if first.isFor kind key result then some first.x else none) := by
  simp only [lastStored, List.reverse_cons, List.find?_append, Option.map_or]
  by_cases goes : first.isFor kind key result = true <;> simp [goes]

def Problem.withResult (stored : StoredResult) : Problem :=
  problem.changeAttributes stored.kind stored.key fun attributes =>
    attributes.setResult stored.result stored.x

theorem storeResults_eq_foldl (journey : Journey) :
    journey.storeResults problem = (storedIn journey.passed).foldl Problem.withResult problem := by
  unfold Journey.storeResults storedIn
  induction journey.passed generalizing problem with
  | nil => rfl
  | cons event rest ih =>
      rw [List.foldl_cons, ih]
      cases event <;> rfl

-- Every entity is left with the last results that went to it, and with all else as it was.
theorem attributes?_foldl_withResult (stores : List StoredResult) (kind : EntityKind) (key : Value) :
    (stores.foldl Problem.withResult problem).attributes? kind key =
      (problem.attributes? kind key).map fun attributes =>
        attributes.withStored stores kind key := by
  induction stores generalizing problem with
  | nil => exact (congrFun Option.map_id _).symm
  | cons first rest ih =>
      rw [List.foldl_cons, ih, Problem.withResult, Problem.attributes?_changeAttributes]
      cases problem.attributes? kind key with
      | none => split <;> rfl
      | some attributes =>
          obtain ⟨toKind, toKey, stored, x⟩ := first
          simp only [Attributes.withStored, lastStored_cons, StoredResult.isFor]
          by_cases goes : Problem.sameEntity kind toKind key toKey = true
          · cases stored <;> simp [goes, Attributes.setResult]
          · simp [goes]

theorem attributes?_storeResults (journey : Journey) (kind : EntityKind) (key : Value) :
    (journey.storeResults problem).attributes? kind key =
      (problem.attributes? kind key).map fun attributes =>
        attributes.withStored (storedIn journey.passed) kind key := by
  rw [storeResults_eq_foldl, attributes?_foldl_withResult]

/-- The values and duals of a problem are those of another, except where results were stored. -/
structure Problem.HasStored (after before : Problem) (stores : List StoredResult) : Prop where
  value : ∀ kind key,
    after.valueOf kind key = (before.valueOf kind key).map (lastStored stores kind key .value).getD
  dual : ∀ kind key,
    after.dualOf kind key = (before.dualOf kind key).map (lastStored stores kind key .dual).getD

namespace Problem.HasStored

variable {after before : Problem} {stores : List StoredResult} (kind : EntityKind) (key : Value)

theorem value_eq (stored : after.HasStored before stores) (attributes : Attributes)
    (there : before.attributes? kind key = some attributes) :
    after.valueOf kind key = some ((lastStored stores kind key .value).getD attributes.value) := by
  rw [stored.value, Problem.valueOf, there]
  rfl

theorem dual_eq (stored : after.HasStored before stores) (attributes : Attributes)
    (there : before.attributes? kind key = some attributes) :
    after.dualOf kind key = some ((lastStored stores kind key .dual).getD attributes.dual) := by
  rw [stored.dual, Problem.dualOf, there]
  rfl

/-- Where nothing was stored all values and duals are as they were. -/
theorem keeps (stored : after.HasStored before []) :
    after.valueOf kind key = before.valueOf kind key ∧ after.dualOf kind key = before.dualOf kind key := by
  constructor
  · rw [stored.value]
    exact congrFun Option.map_id _
  · rw [stored.dual]
    exact congrFun Option.map_id _

end Problem.HasStored

theorem valueOf_storeResults (journey : Journey) (kind : EntityKind) (key : Value) :
    (journey.storeResults problem).valueOf kind key =
      (problem.valueOf kind key).map
        (lastStored (storedIn journey.passed) kind key .value).getD := by
  simp only [Problem.valueOf, attributes?_storeResults, Option.map_map]
  rfl

theorem dualOf_storeResults (journey : Journey) (kind : EntityKind) (key : Value) :
    (journey.storeResults problem).dualOf kind key =
      (problem.dualOf kind key).map (lastStored (storedIn journey.passed) kind key .dual).getD := by
  simp only [Problem.dualOf, attributes?_storeResults, Option.map_map]
  rfl

end Stored

section Last

variable (stores : List StoredResult) (kind : EntityKind) (key : Value) (result : Result)

-- Results that agree about an entity leave it with what they say.
theorem lastStored_of_agree (stored : StoredResult) (member : stored ∈ stores)
    (goes : stored.isFor kind key result = true)
    (agree : ∀ other ∈ stores, other.isFor kind key result = true → other.x = stored.x) :
    lastStored stores kind key result = some stored.x := by
  unfold lastStored
  cases found : stores.reverse.find? fun other => other.isFor kind key result with
  | none =>
      have missing := List.find?_eq_none.mp found stored (List.mem_reverse.mpr member)
      exact absurd goes missing
  | some other =>
      have inside := List.mem_reverse.mp (List.mem_of_find?_eq_some found)
      have reached : other.isFor kind key result = true := by
        simpa using List.find?_some found
      simp [agree other inside reached]

theorem lastStored_of_none (apart : ∀ other ∈ stores, other.isFor kind key result = false) :
    lastStored stores kind key result = none := by
  have missing : stores.reverse.find? (fun stored => stored.isFor kind key result) = none := by
    refine List.find?_eq_none.mpr fun other inside => ?_
    simp [apart other (List.mem_reverse.mp inside)]
  simp [lastStored, missing]

end Last

namespace Solver

variable (solver : Solver) (problem : Problem) (engine : Engine)

theorem solve_of_fault (fault : Fault) (fails : prepare problem.assignNumbers = .error fault) :
    solver.solve problem engine =
      { problem := problem.assignNumbers, solver, outcome := .error fault, calls := []
        messages := [], notices := [] } := by
  unfold solve
  dsimp only
  rw [fails]

theorem solve_of_rejected (title : String) (rejection : Rejection)
    (rejected : prepare problem.assignNumbers = .ok (.error (title, rejection))) :
    solver.solve problem engine =
      { problem := problem.assignNumbers, solver := { solver with state := failedState rejection }
        outcome := .ok false, calls := [], messages := []
        notices := [.failed title rejection.message] } := by
  unfold solve
  dsimp only
  rw [rejected]

theorem solve_of_prepared (prepared : Prepared)
    (isPrepared : prepare problem.assignNumbers = .ok (.ok prepared)) :
    ∃ notice, solver.solve problem engine =
      { solver.run problem.assignNumbers prepared.title prepared.formulation engine with
        notices := notice ::
          (solver.run problem.assignNumbers prepared.title prepared.formulation engine).notices } := by
  unfold solve
  dsimp only
  rw [isPrepared]
  exact ⟨_, rfl⟩

end Solver

end LinearProgram
