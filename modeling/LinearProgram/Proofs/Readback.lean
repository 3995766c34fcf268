import LinearProgram.Proofs.Outline
import LinearProgram.Proofs.Results

/-!
What is read back. Each result that a solve stores belongs to one entity, and each entity is left with
the answer about its own variable, expression or constraint.
-/

namespace LinearProgram

def NoStop (events : List Event) : Prop := ∀ fault, Event.stop fault ∉ events

section NoStop

theorem noStop_append (events others : List Event) :
    NoStop (events ++ others) ↔ NoStop events ∧ NoStop others := by
  simp only [NoStop, List.mem_append, not_or]
  exact forall_and

theorem noStop_cons (event : Event) (events : List Event) :
    NoStop (event :: events) ↔ (∀ fault, event ≠ .stop fault) ∧ NoStop events := by
  simp only [NoStop, List.mem_cons, not_or, eq_comm]
  exact forall_and

theorem noStop_nil : NoStop [] := fun _ => List.not_mem_nil

theorem noStop_flatMap {α : Type} (items : List α) (block : α → List Event) :
    NoStop (items.flatMap block) ↔ ∀ item ∈ items, NoStop (block item) := by
  simp only [NoStop, List.mem_flatMap, not_exists, not_and]
  exact ⟨fun none item member fault => none fault item member,
    fun none fault item member => none item member fault⟩

theorem noStop_calls (calls : List Call) : NoStop (calls.map Event.call) := by
  intro fault member
  obtain ⟨call, -, same⟩ := List.mem_map.mp member
  cases same

theorem passes_of_noStop (events : List Event) (noStop : NoStop events) : Passes none events :=
  ⟨noStop, fun _ fails => by cases fails⟩

end NoStop

def Engine.Talks (engine : Engine) : Prop :=
  ∀ entry ∈ engine.messages, entry.1.equals Engine.messageEvent = true → ∃ text, entry.2 = .text text

def Engine.Counts (engine : Engine) (formulation : Formulation) : Prop :=
  (Itinerary.isMixed formulation engine = true → ∃ n, engine.nodeCount.toWhole = .ok n) ∧
    ∃ n, engine.iterationCount.toWhole = .ok n

/-- The answer that is written into the report of a solve: the value of the objective, or the code of the
status when there is no solution. -/
def Engine.reported (engine : Engine) (status : SolveStatus) : Value :=
  if status.isSuccess then engine.objectiveValue else engine.status

structure Engine.Tells (engine : Engine) (formulation : Formulation) (status : SolveStatus) : Prop where
  counts : engine.Counts formulation
  reported : ∃ text, (engine.reported status).written = .ok text
  runtime : status.isSuccess = true → ∃ seconds, engine.runtime.fixedText = .ok seconds

/-- An engine that fails nowhere: messages are texts, counts and time are numbers, and every row can
be evaluated. -/
structure Engine.Answers (engine : Engine) (problem : Problem) (listens : Bool) : Prop where
  noFailure : engine.failure = none
  messages : listens = true → ∀ entry ∈ engine.messages,
    entry.1.equals Engine.messageEvent = true → ∃ text, entry.2 = .text text
  nodes : ∃ n, engine.nodeCount.toWhole = .ok n
  iterations : ∃ n, engine.iterationCount.toWhole = .ok n
  runtime : ∃ seconds, engine.runtime.fixedText = .ok seconds
  expressions : ∀ entry ∈ problem.constraints, ∃ x, engine.expressionValue entry.2.expression = .ok x

section Answered

variable (solver : Solver) (problem : Problem) (engine : Engine) (title : String)
  (objective : Option Value) (status : SolveStatus)

theorem noStop_outward (formulation : Formulation) (talks : solver.listens = true → engine.Talks) :
    NoStop (Itinerary.outward solver formulation engine) := by
  unfold Itinerary.outward
  refine (noStop_append _ _).mpr ⟨noStop_calls _, ?_⟩
  split
  next listens =>
    refine (noStop_flatMap _ _).mpr fun entry member fault stops => ?_
    dsimp only at stops
    split at stops
    next isMessage =>
      obtain ⟨text, isText⟩ := talks listens entry member isMessage
      simp [isText] at stops
    next => cases stops
  next => exact noStop_nil

theorem noStop_wholeEvents_iff (value : Value) :
    NoStop (Itinerary.wholeEvents value) ↔ ∃ n, value.toWhole = .ok n := by
  unfold Itinerary.wholeEvents
  split
  next n isWhole => exact iff_of_true noStop_nil ⟨n, isWhole⟩
  next fault isFault =>
    refine iff_of_false (fun none => none fault List.mem_cons_self) ?_
    rintro ⟨n, isWhole⟩
    rw [isFault] at isWhole
    cases isWhole

-- Counts without a whole part are the only thing that stops here.
theorem noStop_countEvents_iff (formulation : Formulation) (state : SolverState) :
    NoStop (Itinerary.countEvents state formulation engine) ↔ engine.Counts formulation := by
  unfold Itinerary.countEvents Engine.Counts
  rw [← noStop_wholeEvents_iff engine.nodeCount, ← noStop_wholeEvents_iff engine.iterationCount]
  split
  next mixed => simp [noStop_append, noStop_cons, noStop_nil, mixed]
  next pure_ => simp [noStop_append, noStop_cons, noStop_nil, pure_]

theorem noStop_valueEvents
    (expressions : ∀ entry ∈ problem.constraints, ∃ x, engine.expressionValue entry.2.expression = .ok x) :
    NoStop (Itinerary.valueEvents objective problem.outline engine) := by
  have rows : NoStop (problem.outline.constraints.flatMap fun c =>
      Itinerary.rowValueEvents engine (c.key, c.expression)) := by
    refine (noStop_flatMap _ _).mpr fun c member => ?_
    obtain ⟨entry, inConstraints, rfl⟩ := List.mem_map.mp member
    obtain ⟨x, evaluates⟩ := expressions entry inConstraints
    simp [Itinerary.rowValueEvents, evaluates, noStop_cons, noStop_nil]
  rw [valueEvents_of_aligned objective engine problem.aligned_outline]
  simp [noStop_append, noStop_flatMap, noStop_cons, noStop_nil, rows]

theorem noStop_dualEvents (formulation : Formulation) :
    NoStop (Itinerary.dualEvents formulation engine) := by
  unfold Itinerary.dualEvents
  refine (noStop_append _ _).mpr ⟨?_, (noStop_flatMap _ _).mpr fun row _ => ?_⟩
  · simp [noStop_flatMap, noStop_cons, noStop_nil]
  · unfold Itinerary.priceEvents
    split <;> simp [noStop_cons, noStop_nil]

theorem noStop_readingEvents (state : SolverState)
    (expressions : ∀ entry ∈ problem.constraints, ∃ x, engine.expressionValue entry.2.expression = .ok x) :
    NoStop (Itinerary.readingEvents objective state problem.outline engine) := by
  have values := noStop_valueEvents problem engine objective expressions
  have duals := noStop_dualEvents engine problem.outline
  unfold Itinerary.readingEvents
  dsimp only
  split <;> split <;> simp [noStop_append, noStop_cons, noStop_nil, values, duals]

-- A report is stopped by nothing but an answer that cannot be written.
theorem noStop_solvedEvents_iff : NoStop (Itinerary.solvedEvents title status engine) ↔
    (∃ text, engine.objectiveValue.written = .ok text) ∧ ∃ seconds, engine.runtime.fixedText = .ok seconds := by
  unfold Itinerary.solvedEvents
  cases engine.objectiveValue.written with
  | ok text => cases engine.runtime.fixedText <;> simp [NoStop]
  | error fault => simp [NoStop]

theorem noStop_unsolvedEvents_iff (state : SolverState) :
    NoStop (Itinerary.unsolvedEvents title state engine) ↔ ∃ text, engine.status.written = .ok text := by
  unfold Itinerary.unsolvedEvents
  cases engine.status.written with
  | ok text => simp [noStop_cons, noStop_nil]
  | error fault => simp [NoStop]

theorem noStop_counting_iff (formulation : Formulation) (talks : solver.listens = true → engine.Talks) :
    NoStop (counting solver engine formulation status) ↔ engine.Counts formulation := by
  have outward := noStop_outward solver engine formulation talks
  unfold counting
  simp [noStop_append, noStop_cons, outward, noStop_countEvents_iff]

/-- A solve is stopped by nothing but counts without a whole part and answers that cannot be written. -/
theorem noStop_events_iff (talks : solver.listens = true → engine.Talks)
    (expressions : ∀ entry ∈ problem.constraints, ∃ x, engine.expressionValue entry.2.expression = .ok x)
    (answered : SolveStatus.ofCode engine.status engine.solutionCount = .ok status) :
    NoStop (Itinerary.events solver title objective problem.outline engine) ↔
      engine.Tells problem.outline status := by
  have counts := noStop_counting_iff solver engine status problem.outline talks
  have reading := noStop_readingEvents problem engine objective
    (Itinerary.answeredState status problem.outline engine) expressions
  cases success : status.isSuccess with
  | true =>
      rw [events_solution solver engine status title objective problem.outline answered success,
        noStop_append, noStop_append, counts, noStop_solvedEvents_iff, and_iff_left reading]
      constructor
      · rintro ⟨counted, written, timed⟩
        exact ⟨counted, by rwa [Engine.reported, if_pos success], fun _ => timed⟩
      · rintro ⟨counted, written, timed⟩
        rw [Engine.reported, if_pos success] at written
        exact ⟨counted, written, timed success⟩
  | false =>
      rw [events_unsolved solver engine status title objective problem.outline answered success,
        noStop_append, counts, noStop_unsolvedEvents_iff]
      have failed := Bool.eq_false_iff.mp success
      constructor
      · rintro ⟨counted, written⟩
        exact ⟨counted, by rwa [Engine.reported, if_neg failed], fun succeeds => absurd succeeds failed⟩
      · rintro ⟨counted, written, -⟩
        rw [Engine.reported, if_neg failed] at written
        exact ⟨counted, written⟩

end Answered

namespace Problem

variable (problem : Problem)

/-- What a solve leaves on the entities of a problem: the answers of the engine about them, and
duals only where they are read. -/
structure ReadBack (before after : Problem) (engine : Engine) (duals : Bool) : Prop where
  columnValue : ∀ key column, before.columns.get? key = some column →
    after.valueOf .column (.text key) = some (engine.variableValue key)
  rowValue : ∀ key row, (key, row) ∈ before.constraints → ∃ x, engine.expressionValue row.expression = .ok x ∧
    after.valueOf .row (.text key) = some x
  objectiveValue : ∀ key row, before.objective? = some (key, row) →
    after.valueOf .objective key = some engine.objectiveValue
  columnDual : ∀ key column, before.columns.get? key = some column →
    after.dualOf .column (.text key) =
      some (if duals then engine.reducedCost key else column.dual)
  rowDual : ∀ key row, (key, row) ∈ before.constraints →
    after.dualOf .row (.text key) =
      some (if duals then
          if BoundKind.ofBounds row.lower row.upper = .free then .float .zero
          else engine.price key
        else row.dual)
  objectiveDual : ∀ key row, before.objective? = some (key, row) →
    after.dualOf .objective key = some row.dual

end Problem

section Landed

variable (problem : Problem) (engine : Engine) (status : SolveStatus)

def resultsOf : List StoredResult :=
  allResults (problem.objective.map Aim.key) problem.outline engine status

inductive Belongs : StoredResult → Prop where
  | objective (aim : Aim) : problem.objective = some aim →
      Belongs ⟨.row, aim.key, .value, engine.objectiveValue⟩
  | column (key : String) : Belongs ⟨.column, .text key, .value, engine.variableValue key⟩
  | row (entry : String × Row) (x : Value) : entry ∈ problem.constraints →
      engine.expressionValue entry.2.expression = .ok x → Belongs ⟨.row, .text entry.1, .value, x⟩
  | reducedCost (key : String) : readsDuals problem.outline engine status = true →
      Belongs ⟨.column, .text key, .dual, engine.reducedCost key⟩
  | price (entry : String × Row) : entry ∈ problem.constraints →
      readsDuals problem.outline engine status = true →
        Belongs ⟨.row, .text entry.1, .dual,
          if BoundKind.ofBounds entry.2.lower entry.2.upper = .free then .float .zero
          else engine.price entry.1⟩

theorem price_eq (constraint : Constraint) :
    constraint.price engine =
      if BoundKind.ofBounds constraint.lower constraint.upper = .free then .float .zero
      else engine.price constraint.key := by
  unfold Constraint.price Constraint.call?
  split <;> simp_all

theorem belongs_of_mem (stored : StoredResult) (member : stored ∈ resultsOf problem engine status) :
    Belongs problem engine status stored := by
  unfold resultsOf allResults at member
  rcases List.mem_append.mp member with values | duals
  · rcases List.mem_append.mp values with first | rows
    · rcases List.mem_append.mp first with aimed | columns
      · obtain ⟨key, isKey, rfl⟩ := List.mem_map.mp aimed
        obtain ⟨aim, isAim, rfl⟩ := Option.map_eq_some_iff.mp (Option.mem_toList.mp isKey)
        exact .objective aim isAim
      · obtain ⟨v, -, rfl⟩ := List.mem_map.mp columns
        exact .column v.key
    · obtain ⟨c, inOutline, evaluated⟩ := List.mem_filterMap.mp rows
      obtain ⟨entry, inConstraints, rfl⟩ := List.mem_map.mp inOutline
      dsimp only at evaluated
      split at evaluated
      next x isValue =>
        cases evaluated
        exact .row entry x inConstraints isValue
      next => cases evaluated
  · split at duals
    next reads =>
      rcases List.mem_append.mp duals with columns | rows
      · obtain ⟨v, -, rfl⟩ := List.mem_map.mp columns
        exact .reducedCost v.key reads
      · obtain ⟨c, inOutline, rfl⟩ := List.mem_map.mp rows
        obtain ⟨entry, inConstraints, rfl⟩ := List.mem_map.mp inOutline
        rw [price_eq]
        exact .price entry inConstraints reads
    next => cases duals

theorem mem_resultsOf (stored : StoredResult) : stored ∈ resultsOf problem engine status ↔
    ((stored ∈ objectiveResults (problem.objective.map Aim.key) engine ∨
      stored ∈ columnResults problem.outline engine) ∨ stored ∈ rowResults problem.outline engine) ∨
      readsDuals problem.outline engine status = true ∧
        (stored ∈ reducedCostResults problem.outline engine ∨
          stored ∈ priceResults problem.outline engine) := by
  unfold resultsOf allResults
  rw [List.mem_append, List.mem_append, List.mem_append]
  refine or_congr Iff.rfl ?_
  split
  next reads => simp [reads]
  next unread => simp [unread]

theorem same_row_of_same_key (entry other : String × Row) (member : entry ∈ problem.constraints)
    (inside : other ∈ problem.constraints) (same : entry.1 = other.1) : entry.2 = other.2 := by
  have found := ((problem.mem_constraints_iff entry.1 entry.2).mp member).1
  have there := ((problem.mem_constraints_iff other.1 other.2).mp inside).1
  rw [same, there] at found
  exact (Option.some.inj found).symm

variable (named : problem.TextObjective)

include named

-- A constraint does not have the key of the objective.
theorem aim_ne_constraint (aim : Aim) (aimed : problem.objective = some aim) (entry : String × Row)
    (member : entry ∈ problem.constraints) : aim.key ≠ .text entry.1 := by
  have isRow := ((problem.mem_constraints_iff entry.1 entry.2).mp member).2
  cases aim with
  | row key =>
      intro same
      cases same
      simp [Problem.isObjective, aimed] at isRow
  | beside name row earlier =>
      simp [Problem.TextObjective, Problem.beside?, aimed] at named

-- Results for one entity are one result.
theorem belongs_agree (first second : StoredResult) (belongs : Belongs problem engine status first)
    (other : Belongs problem engine status second) (sameKind : first.kind.isRow = second.kind.isRow)
    (sameKey : first.key = second.key) (sameResult : first.result = second.result) :
    first.x = second.x := by
  cases belongs with
  | objective aim aimed =>
      cases other with
      | objective => rfl
      | row entry x member =>
          exact absurd sameKey (aim_ne_constraint problem named aim aimed entry member)
      | column => cases sameKind
      | reducedCost => cases sameKind
      | price => cases sameResult
  | column key =>
      cases other with
      | column =>
          cases sameKey
          rfl
      | objective => cases sameKind
      | row => cases sameKind
      | reducedCost => cases sameResult
      | price => cases sameKind
  | row entry x member evaluates =>
      cases other with
      | row another y inside evaluated =>
          have same := same_row_of_same_key problem entry another member inside (Value.text.inj sameKey)
          rw [same, evaluated] at evaluates
          cases evaluates
          rfl
      | objective aim aimed =>
          exact absurd sameKey.symm (aim_ne_constraint problem named aim aimed entry member)
      | column => cases sameKind
      | reducedCost => cases sameKind
      | price => cases sameResult
  | reducedCost key =>
      cases other with
      | reducedCost =>
          cases sameKey
          rfl
      | objective => cases sameKind
      | column => cases sameResult
      | row => cases sameKind
      | price => cases sameKind
  | price entry member =>
      cases other with
      | price another inside =>
          have same := same_row_of_same_key problem entry another member inside (Value.text.inj sameKey)
          rw [Value.text.inj sameKey, same]
      | objective => cases sameResult
      | column => cases sameKind
      | row => cases sameResult
      | reducedCost => cases sameKind

omit named in
theorem isFor_text (stored : StoredResult) (kind : EntityKind) (key : String) (result : Result) :
    stored.isFor kind (.text key) result = true ↔
      kind.isRow = stored.kind.isRow ∧ stored.key = .text key ∧ stored.result = result := by
  have sameKey : Value.sameKey (.text key) stored.key = true ↔ stored.key = .text key := by
    cases stored.key with
    | text other =>
        simp only [Value.sameKey, beq_iff_eq, Value.text.injEq]
        exact eq_comm
    | _ => simp [Value.sameKey]
  simp [StoredResult.isFor, Problem.sameEntity, sameKey, and_assoc]

theorem landed_of_mem (stored : StoredResult) (member : stored ∈ resultsOf problem engine status)
    (kind : EntityKind) (key : String) (isKey : stored.key = .text key)
    (sameKind : kind.isRow = stored.kind.isRow) :
    lastStored (resultsOf problem engine status) kind (.text key) stored.result = some stored.x := by
  refine lastStored_of_agree _ _ _ _ stored member ?_ fun other inside goes => ?_
  · exact (isFor_text stored kind key stored.result).mpr ⟨sameKind, isKey, rfl⟩
  · obtain ⟨otherKind, otherKey, otherResult⟩ := (isFor_text other kind key stored.result).mp goes
    exact belongs_agree problem engine status named other stored
      (belongs_of_mem problem engine status other inside)
      (belongs_of_mem problem engine status stored member) (otherKind.symm.trans sameKind)
      (otherKey.trans isKey.symm) otherResult

omit named in
-- Without duals to read no entity gets one.
theorem no_dual (unread : readsDuals problem.outline engine status = false) (kind : EntityKind)
    (key : String) : lastStored (resultsOf problem engine status) kind (.text key) .dual = none := by
  refine lastStored_of_none _ _ _ _ fun stored member => Bool.eq_false_iff.mpr fun goes => ?_
  have isDual := ((isFor_text stored kind key .dual).mp goes).2.2
  cases belongs_of_mem problem engine status stored member with
  | objective => cases isDual
  | column => cases isDual
  | row => cases isDual
  | reducedCost other reads => rw [unread] at reads; cases reads
  | price entry inside reads => rw [unread] at reads; cases reads

-- The objective never gets a dual.
theorem no_dual_objective (key : String) (aimed : problem.objective = some (.row key)) :
    lastStored (resultsOf problem engine status) .objective (.text key) .dual = none := by
  refine lastStored_of_none _ _ _ _ fun stored member => Bool.eq_false_iff.mpr fun goes => ?_
  obtain ⟨isRow, isKey, isDual⟩ := (isFor_text stored .objective key .dual).mp goes
  cases belongs_of_mem problem engine status stored member with
  | objective => cases isDual
  | column => cases isDual
  | row => cases isDual
  | reducedCost => cases isRow
  | price entry inside =>
      exact aim_ne_constraint problem named (.row key) aimed entry inside isKey.symm

theorem objective_row (key : Value) (row : Row) (aimed : problem.objective? = some (key, row)) :
    ∃ name, key = .text name ∧ problem.objective = some (.row name) ∧
      problem.rows.get? name = some row := by
  have found := problem.row?_of_objective key row aimed
  obtain ⟨aim, isAim, there⟩ := Option.bind_eq_some_iff.mp aimed
  obtain ⟨other, -, same⟩ := Option.bind_eq_some_iff.mp there
  cases same
  cases aim with
  | row name => exact ⟨name, rfl, isAim, found⟩
  | beside name other earlier =>
      simp [Problem.TextObjective, Problem.beside?, isAim] at named

/-- Entities that got the results of a solve have been read back. -/
theorem readBack_of_results (after : Problem)
    (evaluates : ∀ entry ∈ problem.constraints, ∃ x, engine.expressionValue entry.2.expression = .ok x)
    (left : after.HasStored problem (resultsOf problem engine status)) :
    problem.ReadBack after engine (readsDuals problem.outline engine status) := by
  have landed := landed_of_mem problem engine status named
  have member := mem_resultsOf problem engine status
  constructor
  case columnValue =>
    intro key column found
    have entry := (Catalog.mem_entries_iff _ key column).mpr found
    have last := landed ⟨.column, .text key, .value, engine.variableValue key⟩
      ((member _).mpr (Or.inl (Or.inl (Or.inr
        (List.mem_map.mpr ⟨_, List.mem_map_of_mem entry, rfl⟩))))) .column key rfl rfl
    rw [left.value_eq _ _ _ (problem.attributes?_of_column key column found), last]
    rfl
  case rowValue =>
    intro key row inConstraints
    obtain ⟨x, evaluated⟩ := evaluates (key, row) inConstraints
    have found := ((problem.mem_constraints_iff key row).mp inConstraints).1
    have last := landed ⟨.row, .text key, .value, x⟩
      ((member _).mpr (Or.inl (Or.inr (List.mem_filterMap.mpr
        ⟨_, List.mem_map_of_mem inConstraints, by simp [evaluated]⟩)))) .row key rfl rfl
    rw [left.value_eq _ _ _ (problem.attributes?_of_row .row rfl key row found), last]
    exact ⟨x, evaluated, rfl⟩
  case objectiveValue =>
    intro key row aimed
    obtain ⟨name, rfl, isAim, found⟩ := objective_row problem named key row aimed
    have last := landed ⟨.row, .text name, .value, engine.objectiveValue⟩
      ((member _).mpr (Or.inl (Or.inl (Or.inl (by simp [objectiveResults, isAim, Aim.key])))))
      .objective name rfl rfl
    rw [left.value_eq _ _ _ (problem.attributes?_of_row .objective rfl name row found), last]
    rfl
  case columnDual =>
    intro key column found
    rw [left.dual_eq _ _ _ (problem.attributes?_of_column key column found)]
    cases reads : readsDuals problem.outline engine status with
    | false =>
        rw [no_dual problem engine status reads]
        rfl
    | true =>
        have entry := (Catalog.mem_entries_iff _ key column).mpr found
        have last := landed ⟨.column, .text key, .dual, engine.reducedCost key⟩
          ((member _).mpr (Or.inr ⟨reads, Or.inl
            (List.mem_map.mpr ⟨_, List.mem_map_of_mem entry, rfl⟩)⟩)) .column key rfl rfl
        rw [last]
        rfl
  case rowDual =>
    intro key row inConstraints
    have found := ((problem.mem_constraints_iff key row).mp inConstraints).1
    rw [left.dual_eq _ _ _ (problem.attributes?_of_row .row rfl key row found)]
    cases reads : readsDuals problem.outline engine status with
    | false =>
        rw [no_dual problem engine status reads]
        rfl
    | true =>
        have last := landed ⟨.row, .text key, .dual,
            if BoundKind.ofBounds row.lower row.upper = .free then .float .zero
            else engine.price key⟩
          ((member _).mpr (Or.inr ⟨reads, Or.inr
            (List.mem_map.mpr ⟨_, List.mem_map_of_mem inConstraints, by rw [price_eq]⟩)⟩))
          .row key rfl rfl
        rw [last]
        rfl
  case objectiveDual =>
    intro key row aimed
    obtain ⟨name, rfl, isAim, found⟩ := objective_row problem named key row aimed
    rw [left.dual_eq _ _ _ (problem.attributes?_of_row .objective rfl name row found),
      no_dual_objective problem engine status named name isAim]
    rfl

end Landed

section Solving

variable (solver : Solver) (problem : Problem) (engine : Engine) (status : SolveStatus)

-- A stop behind events that nothing stops ends the journey there.
theorem travel_append_stop (body : List Event) (noStop : NoStop body) (fault : Fault) :
    travel none (body ++ [.stop fault]) = ⟨body, some (.stop fault, .fault fault)⟩ := by
  induction body with
  | nil => exact travel_stop [] none fault
  | cons event rest ih =>
      obtain ⟨notStop, later⟩ := (noStop_cons event rest).mp noStop
      rw [List.cons_append, travel_onward event _ notStop, ih later]

-- A solution that was read is reported, unless the value of its objective cannot be written.
theorem run_reported (title : String) (formulation : Formulation) (body : List Event)
    (isEvents : Itinerary.events solver title (problem.objective.map Aim.key) formulation engine =
      body ++ Itinerary.solvedEvents title status engine)
    (noStop : NoStop body) (unfailing : engine.failure = none) (seconds : String)
    (timed : engine.runtime.fixedText = .ok seconds) :
    ∃ report ended, storedIn report = [] ∧ report.filterMap Event.recorded? = [] ∧
      let journey : Journey := ⟨body ++ report, ended⟩
      let last := journey.lastState solver.state
      let solved := solver.run problem title formulation engine
      travel engine.failure (Itinerary.events solver title (problem.objective.map Aim.key) formulation
        engine) = journey ∧
      solved.solver.state = last ∧
      solved.outcome = engine.objectiveValue.written.map fun _ => last.status.isSuccess := by
  unfold Solver.run
  rw [isEvents, unfailing]
  unfold Itinerary.solvedEvents
  rw [timed]
  cases engine.objectiveValue.written with
  | ok text =>
      have noStops : NoStop (body ++ [.report (.solved title status text seconds)]) := by
        simp [noStop_append, noStop_cons, noStop_nil, noStop]
      have whole := travel_passes none _ (passes_of_noStop _ noStops)
      dsimp only
      rw [whole]
      exact ⟨_, none, rfl, rfl, rfl, rfl, rfl⟩
  | error fault =>
      have cut := travel_append_stop body noStop fault
      dsimp only
      rw [cut]
      exact ⟨[], _, rfl, rfl, by rw [List.append_nil], by rw [List.append_nil], rfl⟩

/-- Results reach the right entities. After a status of success, and unless the engine fails, a solve leaves
on each entity what the engine answered about it, and succeeds if the value of the objective can be
written. A problem whose name cannot be written is not sent at all. -/
theorem solve_reads_back (reachable : problem.Reachable) (named : problem.TextObjective)
    (fits : problem.Fits) (accepted : problem.rejection? = none)
    (answered : SolveStatus.ofCode engine.status engine.solutionCount = .ok status)
    (success : status.isSuccess = true) (answers : engine.Answers problem solver.listens) :
    (∀ fault, problem.title = .error fault →
      (solver.solve problem engine).outcome = .error fault ∧ (solver.solve problem engine).calls = []) ∧
    ∀ title, problem.title = .ok title →
      (solver.solve problem engine).outcome = engine.objectiveValue.written.map (fun _ => true) ∧
        (solver.solve problem engine).solver.state.objective = engine.objectiveValue ∧
        problem.ReadBack (solver.solve problem engine).problem engine
          (readsDuals problem.outline engine status) := by
  have inOrder := problem.inOrder_of_textObjective named
  constructor
  · intro fault untitled
    rw [solver.solve_untitled problem engine reachable.closed inOrder fits accepted fault untitled]
    exact ⟨rfl, rfl⟩
  · intro title titled
    obtain ⟨notice, solved⟩ :=
      solver.solve_accepted problem engine reachable.closed inOrder fits accepted title titled
    have isEvents := events_solution solver engine status title (problem.objective.map Aim.key)
      problem.outline answered success
    have noStop := (noStop_append _ _).mpr
      ⟨(noStop_counting_iff solver engine status problem.outline answers.messages).mpr
        ⟨fun _ => answers.nodes, answers.iterations⟩,
      noStop_readingEvents problem engine (problem.objective.map Aim.key)
        (Itinerary.answeredState status problem.outline engine) answers.expressions⟩
    obtain ⟨seconds, timed⟩ := answers.runtime
    obtain ⟨report, ended, unstored, unrecorded, journey, state, outcome⟩ := run_reported solver
      problem.assignNumbers engine status title problem.outline _ isEvents noStop answers.noFailure
      seconds timed
    have last := lastState_reading engine (problem.objective.map Aim.key)
      (counting solver engine problem.outline status) report ended problem.outline
      (Itinerary.answeredState status problem.outline engine) solver.state unrecorded
    have results := storedIn_events (problem.objective.map Aim.key) problem.outline engine
      problem.aligned_outline solver title status answered
    rw [if_pos success, isEvents, storedIn_append, storedIn_solvedEvents, List.append_nil] at results
    have left := run_hasStored solver problem engine title problem.outline
    rw [show problem.objective.map Aim.key = problem.assignNumbers.objective.map Aim.key from rfl, journey,
      storedIn_append, unstored, List.append_nil, results] at left
    rw [solved]
    refine ⟨?_, (congrArg SolverState.objective state).trans last.2, ?_⟩
    · rw [outcome, last.1, show (Itinerary.answeredState status problem.outline engine).status = status from rfl,
        success]
    · exact readBack_of_results problem engine status named _ answers.expressions left

def blendAnswers : Engine := Script.engine
  { mixed := some (.int 0), objectiveValue := .int 32, values := [("oil", .int 4), ("plant", .int 1)]
    reducedCosts := [("oil", .int 7)], prices := [("capacity", .int 5)] }

theorem blend_reads_back :
    (({} : Solver).solve blend blendAnswers).outcome = .ok true ∧
      blend.ReadBack (({} : Solver).solve blend blendAnswers).problem blendAnswers true := by
  obtain ⟨title, isTitle⟩ := blend_titled
  have evaluated : ∀ entry ∈ blend.constraints,
      (blendAnswers.expressionValue entry.2.expression).isOk = true := by decide +kernel
  have answers : blendAnswers.Answers blend false :=
    ⟨rfl, (fun listens => by cases listens), ok_of_isOk _ (by decide +kernel),
      ok_of_isOk _ (by decide +kernel), ok_of_isOk _ (by decide +kernel),
      fun entry member => ok_of_isOk _ (evaluated entry member)⟩
  have accepted : blend.rejection? = none := Option.isNone_iff_eq_none.mp (by decide +kernel)
  have answered : SolveStatus.ofCode blendAnswers.status blendAnswers.solutionCount = .ok .optimal :=
    ok_of_toOption _ _ (by decide +kernel)
  have read := (solve_reads_back {} blend blendAnswers .optimal blend_reachable (by decide +kernel)
    (by decide +kernel) accepted answered rfl answers).2 title isTitle
  have duals : readsDuals blend.outline blendAnswers .optimal = true := by decide +kernel
  have told : blendAnswers.objectiveValue.written = .ok "32" := ok_of_toOption _ _ (by decide +kernel)
  rw [duals, told] at read
  exact ⟨read.1, read.2.2⟩

/-- A solve can raise though the engine finds a solution and fails nowhere: the name of the problem may be an
entity that has no text. -/
theorem solution_can_go_untold :
    ¬ ∀ (solver : Solver) (problem : Problem) (engine : Engine) (status : SolveStatus), problem.Reachable →
      problem.TextObjective → problem.Fits → problem.rejection? = none →
      SolveStatus.ofCode engine.status engine.solutionCount = .ok status → status.isSuccess = true →
      engine.Answers problem solver.listens → (solver.solve problem engine).outcome = .ok true := by
  intro returns
  let nameless := odd (.entity 0 .objective (.int 5)) (.columnType .float)
  have reachable : nameless.Reachable :=
    Problem.reachable_of_run (oddSteps _ _) 1 (by decide +kernel) (by decide +kernel)
  have rowless : nameless.constraints = [] := List.isEmpty_iff.mp (by decide +kernel)
  have answers : plainAnswers.Answers nameless false :=
    ⟨rfl, (fun listens => by cases listens), ok_of_isOk _ (by decide +kernel),
      ok_of_isOk _ (by decide +kernel), ok_of_isOk _ (by decide +kernel),
      fun entry member => by rw [rowless] at member; cases member⟩
  have returned := returns {} nameless plainAnswers .optimal reachable (by decide +kernel) (by decide +kernel)
    (Option.isNone_iff_eq_none.mp (by decide +kernel)) (ok_of_toOption _ _ (by decide +kernel)) rfl answers
  have raised : (({} : Solver).solve nameless plainAnswers).outcome.isOk = false := by decide +kernel
  rw [returned] at raised
  cases raised

end Solving

end LinearProgram
