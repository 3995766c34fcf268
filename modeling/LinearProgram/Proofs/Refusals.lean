import LinearProgram.Proofs.Closings
import LinearProgram.Proofs.Verdicts

/-!
What never reaches the engine. A problem is refused for the first of its columns without a type, in the order of
the keys, or else for an objective without a direction. Once it is not refused, nothing is looked up in vain.
-/

namespace LinearProgram

namespace Column

variable (key : String) (column : Column)

def HasType : Prop := ∃ type, column.type = .columnType type

def refusal? : Option Rejection :=
  match column.type with
  | .columnType _ => none
  | .null => some (.untypedColumn key)
  | type => some (.badColumnType key type)

theorem refusal?_eq_none_iff : column.refusal? key = none ↔ column.HasType := by
  unfold refusal? HasType
  cases column.type <;> simp

theorem refusal?_eq_some_iff (rejection : Rejection) : column.refusal? key = some rejection ↔
    column.type = .null ∧ rejection = .untypedColumn key ∨
      column.type ≠ .null ∧ ¬ column.HasType ∧ rejection = .badColumnType key column.type := by
  unfold refusal? HasType
  cases column.type <;> simp [eq_comm]

end Column

namespace Row

variable (key : Value) (row : Row)

def refusal? : Option Rejection :=
  match row.direction with
  | some (.direction _) | none => none
  | some direction => some (.badDirection key direction)

theorem refusal?_eq_some_iff (rejection : Rejection) : row.refusal? key = some rejection ↔
    ∃ direction, row.direction = some direction ∧ (∀ proper, direction ≠ .direction proper) ∧
      rejection = .badDirection key direction := by
  unfold refusal?
  cases row.direction with
  | none => simp
  | some direction => cases direction <;> simp [eq_comm]

end Row

namespace Problem

variable (problem : Problem)

structure FirstUntyped (key : String) (column : Column) : Prop where
  found : problem.columns.get? key = some column
  untyped : ¬ column.HasType
  first : ∀ other before, problem.columns.get? other = some before → ¬ before.HasType → key ≤ other

/-- What a problem is refused for: its first column without a type, or the direction of its objective if every
column has a type. Directions of other rows do not matter. -/
inductive Refuses : Rejection → Prop where
  | untyped (key : String) (column : Column) : problem.FirstUntyped key column → column.type = .null →
      Refuses (.untypedColumn key)
  | mistyped (key : String) (column : Column) : problem.FirstUntyped key column → column.type ≠ .null →
      Refuses (.badColumnType key column.type)
  | misdirected (key : Value) (row : Row) (direction : Value) :
      (∀ name column, problem.columns.get? name = some column → column.HasType) →
      problem.objective? = some (key, row) → row.direction = some direction →
      (∀ proper, direction ≠ .direction proper) → Refuses (.badDirection key direction)

theorem columnRejection?_eq_none_iff : problem.columnRejection? = none ↔
    ∀ key column, problem.columns.get? key = some column → column.HasType := by
  constructor
  · intro accepted key column found
    exact problem.typed_of_accepted accepted (key, column) ((Catalog.mem_entries_iff _ _ _).mpr found)
  · intro typed
    apply List.findSome?_eq_none_iff.mpr
    intro entry member
    have found := (Catalog.mem_entries_iff _ _ _).mp member
    exact (Column.refusal?_eq_none_iff entry.1 entry.2).mpr (typed entry.1 entry.2 found)

-- The entries ascend, so the search meets the least key first.
theorem columnRejection?_eq_some_iff (rejection : Rejection) : problem.columnRejection? = some rejection ↔
    ∃ key column, problem.FirstUntyped key column ∧ column.refusal? key = some rejection := by
  constructor
  · intro refused
    obtain ⟨before, entry, after, split, refusal, accepted⟩ := List.findSome?_eq_some_iff.mp refused
    have member : entry ∈ problem.columns.entries := by simp [split]
    refine ⟨entry.1, entry.2, ⟨(Catalog.mem_entries_iff _ _ _).mp member, ?_, ?_⟩, refusal⟩
    · intro typed
      cases ((Column.refusal?_eq_none_iff entry.1 entry.2).mpr typed).symm.trans refusal
    · intro other column found untyped
      have ascending : Ascending (before ++ entry :: after) := split ▸ problem.columns.ascending
      have inside : (other, column) ∈ before ++ entry :: after :=
        split ▸ (Catalog.mem_entries_iff _ _ _).mpr found
      rcases List.mem_append.mp inside with early | late
      · exact absurd ((Column.refusal?_eq_none_iff other column).mp (accepted _ early)) untyped
      · rcases List.mem_cons.mp late with rfl | later
        · exact String.le_refl _
        · have ordered := (List.pairwise_cons.mp (List.pairwise_append.mp ascending).2.1).1 _ later
          exact Std.le_of_lt ordered
  · rintro ⟨key, column, earliest, refusal⟩
    have member := (Catalog.mem_entries_iff _ _ _).mpr earliest.found
    obtain ⟨before, after, split⟩ := List.append_of_mem member
    apply List.findSome?_eq_some_iff.mpr
    refine ⟨before, (key, column), after, split, refusal, ?_⟩
    intro entry early
    have ascending : Ascending (before ++ (key, column) :: after) := split ▸ problem.columns.ascending
    have isBefore : entry.1 < key := (List.pairwise_append.mp ascending).2.2 entry early _ List.mem_cons_self
    have found := (Catalog.mem_entries_iff problem.columns entry.1 entry.2).mp (by simp [split, early])
    apply (Column.refusal?_eq_none_iff entry.1 entry.2).mpr
    by_contra untyped
    exact Std.not_lt.mpr (earliest.first entry.1 entry.2 found untyped) isBefore

theorem directionRejection?_eq_some_iff (rejection : Rejection) :
    problem.directionRejection? = some rejection ↔ ∃ key row direction,
      problem.objective? = some (key, row) ∧ row.direction = some direction ∧
        (∀ proper, direction ≠ .direction proper) ∧ rejection = .badDirection key direction := by
  have asBind : problem.directionRejection? = problem.objective?.bind fun aim => aim.2.refusal? aim.1 := rfl
  rw [asBind, Option.bind_eq_some_iff]
  constructor
  · rintro ⟨⟨key, row⟩, aimed, refusal⟩
    obtain ⟨direction, improper⟩ := (Row.refusal?_eq_some_iff key row rejection).mp refusal
    exact ⟨key, row, direction, aimed, improper⟩
  · rintro ⟨key, row, direction, aimed, improper⟩
    exact ⟨(key, row), aimed, (Row.refusal?_eq_some_iff key row rejection).mpr ⟨direction, improper⟩⟩

/-- The check before a solve finds just what a problem is refused for. -/
theorem rejection?_eq_some_iff (rejection : Rejection) :
    problem.rejection? = some rejection ↔ problem.Refuses rejection := by
  rw [rejection?, Option.or_eq_some_iff, columnRejection?_eq_some_iff, columnRejection?_eq_none_iff,
    directionRejection?_eq_some_iff]
  constructor
  · rintro (⟨key, column, first, refusal⟩ | ⟨typed, key, row, direction, aimed, directed, improper, rfl⟩)
    · have reason := (Column.refusal?_eq_some_iff key column rejection).mp refusal
      rcases reason with ⟨none, rfl⟩ | ⟨some, -, rfl⟩
      · exact .untyped key column first none
      · exact .mistyped key column first some
    · exact .misdirected key row direction typed aimed directed improper
  · intro refuses
    cases refuses with
    | untyped key column first none =>
        exact Or.inl ⟨key, column, first, (Column.refusal?_eq_some_iff _ _ _).mpr (Or.inl ⟨none, rfl⟩)⟩
    | mistyped key column first some =>
        have refusal := (Column.refusal?_eq_some_iff key column _).mpr (Or.inr ⟨some, first.untyped, rfl⟩)
        exact Or.inl ⟨key, column, first, refusal⟩
    | misdirected key row direction typed aimed directed improper =>
        exact Or.inr ⟨typed, key, row, direction, aimed, directed, improper, rfl⟩

def CanTell (rejection : Rejection) : Prop := rejection.check = .ok () ∧ ∃ title, problem.title = .ok title

end Problem

/-- A formulation of a problem for which every look-up found something: the type of each column is that of its
variable, an objective has its sense, and only rows without bounds have none. -/
structure Formulation.Finds (formulation : Formulation) (problem : Problem) (triples : Triples) : Prop where
  made : problem.formulate triples = .ok formulation
  types : (formulation.columns.map fun v => (v.key, Value.columnType v.type)) =
    problem.columns.entries.map fun entry => (entry.1, entry.2.type)
  sense : formulation.direction.map Value.direction = problem.objective?.bind fun aim => aim.2.direction
  rowSense : ∀ constraint ∈ formulation.constraints, constraint.call? = none →
    BoundKind.ofBounds constraint.lower constraint.upper = .free

structure Solved.StaysAway (solved : Solved) (problem : Problem) : Prop where
  calls : solved.calls = []
  value : ∀ kind key, solved.problem.valueOf kind key = problem.valueOf kind key
  dual : ∀ kind key, solved.problem.dualOf kind key = problem.dualOf kind key

section Finding

theorem free_of_no_call (constraint : Constraint) (silent : constraint.call? = none) :
    BoundKind.ofBounds constraint.lower constraint.upper = .free := by
  unfold Constraint.call? at silent
  split at silent
  next free => exact free
  all_goals cases silent

theorem type_eq_of_hasType (column : Column) (typed : column.HasType) :
    Value.columnType column.variableType = column.type := by
  obtain ⟨type, isType⟩ := typed
  simp [Column.variableType, isType]

variable (problem : Problem)

theorem direction?_eq_of_directed
    (directed : ∀ key row, problem.objective? = some (key, row) →
      ∃ direction, row.direction = some (.direction direction)) :
    problem.direction?.map Value.direction = problem.objective?.bind fun aim => aim.2.direction := by
  unfold Problem.direction?
  cases aimed : problem.objective? with
  | none => rfl
  | some aim =>
      obtain ⟨direction, isDirection⟩ := directed aim.1 aim.2 aimed
      simp [isDirection]

/-- Nothing of a specified problem is looked up in vain once it is numbered. -/
theorem finds_of_specified (reachable : problem.Reachable) (inOrder : problem.orderFault? = none)
    (fits : problem.Fits) (specified : problem.Specified) :
    problem.outline.Finds problem.assignNumbers problem.outlineTriples where
  made := problem.formulate_assignNumbers reachable.closed inOrder fits
    (problem.columnRejection?_eq_none_iff.mpr specified.typed)
  types := by
    rw [problem.columns_assignNumbers]
    simp only [Problem.outline, List.map_map, List.map_inj_left]
    intro entry member
    have typed := specified.typed entry.1 entry.2 ((Catalog.mem_entries_iff _ _ _).mp member)
    simp [type_eq_of_hasType entry.2 typed]
  sense := by
    obtain ⟨number, numbered⟩ := problem.objective?_assignNumbers
    rw [numbered, Option.bind_map]
    exact direction?_eq_of_directed problem specified.directed
  rowSense := fun constraint _ silent => free_of_no_call constraint silent

end Finding

namespace Solver

variable (solver : Solver) (problem : Problem) (engine : Engine)

theorem prepare_untitled (inOrder : problem.orderFault? = none) (fault : Fault)
    (untitled : problem.title = .error fault) : ∃ fault, prepare problem.assignNumbers = .error fault := by
  have ordered : problem.assignNumbers.checkOrder = .ok () := by
    simp [Problem.checkOrder, Problem.orderFault?_assignNumbers, inOrder]
  have name : problem.assignNumbers.title = .error fault := untitled
  simp only [prepare, ordered, ok_bind, name]
  cases problem.assignNumbers.rejection? with
  | none =>
      cases problem.assignNumbers.flatten with
      | ok => exact ⟨fault, rfl⟩
      | error other => exact ⟨other, rfl⟩
  | some rejection =>
      cases check : rejection.check with
      | ok => exact ⟨fault, by simp only [check]; rfl⟩
      | error other => exact ⟨other, by simp only [check]; rfl⟩

/-- What comes of preparing a problem: it is formulated, refused, or neither because something cannot be
written. -/
theorem prepare_ways (reachable : problem.Reachable) (named : problem.TextObjective) (fits : problem.Fits) :
    (problem.Specified ∧ ∃ title, problem.title = .ok title ∧
        prepare problem.assignNumbers = .ok (.ok ⟨title, problem.outlineTriples, problem.outline⟩)) ∨
      (∃ rejection title, problem.Refuses rejection ∧ problem.CanTell rejection ∧
        prepare problem.assignNumbers = .ok (.error (title, rejection))) ∨
      (∃ fault, prepare problem.assignNumbers = .error fault) ∧
        ((problem.Specified ∧ ¬ ∃ title, problem.title = .ok title) ∨
          ∃ rejection, problem.Refuses rejection ∧ ¬ problem.CanTell rejection) := by
  have inOrder := problem.inOrder_of_textObjective named
  cases refused : problem.rejection? with
  | none =>
      have specified := reachable.specified_iff.mpr refused
      cases titled : problem.title with
      | ok title =>
          have prepared := problem.prepare_assignNumbers reachable.closed inOrder fits refused title titled
          exact Or.inl ⟨specified, title, rfl, prepared⟩
      | error fault =>
          refine Or.inr (Or.inr ⟨prepare_untitled problem inOrder fault titled, Or.inl ⟨specified, ?_⟩⟩)
          simp
  | some rejection =>
      have refuses := (problem.rejection?_eq_some_iff rejection).mp refused
      cases titled : problem.title with
      | ok title =>
          have prepared := prepare_refused problem inOrder rejection refused title titled
          cases check : rejection.check with
          | ok =>
              rw [check] at prepared
              exact Or.inr (Or.inl ⟨rejection, title, refuses, ⟨check, title, titled⟩, prepared⟩)
          | error fault =>
              rw [check] at prepared
              refine Or.inr (Or.inr ⟨⟨fault, prepared⟩, Or.inr ⟨rejection, refuses, ?_⟩⟩)
              rintro ⟨shown, -⟩
              cases check.symm.trans shown
      | error fault =>
          refine Or.inr (Or.inr ⟨prepare_untitled problem inOrder fault titled,
            Or.inr ⟨rejection, refuses, ?_⟩⟩)
          rintro ⟨-, title, written⟩
          cases titled.symm.trans written

theorem staysAway_of_numbered (solved : Solved) (same : solved.problem = problem.assignNumbers)
    (silent : solved.calls = []) : solved.StaysAway problem where
  calls := silent
  value := fun kind key => same ▸ problem.valueOf_assignNumbers kind key
  dual := fun kind key => same ▸ problem.dualOf_assignNumbers kind key

theorem not_opens_of_staysAway (solved : Solved) (away : solved.StaysAway problem) :
    ¬ ∃ others, solved.calls = .openEnvironment :: others := by
  rintro ⟨others, opens⟩
  cases away.calls.symm.trans opens

theorem not_specified_of_refuses (reachable : problem.Reachable) (rejection : Rejection)
    (refuses : problem.Refuses rejection) : ¬ problem.Specified := by
  rw [reachable.specified_iff, (problem.rejection?_eq_some_iff rejection).mpr refuses]
  simp

/-- Invalid models never reach the engine. A solve opens it if and only if every column has a type, the
objective has a direction, and the name of the problem can be written; then nothing is looked up in vain.
Otherwise it stays away. What is refused makes it return false and say why in a state of error, unless that
cannot be told; then it raises, and its state is the one before. -/
theorem solve_opens_iff_specified (reachable : problem.Reachable) (named : problem.TextObjective)
    (fits : problem.Fits) :
    let solved := solver.solve problem engine
    let Titled := ∃ title, problem.title = .ok title
    ((∃ others, solved.calls = .openEnvironment :: others) ↔ problem.Specified ∧ Titled) ∧
      (problem.Specified → ∃ (triples : Triples) (formulation : Formulation),
        problem.assignNumbers.flatten = .ok triples ∧ formulation.Finds problem.assignNumbers triples) ∧
      (¬ (problem.Specified ∧ Titled) → solved.StaysAway problem) ∧
      (¬ problem.Specified → ∃ rejection, problem.Refuses rejection ∧
        (problem.CanTell rejection → solved.outcome = .ok false ∧
          solved.solver = { solver with state := { status := .error, message := rejection.message } }) ∧
        (¬ problem.CanTell rejection →
          (∃ fault, solved.outcome = .error fault) ∧ solved.solver = solver)) := by
  intro solved Titled
  have inOrder := problem.inOrder_of_textObjective named
  have finds (specified : problem.Specified) : ∃ (triples : Triples) (formulation : Formulation),
      problem.assignNumbers.flatten = .ok triples ∧ formulation.Finds problem.assignNumbers triples :=
    ⟨problem.outlineTriples, problem.outline, problem.flatten_assignNumbers reachable.closed inOrder fits,
      finds_of_specified problem reachable inOrder fits specified⟩
  rcases prepare_ways problem reachable named fits with
    ⟨specified, title, titled, prepared⟩ | ⟨rejection, title, refuses, told, rejected⟩ |
      ⟨⟨fault, fails⟩, unwritten⟩
  case inl =>
    have both : problem.Specified ∧ Titled := ⟨specified, title, titled⟩
    have opens := solver.opens_first problem engine _ prepared
    exact ⟨iff_of_true opens both, finds, fun lacks => absurd both lacks,
      fun unspecified => absurd specified unspecified⟩
  case inr.inl =>
    have unspecified := not_specified_of_refuses problem reachable rejection refuses
    have isSolved := solver.solve_of_rejected problem engine title rejection rejected
    have away : solved.StaysAway problem :=
      staysAway_of_numbered problem solved (congrArg Solved.problem isSolved) (congrArg Solved.calls isSolved)
    have closed := not_opens_of_staysAway problem solved away
    refine ⟨iff_of_false closed fun both => unspecified both.1, finds, fun _ => away, fun _ => ?_⟩
    refine ⟨rejection, refuses, fun _ => ?_, fun untold => absurd told untold⟩
    exact ⟨congrArg Solved.outcome isSolved, congrArg Solved.solver isSolved⟩
  case inr.inr =>
    have isSolved := solver.solve_of_fault problem engine fault fails
    have away : solved.StaysAway problem :=
      staysAway_of_numbered problem solved (congrArg Solved.problem isSolved) (congrArg Solved.calls isSolved)
    have closed := not_opens_of_staysAway problem solved away
    refine ⟨iff_of_false closed ?_, finds, fun _ => away, fun unspecified => ?_⟩
    · rintro ⟨specified, titled⟩
      rcases unwritten with ⟨-, untitled⟩ | ⟨rejection, refuses, -⟩
      · exact untitled titled
      · exact not_specified_of_refuses problem reachable rejection refuses specified
    · rcases unwritten with ⟨specified, -⟩ | ⟨rejection, refuses, untold⟩
      · exact absurd specified unspecified
      · refine ⟨rejection, refuses, fun told => absurd told untold, fun _ => ?_⟩
        exact ⟨⟨fault, congrArg Solved.outcome isSolved⟩, congrArg Solved.solver isSolved⟩

section Examples

def doubtfulSteps : List Step :=
  blendSteps ++ [.add (some ⟨0, .row, .text "stock"⟩) (.int 1) (.text "acid") [],
    .setType (some ⟨0, .column, .text "oil"⟩) (.text "whole"),
    .newObjective 0 "waste" (.text "sideways")]

def doubtful : Problem := ((Session.run {} doubtfulSteps).1.problems[0]?).getD {}

theorem doubtful_refused :
    let solved := ({} : Solver).solve doubtful plainAnswers
    solved.outcome = .ok false ∧ solved.calls = [] ∧
      solved.solver.state.message = "Column acid has no column type" := by
  intro solved
  have reachable : doubtful.Reachable :=
    Problem.reachable_of_run doubtfulSteps 0 (by decide +kernel) (by decide +kernel)
  have unspecified : ¬ doubtful.Specified := by decide +kernel
  obtain ⟨-, -, away, refused⟩ :=
    solve_opens_iff_specified {} doubtful plainAnswers reachable (by decide +kernel) (by decide +kernel)
  obtain ⟨rejection, refuses, tells, -⟩ := refused unspecified
  have found : (doubtful.rejection?.map fun r => (r.message, r.check.isOk)) =
      some ("Column acid has no column type", true) := by decide +kernel
  rw [(doubtful.rejection?_eq_some_iff rejection).mpr refuses] at found
  obtain ⟨message, shown⟩ := Prod.mk.inj (Option.some.inj found)
  obtain ⟨outcome, left⟩ := tells ⟨(ok_of_isOk _ shown).choose_spec, ok_of_isOk _ (by decide +kernel)⟩
  exact ⟨outcome, (away fun both => unspecified both.1).calls, by rw [left]; exact message⟩

/-- A name that cannot be written keeps a specified problem from the engine and makes a refused one raise. So
does a type that is too long to be shown. -/
theorem odd_solves_raise :
    let number : Value := .entity 0 .objective (.int 5)
    let named := odd number (.columnType .float)
    let untyped := odd number .null
    let long := odd (.text "plan") (.int (10 ^ 4300))
    let raises (problem : Problem) := ∃ fault, (({} : Solver).solve problem plainAnswers).outcome = .error fault
    (∀ problem ∈ [named, untyped, long], problem.Reachable ∧ problem.TextObjective) ∧
      (named.Specified ∧ (({} : Solver).solve named plainAnswers).calls = []) ∧
      (¬ untyped.Specified ∧ raises untyped) ∧ (¬ long.Specified ∧ raises long) := by
  intro number named untyped long raises
  have raising (problem : Problem) (fails : (({} : Solver).solve problem plainAnswers).outcome.isOk = false) :
      raises problem := by
    cases outcome : (({} : Solver).solve problem plainAnswers).outcome with
    | ok returned => simp [outcome, Except.isOk, Except.toBool] at fails
    | error fault => exact ⟨fault, outcome⟩
  refine ⟨?_, ⟨by decide +kernel, ?_⟩, ⟨by decide +kernel, raising _ (by decide +kernel)⟩,
    by decide +kernel, raising _ (by decide +kernel)⟩
  · intro problem member
    simp only [List.mem_cons, List.not_mem_nil, or_false] at member
    rcases member with rfl | rfl | rfl
    all_goals
      constructor
      · exact Problem.reachable_of_run (oddSteps _ _) 1 (by decide +kernel) (by decide +kernel)
      · decide +kernel
  · exact List.isEmpty_iff.mp (by decide +kernel)

end Examples

end Solver

end LinearProgram
