import LinearProgram.Proofs.Counted
import LinearProgram.Proofs.LastWrite

/-!
How numbers change. A number changes only when its problem is numbered or when it is assigned by hand, and what
is new has the number zero.
-/

namespace LinearProgram

structure Catalog.KeepsNumbers {α : Type} (number : α → Value) (before after : Catalog α) : Prop where
  kept : ∀ key item, before.get? key = some item → (after.get? key).map number = some (number item)
  fresh : ∀ key item, before.get? key = none → after.get? key = some item → number item = .int 0

namespace Catalog

variable {α : Type} (number : α → Value) (catalog : Catalog α)

theorem keepsNumbers_refl : KeepsNumbers number catalog catalog := by
  refine ⟨fun key item found => by rw [found, Option.map_some], fun key item absent found => ?_⟩
  rw [absent] at found
  cases found

variable {number}

theorem KeepsNumbers.trans {first second third : Catalog α} (keeps : KeepsNumbers number first second)
    (keepsOn : KeepsNumbers number second third) : KeepsNumbers number first third := by
  constructor
  case kept =>
    intro key item found
    obtain ⟨later, there, same⟩ := Option.map_eq_some_iff.mp (keeps.kept key item found)
    rw [← same]
    exact keepsOn.kept key later there
  case fresh =>
    intro key item absent found
    cases there : second.get? key with
    | none => exact keepsOn.fresh key item there found
    | some middle =>
        have same := keepsOn.kept key middle there
        rw [found, Option.map_some, Option.some.injEq] at same
        rw [same]
        exact keeps.fresh key middle absent there

theorem keepsNumbers_insert (key : String) (item : α) (fresh : ¬ catalog.contains key = true)
    (zero : number item = .int 0) : KeepsNumbers number catalog (catalog.insert key item) := by
  have absent := catalog.get?_of_not_contains key fresh
  constructor
  case kept =>
    intro other old found
    have apart : other ≠ key := by
      rintro rfl
      rw [absent] at found
      cases found
    rw [get?_insert, if_neg apart, found, Option.map_some]
  case fresh =>
    intro other new missing found
    rw [get?_insert] at found
    split at found
    · cases found
      exact zero
    · rw [missing] at found
      cases found

theorem keepsNumbers_modify (key : String) (change : α → α)
    (silent : ∀ item, catalog.get? key = some item → number (change item) = number item) :
    KeepsNumbers number catalog (catalog.modify key change) := by
  constructor
  case kept =>
    intro other item found
    rw [get?_modify]
    split
    next same =>
      subst same
      rw [found, Option.map_some, Option.map_some, silent item found]
    next => rw [found, Option.map_some]
  case fresh =>
    intro other item absent found
    rw [get?_modify] at found
    split at found
    next same =>
      rw [← same, absent] at found
      cases found
    next =>
      rw [absent] at found
      cases found

end Catalog

theorem Attributes.number_setBounds (attributes : Attributes) (lower upper : Value) :
    (attributes.setBounds lower upper).1.number = attributes.number := by
  unfold setBounds
  split
  · rfl
  · dsimp only
    split <;> rfl

def Problem.KeepsNumbers (kind : EntityKind) (before after : Problem) : Prop :=
  match kind with
  | .column => before.columns.KeepsNumbers (·.number) after.columns
  | .row | .objective => before.rows.KeepsNumbers (·.number) after.rows

namespace Problem

variable {kind : EntityKind} (problem : Problem)

theorem keepsNumbers_of_parts (after : Problem)
    (columns : problem.columns.KeepsNumbers (·.number) after.columns)
    (rows : problem.rows.KeepsNumbers (·.number) after.rows) : KeepsNumbers kind problem after := by
  cases kind with
  | column => exact columns
  | row | objective => exact rows

theorem keepsNumbers_refl : KeepsNumbers kind problem problem :=
  problem.keepsNumbers_of_parts problem (problem.columns.keepsNumbers_refl _) (problem.rows.keepsNumbers_refl _)

theorem KeepsNumbers.trans {first second third : Problem} (keeps : KeepsNumbers kind first second)
    (keepsOn : KeepsNumbers kind second third) : KeepsNumbers kind first third := by
  cases kind with
  | column | row | objective => exact Catalog.KeepsNumbers.trans keeps keepsOn

theorem keepsNumbers_of_same (after : Problem) (columns : after.columns = problem.columns)
    (rows : after.rows = problem.rows) : KeepsNumbers kind problem after := by
  apply keepsNumbers_of_parts
  · rw [columns]
    exact problem.columns.keepsNumbers_refl _
  · rw [rows]
    exact problem.rows.keepsNumbers_refl _

theorem keepsNumbers_newColumn (key : String) (fresh : ¬ problem.columns.contains key = true) :
    KeepsNumbers kind problem { problem with columns := problem.columns.insert key {} } :=
  problem.keepsNumbers_of_parts _ (problem.columns.keepsNumbers_insert key {} fresh rfl)
    (problem.rows.keepsNumbers_refl _)

theorem keepsNumbers_newRow (key : String) (direction : Option Value)
    (fresh : ¬ problem.rows.contains key = true) :
    KeepsNumbers kind problem (problem.addRow key { direction }) :=
  problem.keepsNumbers_of_parts _ (problem.columns.keepsNumbers_refl _)
    (problem.rows.keepsNumbers_insert key _ fresh rfl)

theorem keepsNumbers_ensureColumn (key : String) : KeepsNumbers kind problem (problem.ensureColumn key) := by
  unfold ensureColumn
  split
  · exact problem.keepsNumbers_refl
  next fresh => exact problem.keepsNumbers_newColumn key fresh

theorem keepsNumbers_ensureRow (key : String) : KeepsNumbers kind problem (problem.ensureRow key) := by
  unfold ensureRow
  split
  · exact problem.keepsNumbers_refl
  next fresh => exact problem.keepsNumbers_newRow key none fresh

theorem keepsNumbers_createColumn (key : String) (created : Problem)
    (creates : problem.createColumn key = .ok created) : KeepsNumbers kind problem created := by
  obtain ⟨fresh, rfl⟩ := problem.createColumn_ok key created creates
  exact problem.keepsNumbers_newColumn key fresh

theorem keepsNumbers_createRow (key : String) (direction : Option Value) (created : Problem)
    (creates : problem.createRow key direction = .ok created) : KeepsNumbers kind problem created := by
  obtain ⟨fresh, rfl⟩ := problem.createRow_ok key direction created creates
  exact problem.keepsNumbers_newRow key direction fresh

theorem keepsNumbers_createObjective (name direction : Value) (created : Problem)
    (creates : problem.createObjective name direction = .ok created) : KeepsNumbers kind problem created := by
  obtain ⟨-, ⟨key, -, fresh, rfl⟩ | ⟨-, rfl⟩⟩ := problem.createObjective_ok name direction created creates
  · exact (problem.keepsNumbers_newRow key (some direction) fresh).trans (Problem.keepsNumbers_of_same _ _ rfl rfl)
  · exact problem.keepsNumbers_of_same _ rfl rfl

theorem keepsNumbers_changeColumn (key : String) (change : Column → Column)
    (silent : ∀ column, problem.columns.get? key = some column → (change column).number = column.number) :
    KeepsNumbers kind problem (problem.changeColumn key change) :=
  problem.keepsNumbers_of_parts _ (problem.columns.keepsNumbers_modify key change silent)
    (problem.rows.keepsNumbers_refl _)

theorem keepsNumbers_changeRow (key : Value) (change : Row → Row)
    (silent : ∀ row, problem.row? key = some row → (change row).number = row.number) :
    KeepsNumbers kind problem (problem.changeRow key change) := by
  unfold changeRow
  split
  next key =>
    exact problem.keepsNumbers_of_parts _ (problem.columns.keepsNumbers_refl _)
      (problem.rows.keepsNumbers_modify key change silent)
  next =>
    split
    · exact problem.keepsNumbers_of_same _ rfl rfl
    · exact problem.keepsNumbers_refl

theorem keepsNumbers_changeAttributes (on : EntityKind) (key : Value) (change : Attributes → Attributes)
    (silent : ∀ attributes, problem.attributes? on key = some attributes →
      (change attributes).number = attributes.number) :
    KeepsNumbers kind problem (problem.changeAttributes on key change) := by
  cases isRow : on.isRow with
  | true =>
      rw [changeAttributes_row problem on isRow]
      apply keepsNumbers_changeRow
      intro row found
      exact silent row.toAttributes (by rw [attributes?_row problem on isRow, found, Option.map_some])
  | false =>
      cases on.eq_column isRow
      cases key with
      | text key =>
          apply keepsNumbers_changeColumn
          intro column found
          exact silent column.toAttributes (problem.attributes?_of_column key column found)
      | _ => exact problem.keepsNumbers_refl

-- Whatever happens to a row, columns keep their numbers, and the other way round.
theorem keepsNumbers_otherSide (on : EntityKind) (key : Value) (change : Attributes → Attributes)
    (apart : on.isRow ≠ kind.isRow) : KeepsNumbers kind problem (problem.changeAttributes on key change) := by
  cases isRow : on.isRow with
  | true =>
      cases kind.eq_column (by simpa [isRow] using apart)
      rw [changeAttributes_row problem on isRow]
      show problem.columns.KeepsNumbers _ _
      rw [columns_changeRow]
      exact problem.columns.keepsNumbers_refl _
  | false =>
      cases on.eq_column isRow
      have rows : (problem.changeAttributes .column key change).rows = problem.rows := by cases key <;> rfl
      cases kind with
      | column => exact absurd rfl apart
      | row | objective =>
          show problem.rows.KeepsNumbers _ _
          rw [rows]
          exact problem.rows.keepsNumbers_refl _

theorem keepsNumbers_setBounds (on : EntityKind) (key lower upper : Value) :
    KeepsNumbers kind problem (problem.setBounds on key lower upper).1 := by
  unfold setBounds
  split
  · exact problem.keepsNumbers_refl
  next attributes found =>
    apply keepsNumbers_changeAttributes
    intro others there
    rw [found] at there
    cases there
    exact attributes.number_setBounds lower upper

theorem keepsNumbers_storeResults (journey : Journey) :
    KeepsNumbers kind problem (journey.storeResults problem) := by
  rw [storeResults_eq_foldl]
  induction storedIn journey.passed generalizing problem with
  | nil => exact problem.keepsNumbers_refl
  | cons stored rest ih =>
      refine KeepsNumbers.trans ?_ (ih _)
      exact problem.keepsNumbers_changeAttributes _ _ _ fun _ _ => by cases stored.result <;> rfl

theorem keepsNumbers_solve (solver : Solver) (engine : Engine) :
    KeepsNumbers kind problem.assignNumbers (solver.solve problem engine).problem := by
  rw [solver.problem_solve]
  exact problem.assignNumbers.keepsNumbers_storeResults _

end Problem

namespace Step

def assignsNumber (index : Nat) (kind : EntityKind) : Step → Bool
  | .assign (some ref) .number _ => ref.problem == index && ref.kind.isRow == kind.isRow
  | _ => false

def numbers (index : Nat) : Step → Bool
  | .assignNumbers on | .solve _ on _ => on == index
  | _ => false

end Step

def Session.KeepsNumbers (kind : EntityKind) (index : Nat) (before after : Session) : Prop :=
  ∀ problem, before.problems[index]? = some problem → ∃ later : Problem,
    after.problems[index]? = some later ∧ problem.KeepsNumbers kind later

namespace Session

section Keeping

variable {kind : EntityKind} {index : Nat} (session : Session)

theorem keepsNumbers_of_problems (after : Session) (same : after.problems = session.problems) :
    KeepsNumbers kind index session after :=
  fun problem found => ⟨problem, by rw [same, found], problem.keepsNumbers_refl⟩

theorem keepsNumbers_setProblem (on : Nat) (before after : Problem)
    (found : session.problems[on]? = some before) (keeps : on = index → before.KeepsNumbers kind after) :
    KeepsNumbers kind index session (session.setProblem on after) := by
  intro problem there
  rw [session.getElem?_setProblem on index before after found]
  by_cases same : index = on
  · subst same
    rw [found] at there
    cases there
    exact ⟨after, if_pos rfl, keeps rfl⟩
  · exact ⟨problem, by rw [if_neg same, there], problem.keepsNumbers_refl⟩

theorem keepsNumbers_store (on : Nat) (changed : Except Fault Problem) (shown : EntityKind) (key : Value)
    (keeps : ∀ after, changed = .ok after → ∃ before, session.problems[on]? = some before ∧
      (on = index → before.KeepsNumbers kind after)) :
    KeepsNumbers kind index session (session.store on changed shown key).1 := by
  cases changed with
  | error fault => exact session.keepsNumbers_of_problems session rfl
  | ok after =>
      obtain ⟨before, found, keeps⟩ := keeps after rfl
      exact session.keepsNumbers_setProblem on before after found keeps

theorem keepsNumbers_change (on : Nat) (change : Problem → Problem) (shown : EntityKind) (key : Value)
    (keeps : on = index → ∀ problem : Problem, problem.KeepsNumbers kind (change problem)) :
    KeepsNumbers kind index session
      (session.store on ((session.problemAt on).map change) shown key).1 := by
  apply keepsNumbers_store
  intro after same
  cases found : session.problemAt on with
  | error fault =>
      rw [found] at same
      cases same
  | ok problem =>
      rw [found] at same
      cases same
      exact ⟨problem, (problemAt_ok session on problem).mp found, fun here => keeps here problem⟩

theorem keepsNumbers_creation (on : Nat) (create : Problem → Except Fault Problem) (shown : EntityKind)
    (key : Value)
    (keeps : ∀ problem created : Problem, create problem = .ok created → problem.KeepsNumbers kind created) :
    KeepsNumbers kind index session (session.store on (session.problemAt on >>= create) shown key).1 := by
  apply keepsNumbers_store
  intro created same
  cases found : session.problemAt on with
  | error fault =>
      rw [found] at same
      cases same
  | ok problem =>
      rw [found] at same
      exact ⟨problem, (problemAt_ok session on problem).mp found, fun _ => keeps problem created same⟩

theorem keepsNumbers_on (handle : Handle) (member : String) (act : EntityRef → Session × Reply)
    (each : ∀ ref, handle = some ref → KeepsNumbers kind index session (act ref).1) :
    KeepsNumbers kind index session (session.on handle member act).1 := by
  cases handle with
  | none => exact session.keepsNumbers_of_problems session rfl
  | some ref => exact each ref rfl

theorem keepsNumbers_setName (on : Nat) (name : Value) :
    KeepsNumbers kind index session (session.setName on name).1 := by
  unfold setName
  split
  · exact session.keepsNumbers_of_problems session rfl
  next problem found =>
    exact session.keepsNumbers_setProblem on problem _ ((problemAt_ok session on problem).mp found)
      fun _ => problem.keepsNumbers_of_same _ rfl rfl

theorem keepsNumbers_ensure (on : Nat) (ensured : EntityKind) (name : Value) (indices : List Value) :
    KeepsNumbers kind index session (session.ensure on ensured name indices).1 := by
  unfold ensure
  split
  · exact session.keepsNumbers_of_problems session rfl
  next problem found =>
    split
    · exact session.keepsNumbers_of_problems session rfl
    next key _ =>
      apply keepsNumbers_store
      intro after same
      cases same
      refine ⟨problem, (problemAt_ok session on problem).mp found, fun _ => ?_⟩
      split
      · exact problem.keepsNumbers_ensureRow key
      · exact problem.keepsNumbers_ensureColumn key

theorem keepsNumbers_objective (on : Nat) (name direction : Value) :
    KeepsNumbers kind index session (session.objective on name direction).1 := by
  unfold objective
  split
  · split
    · exact session.keepsNumbers_of_problems session rfl
    · split <;> exact session.keepsNumbers_of_problems _ rfl
  · exact session.keepsNumbers_creation on _ _ _ fun problem created creates =>
      problem.keepsNumbers_createObjective name direction created creates

theorem keepsNumbers_changeColumn (ref : EntityRef) (member : String) (change : Column → Column)
    (silent : ∀ column, (change column).number = column.number) :
    KeepsNumbers kind index session (session.changeColumn ref member change).1 := by
  unfold changeColumn
  split
  · exact session.keepsNumbers_change _ _ _ _ fun _ problem =>
      problem.keepsNumbers_changeColumn _ change fun column _ => silent column
  · exact session.keepsNumbers_of_problems session rfl

theorem keepsNumbers_setBounds (ref : EntityRef) (lower upper : Value) :
    KeepsNumbers kind index session (session.setBounds ref lower upper).1 := by
  unfold setBounds
  split
  · exact session.keepsNumbers_of_problems session rfl
  next problem found =>
    have bounded : KeepsNumbers kind index session
        (session.setProblem ref.problem (problem.setBounds ref.kind ref.key lower upper).1) :=
      session.keepsNumbers_setProblem _ problem _ ((problemAt_ok session ref.problem problem).mp found)
        fun _ => problem.keepsNumbers_setBounds ref.kind ref.key lower upper
    dsimp only
    split <;> exact bounded

theorem keepsNumbers_setDirection (ref : EntityRef) (direction : Value) :
    KeepsNumbers kind index session (session.setDirection ref direction).1 := by
  unfold setDirection
  split
  · exact session.keepsNumbers_change _ _ _ _ fun _ problem =>
      problem.keepsNumbers_changeRow _ _ fun _ _ => rfl
  · exact session.keepsNumbers_of_problems session rfl

-- A number that is assigned elsewhere, or to the other side, is none of these.
theorem keepsNumbers_assign (ref : EntityRef) (field : Field) (value : Value)
    (unassigned : Step.assignsNumber index kind (.assign (some ref) field value) = false) :
    KeepsNumbers kind index session (session.assign ref field value).1 := by
  unfold assign
  dsimp only
  split
  · exact session.keepsNumbers_changeColumn ref _ _ fun _ => rfl
  · apply keepsNumbers_change
    intro here problem
    cases field with
    | number =>
        apply Problem.keepsNumbers_otherSide
        simpa [Step.assignsNumber, here] using unassigned
    | value | dual | lower | upper =>
        exact problem.keepsNumbers_changeAttributes _ _ _ fun _ _ => rfl
    | type => exact problem.keepsNumbers_changeRow _ _ fun _ _ => rfl

theorem keepsNumbers_add (ref : EntityRef) (amount target : Value) (indices : List Value) :
    KeepsNumbers kind index session (session.add ref amount target indices).1 := by
  unfold add
  split
  · exact session.keepsNumbers_of_problems session rfl
  next other named found =>
    obtain ⟨problem, isThere, counter⟩ := bind_ok found
    have at_ := (problemAt_ok session ref.problem problem).mp isThere
    have naming : problem.KeepsNumbers kind named := by
      rcases counterpart_cases problem named ref other target indices counter with
        ⟨_, _, rfl⟩ | ⟨key, _, _, _, rfl⟩ | ⟨key, _, _, _, rfl⟩
      · exact named.keepsNumbers_refl
      · exact problem.keepsNumbers_ensureColumn key
      · exact problem.keepsNumbers_ensureRow key
    have made : KeepsNumbers kind index session (session.setProblem ref.problem named) :=
      session.keepsNumbers_setProblem _ problem named at_ fun _ => naming
    dsimp only
    split
    · exact made
    · split
      · exact made
      · rw [answer, setProblem_setProblem]
        apply session.keepsNumbers_setProblem _ problem _ at_
        intro _
        exact naming.trans (named.keepsNumbers_changeRow _ _ fun _ _ => rfl)

theorem keepsNumbers_problem (name : Value) :
    KeepsNumbers kind index session (session.step (.problem name)).1 := by
  intro problem found
  have inside := (List.getElem?_eq_some_iff.mp found).1
  exact ⟨problem, (List.getElem?_append_left inside).trans found, problem.keepsNumbers_refl⟩

theorem keepsNumbers_assignNumbers (on : Nat) (elsewhere : on ≠ index) :
    KeepsNumbers kind index session (session.assignNumbers on).1 := by
  unfold assignNumbers
  split
  · exact session.keepsNumbers_of_problems session rfl
  next problem found =>
    have numbered : KeepsNumbers kind index session (session.setProblem on problem.assignNumbers) :=
      session.keepsNumbers_setProblem on problem _ ((problemAt_ok session on problem).mp found)
        fun here => absurd here elsewhere
    dsimp only
    split <;> exact numbered

theorem keepsNumbers_solve (solver on : Nat) (engine : Engine) (elsewhere : on ≠ index) :
    KeepsNumbers kind index session (session.solve solver on engine).1 := by
  unfold solve
  split
  next given model _ found =>
    exact session.keepsNumbers_setProblem on model (given.solve model engine).problem
      ((problemAt_ok session on model).mp found) fun here => absurd here elsewhere
  · exact session.keepsNumbers_of_problems session rfl
  · exact session.keepsNumbers_of_problems session rfl

/-- Numbers stay unless a step assigns one or numbers the problem. -/
theorem step_keepsNumbers (step : Step) (unassigned : step.assignsNumber index kind = false)
    (still : step.numbers index = false) : KeepsNumbers kind index session (session.step step).1 := by
  cases step with
  | problem name => exact session.keepsNumbers_problem name
  | setName on name => exact session.keepsNumbers_setName on name
  | column on name indices => exact session.keepsNumbers_ensure on .column name indices
  | row on name indices => exact session.keepsNumbers_ensure on .row name indices
  | objective on name direction => exact session.keepsNumbers_objective on name direction
  | newColumn on key =>
      exact session.keepsNumbers_creation on _ _ _ fun problem created creates =>
        problem.keepsNumbers_createColumn key created creates
  | newRow on key =>
      exact session.keepsNumbers_creation on _ _ _ fun problem created creates =>
        problem.keepsNumbers_createRow key none created creates
  | newObjective on key direction =>
      exact session.keepsNumbers_creation on _ _ _ fun problem created creates =>
        problem.keepsNumbers_createRow key (some direction) created creates
  | setType on type =>
      exact session.keepsNumbers_on on _ _ fun ref _ => session.keepsNumbers_changeColumn ref _ _ fun _ => rfl
  | setBounds on lower upper =>
      exact session.keepsNumbers_on on _ _ fun ref _ => session.keepsNumbers_setBounds ref lower upper
  | setDirection on direction =>
      exact session.keepsNumbers_on on _ _ fun ref _ => session.keepsNumbers_setDirection ref direction
  | add on amount target indices =>
      exact session.keepsNumbers_on on _ _ fun ref _ => session.keepsNumbers_add ref amount target indices
  | assign on field value =>
      apply session.keepsNumbers_on
      rintro ref rfl
      exact session.keepsNumbers_assign ref field value unassigned
  | assignNumbers on =>
      exact session.keepsNumbers_assignNumbers on (by simpa [Step.numbers] using still)
  | solve solver on engine =>
      exact session.keepsNumbers_solve solver on engine (by simpa [Step.numbers] using still)
  | solverFromConfig config => exact session.keepsNumbers_of_problems _ (problems_addSolver session _)
  | configure on config => exact session.keepsNumbers_of_problems _ (problems_configure session on _)
  | setPresolve on value | setGap on value | setTimeLimit on value =>
      exact session.keepsNumbers_of_problems _ (problems_tune session on _)
  | setCallback on listens =>
      exact session.keepsNumbers_of_problems _ (problems_setListening session on listens)
  | get on => cases on <;> exact session.keepsNumbers_of_problems _ rfl
  | columnText on | rowText on | engineBounds on =>
      exact session.keepsNumbers_on on _ _ fun ref _ => session.keepsNumbers_of_problems _ rfl
  | _ => exact session.keepsNumbers_of_problems _ rfl

/-- The step numbers the problem with number `index`: it is asked to, or a solver that is there solves it. -/
def numbersNow (index : Nat) (step : Step) : Bool :=
  step.numbers index &&
    match step with
    | .solve solver _ _ => decide (solver < session.solvers.length)
    | _ => true

theorem problems_solve (solver : Nat) (given : Solver) (engine : Engine) (problem : Problem)
    (isThere : session.solvers[solver]? = some given) (found : session.problems[index]? = some problem) :
    (session.solve solver index engine).1.problems[index]? = some (given.solve problem engine).problem := by
  have givenAt : session.solverAt solver = .ok given := by rw [solverAt, isThere]
  have solved := session.getElem?_setProblem index index problem (given.solve problem engine).problem found
  rw [if_pos rfl] at solved
  unfold solve
  rw [givenAt, (problemAt_ok session index problem).mpr found]
  exact solved

/-- A step that numbers a problem counts off its entities, keeps these numbers and creates nothing. -/
theorem step_numbersNow (step : Step) (now : session.numbersNow index step = true) (problem : Problem)
    (found : session.problems[index]? = some problem) : ∃ later : Problem,
      (session.step step).1.problems[index]? = some later ∧ later.unsolved = problem.unsolved ∧
        ∀ kind, problem.assignNumbers.KeepsNumbers kind later := by
  obtain ⟨asks, able⟩ := Bool.and_eq_true_iff.mp now
  cases step with
  | assignNumbers on =>
      have here : on = index := by simpa [Step.numbers] using asks
      subst here
      have numbered := session.getElem?_setProblem on on problem problem.assignNumbers found
      rw [if_pos rfl] at numbered
      refine ⟨problem.assignNumbers, ?_, problem.unsolved_assignNumbers,
        fun _ => problem.assignNumbers.keepsNumbers_refl⟩
      simp only [step, assignNumbers, (problemAt_ok session on problem).mpr found]
      split <;> exact numbered
  | solve solver on engine =>
      have here : on = index := by simpa [Step.numbers] using asks
      subst here
      have inside : solver < session.solvers.length := by simpa using able
      exact ⟨_, session.problems_solve solver _ engine problem (List.getElem?_eq_getElem inside) found,
        problem.unsolved_solve _ engine, fun _ => problem.keepsNumbers_solve _ engine⟩
  | _ => cases asks

/-- What one step does to numbers: it keeps those that are there, or those that numbering gives. -/
theorem step_numbers (step : Step) (unassigned : step.assignsNumber index kind = false) (problem : Problem)
    (found : session.problems[index]? = some problem) : ∃ later : Problem,
      (session.step step).1.problems[index]? = some later ∧
        (problem.KeepsNumbers kind later ∨ problem.assignNumbers.KeepsNumbers kind later) := by
  cases asks : step.numbers index with
  | false =>
      obtain ⟨later, there, keeps⟩ := session.step_keepsNumbers step unassigned asks problem found
      exact ⟨later, there, Or.inl keeps⟩
  | true =>
      cases now : session.numbersNow index step with
      | true =>
          obtain ⟨later, there, -, keeps⟩ := session.step_numbersNow step now problem found
          exact ⟨later, there, Or.inr (keeps kind)⟩
      | false =>
          -- only a solve by a solver that is not there asks for numbers and gives none
          cases step with
          | solve solver on engine =>
              have missing : session.solvers[solver]? = none := by simpa [numbersNow, asks] using now
              have unchanged : (session.solve solver on engine).1 = session := by
                have none : session.solverAt solver = .error .indexOutOfRange := by rw [solverAt, missing]
                simp [solve, none, fail]
              exact ⟨problem, (congrArg (·.problems[index]?) unchanged).trans found,
                Or.inl problem.keepsNumbers_refl⟩
          | assignNumbers on => simp [numbersNow, asks] at now
          | _ => cases asks

end Keeping

end Session

end LinearProgram
