import LinearProgram.Proofs.Numbers
import LinearProgram.Session.Run

/-!
Reachable sessions. A program starts with nothing and takes steps on entities that are there. Every
problem that it reaches is closed: each coefficient stands under the key of a registered column.
-/

namespace LinearProgram

section Reaching

def EntityView.kind : EntityView → EntityKind
  | .column .. => .column
  | .row _ found => found.kind

def EntityRef.IsIn (ref : EntityRef) (session : Session) : Prop :=
  ∃ problem view, session.problems[ref.problem]? = some problem ∧
    problem.view? ref.kind ref.key = some view ∧ view.kind = ref.kind

def Value.handle : Value → Handle
  | .entity problem kind key => some ⟨problem, kind, key⟩
  | _ => none

/-- What a step works on. Entities inside other values are only shown or kept. -/
def Step.handles : Step → List Handle
  | .coefficient _ first second => [first, second]
  | .display on | .quote on | .setType on _ | .setBounds on _ _ | .setDirection on _
  | .assign on _ _ | .get on | .columnText on | .rowText on | .engineBounds on => [on]
  | .add on _ target _ => [on, target.handle]
  | .less a b | .same a b => [a, b]
  | _ => []

def Step.IsSound (step : Step) (session : Session) : Prop :=
  ∀ ref, some ref ∈ step.handles → ref.IsIn session

instance (ref : EntityRef) (session : Session) : Decidable (ref.IsIn session) :=
  decidable_of_iff
    (((session.problems[ref.problem]?).bind (·.view? ref.kind ref.key)).any (·.kind == ref.kind) = true)
    (by
      rw [Option.any_eq_true]
      simp only [EntityRef.IsIn, Option.bind_eq_some_iff, beq_iff_eq]
      exact ⟨fun ⟨view, ⟨problem, isThere, found⟩, same⟩ => ⟨problem, view, isThere, found, same⟩,
        fun ⟨problem, view, isThere, found, same⟩ => ⟨view, ⟨problem, isThere, found⟩, same⟩⟩)

instance (step : Step) (session : Session) : Decidable (step.IsSound session) :=
  decidable_of_iff (∀ ref ∈ step.handles.filterMap id, ref.IsIn session)
    (by simp [Step.IsSound])

inductive Session.Reachable : Session → Prop where
  | start : Reachable {}
  | step (session : Session) (step : Step) :
      Reachable session → step.IsSound session → Reachable (session.step step).1

def Problem.Reachable (problem : Problem) : Prop :=
  ∃ session : Session, session.Reachable ∧ problem ∈ session.problems

/-- Every step of a program works on what is there when it is taken. -/
def Session.SoundRun : Session → List Step → Prop
  | _, [] => True
  | session, first :: rest => first.IsSound session ∧ SoundRun (session.step first).1 rest

instance decidableSoundRun : (session : Session) → (steps : List Step) → Decidable (session.SoundRun steps)
  | _, [] => inferInstanceAs (Decidable True)
  | session, first :: rest =>
      let _ := decidableSoundRun (session.step first).1 rest
      inferInstanceAs (Decidable (first.IsSound session ∧ Session.SoundRun (session.step first).1 rest))

theorem Session.Reachable.run (session : Session) (steps : List Step) (reachable : session.Reachable)
    (sound : session.SoundRun steps) : (session.run steps).1.Reachable := by
  induction steps generalizing session with
  | nil => exact reachable
  | cons first rest ih => exact ih _ (reachable.step session first sound.1) sound.2

end Reaching

namespace Problem

def Closed (problem : Problem) : Prop :=
  ∀ key row column x, problem.row? key = some row → row.cells.get? column = some x →
    problem.columns.contains column = true

theorem closed_empty (name : Value) : Closed { name } := by
  intro key row column x found
  cases key <;> simp [row?, beside?] at found

-- A change keeps a problem closed if it removes no column and each coefficient was there before or
-- stands under a registered column.
theorem closed_of_cells (before after : Problem) (closed : before.Closed)
    (columns : ∀ column, before.columns.contains column = true → after.columns.contains column = true)
    (cells : ∀ key row column x, after.row? key = some row → row.cells.get? column = some x →
      (∃ old, before.row? key = some old ∧ old.cells.get? column = some x) ∨
        after.columns.contains column = true) : after.Closed := by
  intro key row column x found cell
  rcases cells key row column x found cell with ⟨old, wasThere, oldCell⟩ | registered
  · exact columns column (closed key old column x wasThere oldCell)
  · exact registered

theorem closed_of_rows (before after : Problem) (closed : before.Closed)
    (columns : ∀ column, before.columns.contains column = true → after.columns.contains column = true)
    (rows : after.row? = before.row?) : after.Closed :=
  closed_of_cells before after closed columns fun key row _ _ found cell =>
    Or.inl ⟨row, by rw [← rows, found], cell⟩

variable (problem : Problem)

theorem contains_ensureColumn (key other : String) :
    (problem.ensureColumn key).columns.contains other =
      (decide (other = key) || problem.columns.contains other) := by
  unfold ensureColumn
  split
  next present =>
    by_cases same : other = key
    · simp [same, present]
    · simp [same]
  next => exact Catalog.contains_insert ..

@[simp] theorem row?_ensureColumn (key : String) :
    (problem.ensureColumn key).row? = problem.row? := by
  unfold ensureColumn
  split <;> rfl

theorem closed_ensureColumn (key : String) (closed : problem.Closed) :
    (problem.ensureColumn key).Closed :=
  closed_of_rows problem _ closed
    (fun column present => by simp [contains_ensureColumn, present])
    (row?_ensureColumn problem key)

theorem closed_changeColumn (key : String) (change : Column → Column) (closed : problem.Closed) :
    (problem.changeColumn key change).Closed :=
  closed_of_rows problem _ closed
    (fun column present => by
      simp only [changeColumn, Catalog.contains, Catalog.get?_modify]
      split
      next same => subst same; simpa [Catalog.contains] using present
      next => exact present)
    rfl

theorem row?_addRow (key : String) (row : Row) (other : Value) :
    (problem.addRow key row).row? other =
      if other.sameKey (.text key) then some row else problem.row? other := by
  cases other with
  | text other => simp [addRow, Catalog.get?_insert, Value.sameKey]
  | _ => rfl

-- A new row without coefficients keeps a problem closed, whichever row becomes the objective.
theorem closed_addRow (key : String) (row : Row) (bare : row.cells = .empty)
    (closed : problem.Closed) : (problem.addRow key row).Closed := by
  refine closed_of_cells problem _ closed (fun _ present => present) ?_
  intro name found column x there cell
  rw [row?_addRow] at there
  split at there
  · cases there
    rw [bare] at cell
    simp at cell
  · exact Or.inl ⟨found, there, cell⟩

theorem closed_ensureRow (key : String) (closed : problem.Closed) :
    (problem.ensureRow key).Closed := by
  unfold ensureRow
  split
  · exact closed
  · exact closed_addRow problem key {} rfl closed

theorem createColumn_ok (key : String) (created : Problem) (creates : problem.createColumn key = .ok created) :
    ¬ problem.columns.contains key = true ∧ created = { problem with columns := problem.columns.insert key {} } := by
  unfold createColumn at creates
  split at creates
  · cases creates
  next fresh => exact ⟨fresh, (Except.ok.inj creates).symm⟩

theorem createRow_ok (key : String) (direction : Option Value) (created : Problem)
    (creates : problem.createRow key direction = .ok created) :
    ¬ problem.rows.contains key = true ∧ created = problem.addRow key { direction } := by
  unfold createRow at creates
  split at creates
  · cases creates
  next fresh => exact ⟨fresh, (Except.ok.inj creates).symm⟩

-- A new objective is a new row, or stands beside the rows if its name is no text.
theorem createObjective_ok (name direction : Value) (created : Problem)
    (creates : problem.createObjective name direction = .ok created) : problem.objective = none ∧
      ((∃ key, name = .text key ∧ ¬ problem.rows.contains key = true ∧ created =
          { problem.addRow key { direction := some direction } with objective := some (.row key) }) ∨
        (∀ key, name ≠ .text key) ∧ created = { problem with
          objective := some (.beside name { direction := some direction } problem.arrivals.toList) }) := by
  unfold createObjective at creates
  split at creates
  next aim aimed =>
    obtain ⟨_, -, raises⟩ := bind_ok creates
    cases raises
  next unaimed =>
    refine ⟨unaimed, ?_⟩
    split at creates
    next key =>
      obtain ⟨row, made, rfl⟩ := map_ok creates
      obtain ⟨fresh, rfl⟩ := createRow_ok problem key (some direction) row made
      exact Or.inl ⟨key, rfl, fresh, rfl⟩
    next notText =>
      split at creates
      · exact Or.inr ⟨notText, (Except.ok.inj creates).symm⟩
      · cases creates

theorem closed_createColumn (key : String) (created : Problem) (closed : problem.Closed)
    (creates : problem.createColumn key = .ok created) : created.Closed := by
  obtain ⟨-, rfl⟩ := createColumn_ok problem key created creates
  exact closed_of_rows problem _ closed
    (fun column present => by simp [Catalog.contains_insert, present]) rfl

theorem closed_createRow (key : String) (direction : Option Value) (created : Problem)
    (closed : problem.Closed) (creates : problem.createRow key direction = .ok created) :
    created.Closed := by
  obtain ⟨-, rfl⟩ := createRow_ok problem key direction created creates
  exact closed_addRow problem key _ rfl closed

-- The objective of a closed problem may become a row, or a row without coefficients beside the others.
theorem closed_aim (aim : Aim) (bare : ∀ name row earlier, aim = .beside name row earlier →
    row.cells = .empty) (closed : problem.Closed) :
    Closed { problem with objective := some aim } := by
  refine closed_of_cells problem _ closed (fun _ present => present) ?_
  intro key row column x there cell
  cases key with
  | text key => exact Or.inl ⟨row, there, cell⟩
  | _ =>
      cases aim with
      | row key => simp [row?, beside?] at there
      | beside name aimed earlier =>
          simp only [row?, beside?, Option.map_some, Option.some.injEq] at there
          subst there
          rw [bare name aimed earlier rfl] at cell
          simp at cell

theorem closed_createObjective (name direction : Value) (created : Problem)
    (closed : problem.Closed) (creates : problem.createObjective name direction = .ok created) :
    created.Closed := by
  obtain ⟨-, ⟨key, -, -, rfl⟩ | ⟨-, rfl⟩⟩ := createObjective_ok problem name direction created creates
  · refine closed_aim _ (.row key) ?_ (closed_addRow problem key _ rfl closed)
    intro name row earlier same
    cases same
  · refine closed_aim problem _ ?_ closed
    intro name row earlier same
    cases same
    rfl

theorem closed_changeRow (key : Value) (change : Row → Row) (closed : problem.Closed)
    (cells : ∀ row column x, (change row).cells.get? column = some x →
      row.cells.get? column = some x ∨ problem.columns.contains column = true) :
    (problem.changeRow key change).Closed := by
  refine closed_of_cells problem _ closed (fun column present => by simpa using present) ?_
  intro name row column x there cell
  rw [row?_changeRow] at there
  split at there
  · obtain ⟨old, wasThere, rfl⟩ := Option.map_eq_some_iff.mp there
    rcases cells old column x cell with kept | registered
    · exact Or.inl ⟨old, wasThere, kept⟩
    · exact Or.inr (by simpa using registered)
  · exact Or.inl ⟨row, there, cell⟩

theorem closed_setCoefficient (row : Value) (column : String) (x : Binary64)
    (closed : problem.Closed) (registered : problem.columns.contains column = true) :
    (problem.setCoefficient row column x).Closed := by
  refine closed_changeRow problem row _ closed ?_
  intro old other y cell
  rw [Catalog.get?_insert] at cell
  split at cell
  next same => exact Or.inr (same ▸ registered)
  next => exact Or.inl cell

theorem closed_changeAttributes (kind : EntityKind) (key : Value) (change : Attributes → Attributes)
    (closed : problem.Closed) : (problem.changeAttributes kind key change).Closed := by
  cases isRow : kind.isRow with
  | true =>
      rw [changeAttributes_row problem kind isRow]
      exact closed_changeRow problem key _ closed fun _ _ _ cell => Or.inl cell
  | false =>
      unfold changeAttributes
      split
      · exact closed_changeColumn problem _ _ closed
      · exact closed
      · simp [EntityKind.isRow] at isRow
      · simp [EntityKind.isRow] at isRow

theorem closed_setBounds (kind : EntityKind) (key lower upper : Value) (closed : problem.Closed) :
    (problem.setBounds kind key lower upper).1.Closed := by
  unfold setBounds
  split
  · exact closed
  · exact closed_changeAttributes problem kind key _ closed

theorem closed_assignNumbers (closed : problem.Closed) : problem.assignNumbers.Closed := by
  refine closed_of_cells problem _ closed (fun column present => ?_) ?_
  · simpa [Catalog.contains, get?_columns_assignNumbers] using present
  · intro key row column x there cell
    obtain ⟨number, numbered⟩ := row?_assignNumbers problem key
    rw [numbered] at there
    obtain ⟨old, wasThere, rfl⟩ := Option.map_eq_some_iff.mp there
    exact Or.inl ⟨old, wasThere, cell⟩

theorem closed_storeResults (journey : Journey) (closed : problem.Closed) :
    (journey.storeResults problem).Closed := by
  unfold Journey.storeResults
  induction journey.passed generalizing problem with
  | nil => exact closed
  | cons event rest ih =>
      refine ih _ ?_
      dsimp only
      split
      · exact closed_changeAttributes problem _ _ _ closed
      · exact closed

-- A solve keeps a problem closed however it ends.
theorem closed_solve (solver : Solver) (engine : Engine) (closed : problem.Closed) :
    (solver.solve problem engine).problem.Closed := by
  have numbered := closed_assignNumbers problem closed
  unfold Solver.solve
  dsimp only
  split
  · exact numbered
  · exact numbered
  · exact closed_storeResults _ _ numbered

end Problem

namespace Session

def Closed (session : Session) : Prop := ∀ problem ∈ session.problems, problem.Closed

variable (session : Session)

theorem problemAt_ok (index : Nat) (problem : Problem) :
    session.problemAt index = .ok problem ↔ session.problems[index]? = some problem := by
  unfold problemAt
  cases session.problems[index]? <;> simp

theorem closed_problemAt (index : Nat) (problem : Problem) (closed : session.Closed)
    (found : session.problemAt index = .ok problem) : problem.Closed :=
  closed problem (List.mem_of_getElem? ((problemAt_ok session index problem).mp found))

theorem closed_setProblem (index : Nat) (problem : Problem) (closed : session.Closed)
    (good : problem.Closed) : (session.setProblem index problem).Closed := by
  intro other member
  rcases List.mem_or_eq_of_mem_set member with kept | same
  · exact closed other kept
  · exact same ▸ good

theorem closed_store (index : Nat) (changed : Except Fault Problem) (kind : EntityKind) (key : Value)
    (closed : session.Closed) (good : ∀ problem, changed = .ok problem → problem.Closed) :
    (session.store index changed kind key).1.Closed := by
  cases changed with
  | error fault => exact closed
  | ok problem => exact closed_setProblem session index problem closed (good problem rfl)

theorem closed_change (index : Nat) (change : Problem → Problem)  (kind : EntityKind) (key : Value)
    (closed : session.Closed) (good : ∀ problem : Problem, problem.Closed → (change problem).Closed) :
    (session.store index ((session.problemAt index).map change) kind key).1.Closed := by
  refine closed_store session index _ kind key closed ?_
  intro changed same
  obtain ⟨problem, found, rfl⟩ := map_ok same
  exact good problem (closed_problemAt session index problem closed found)

theorem closed_creation (index : Nat) (create : Problem → Except Fault Problem) (kind : EntityKind)
    (key : Value) (closed : session.Closed)
    (good : ∀ problem created : Problem, problem.Closed → create problem = .ok created →
      created.Closed) :
    (session.store index (session.problemAt index >>= create) kind key).1.Closed := by
  refine closed_store session index _ kind key closed ?_
  intro created same
  obtain ⟨problem, found, creates⟩ := bind_ok same
  exact good problem created (closed_problemAt session index problem closed found) creates

theorem closed_on (handle : Handle) (member : String) (act : EntityRef → Session × Reply)
    (closed : session.Closed) (good : ∀ ref, handle = some ref → (act ref).1.Closed) :
    (session.on handle member act).1.Closed := by
  cases handle with
  | none => exact closed
  | some ref => exact good ref rfl

theorem closed_setName (index : Nat) (name : Value) (closed : session.Closed) :
    (session.setName index name).1.Closed := by
  unfold setName
  split
  · exact closed
  next problem found =>
    refine closed_setProblem session index _ closed ?_
    exact Problem.closed_of_rows problem _ (closed_problemAt session index problem closed found)
      (fun _ present => present) rfl

theorem closed_assignNumbers (index : Nat) (closed : session.Closed) :
    (session.assignNumbers index).1.Closed := by
  unfold assignNumbers
  split
  · exact closed
  next problem found =>
    have numbered := closed_setProblem session index _ closed
      (problem.closed_assignNumbers (closed_problemAt session index problem closed found))
    dsimp only
    split <;> exact numbered

theorem closed_ensure (index : Nat) (kind : EntityKind) (name : Value) (indices : List Value)
    (closed : session.Closed) : (session.ensure index kind name indices).1.Closed := by
  unfold ensure
  split
  · exact closed
  next problem found =>
    split
    · exact closed
    next key _ =>
      have good := closed_problemAt session index problem closed found
      refine closed_store session index _ kind _ closed ?_
      intro ensured same
      cases same
      split
      · exact problem.closed_ensureRow key good
      · exact problem.closed_ensureColumn key good

theorem closed_changeColumn (ref : EntityRef) (member : String) (change : Column → Column)
    (closed : session.Closed) : (session.changeColumn ref member change).1.Closed := by
  unfold changeColumn
  split
  · exact closed_change session _ _ _ _ closed fun problem good =>
      problem.closed_changeColumn _ change good
  · exact closed

theorem closed_objective (index : Nat) (name direction : Value) (closed : session.Closed) :
    (session.objective index name direction).1.Closed := by
  unfold objective
  split
  · split
    · exact closed
    · split <;> exact closed
  · exact closed_creation session index _ _ _ closed fun problem created good creates =>
      problem.closed_createObjective name direction created good creates

theorem closed_setDirection (ref : EntityRef) (direction : Value) (closed : session.Closed) :
    (session.setDirection ref direction).1.Closed := by
  unfold setDirection
  split
  · exact closed_change session _ _ _ _ closed fun problem good =>
      problem.closed_changeRow _ _ good fun _ _ _ cell => Or.inl cell
  · exact closed

theorem closed_assign (ref : EntityRef) (field : Field) (value : Value) (closed : session.Closed) :
    (session.assign ref field value).1.Closed := by
  unfold assign
  dsimp only
  split
  · exact closed_changeColumn session ref _ _ closed
  · refine closed_change session _ _ _ _ closed fun problem good => ?_
    cases field with
    | type => exact problem.closed_changeRow _ _ good fun _ _ _ cell => Or.inl cell
    | _ => exact problem.closed_changeAttributes _ _ _ good

theorem closed_setBounds (ref : EntityRef) (lower upper : Value) (closed : session.Closed) :
    (session.setBounds ref lower upper).1.Closed := by
  unfold setBounds
  split
  · exact closed
  next problem found =>
    have bounded := closed_setProblem session ref.problem _ closed
      (problem.closed_setBounds ref.kind ref.key lower upper
        (closed_problemAt session _ problem closed found))
    dsimp only
    split <;> exact bounded

theorem closed_solve (solver problem : Nat) (engine : Engine) (closed : session.Closed) :
    (session.solve solver problem engine).1.Closed := by
  unfold solve
  split
  next given model _ found =>
    exact closed_setProblem session problem _ closed
      (model.closed_solve given engine (closed_problemAt session problem model closed found))
  · exact closed
  · exact closed

def namedCounterpart (problem : Problem) (ref : EntityRef) (target : Value) (indices : List Value) :
    Except Fault (EntityRef × Problem) :=
  (Key.ofValues target indices).map fun key =>
    if ref.kind.isRow then (⟨ref.problem, .column, .text key⟩, problem.ensureColumn key)
    else (⟨ref.problem, .row, .text key⟩, problem.ensureRow key)

theorem counterpart_eq (problem : Problem) (ref : EntityRef) (target : Value) (indices : List Value) :
    counterpart problem ref target indices =
      match target.handle with
      | some other =>
          if other.kind.isRow != ref.kind.isRow then .ok (other, problem)
          else namedCounterpart problem ref target indices
      | none => namedCounterpart problem ref target indices := by
  have named : (do
      let key ← Key.ofValues target indices
      if ref.kind.isRow then pure (⟨ref.problem, .column, .text key⟩, problem.ensureColumn key)
      else pure (⟨ref.problem, .row, .text key⟩, problem.ensureRow key) :
        Except Fault (EntityRef × Problem)) = namedCounterpart problem ref target indices := by
    unfold namedCounterpart
    cases Key.ofValues target indices with
    | error fault => rfl
    | ok key => cases isRow : ref.kind.isRow <;> rfl
  simp only [← named]
  cases target <;> rfl

-- The other side of a coefficient is an entity of the opposite kind, or what is found or made under a
-- name in the same problem.
theorem counterpart_cases (problem named : Problem) (ref other : EntityRef) (target : Value)
    (indices : List Value) (found : counterpart problem ref target indices = .ok (other, named)) :
    (target.handle = some other ∧ other.kind.isRow ≠ ref.kind.isRow ∧ named = problem) ∨
    (∃ key, Key.ofValues target indices = .ok key ∧ ref.kind.isRow = true ∧
      other = ⟨ref.problem, .column, .text key⟩ ∧ named = problem.ensureColumn key) ∨
    (∃ key, Key.ofValues target indices = .ok key ∧ ref.kind.isRow = false ∧
      other = ⟨ref.problem, .row, .text key⟩ ∧ named = problem.ensureRow key) := by
  have byName : namedCounterpart problem ref target indices = .ok (other, named) →
      (∃ key, Key.ofValues target indices = .ok key ∧ ref.kind.isRow = true ∧
        other = ⟨ref.problem, .column, .text key⟩ ∧ named = problem.ensureColumn key) ∨
      (∃ key, Key.ofValues target indices = .ok key ∧ ref.kind.isRow = false ∧
        other = ⟨ref.problem, .row, .text key⟩ ∧ named = problem.ensureRow key) := by
    intro looked
    unfold namedCounterpart at looked
    cases composed : Key.ofValues target indices with
    | error fault => simp [composed, Except.map] at looked
    | ok key =>
        cases isRow : ref.kind.isRow with
        | true => simp_all [Except.map]
        | false => simp_all [Except.map]
  rw [counterpart_eq] at found
  cases held : target.handle with
  | none => exact Or.inr (byName (by simpa [held] using found))
  | some entity =>
      simp only [held] at found
      split at found
      next opposite =>
        simp only [Except.ok.injEq, Prod.mk.injEq] at found
        obtain ⟨rfl, rfl⟩ := found
        exact Or.inl ⟨rfl, by simpa using opposite, rfl⟩
      next => exact Or.inr (byName found)

-- A referenced column is registered under its text.
theorem column_registered (ref : EntityRef) (problem : Problem) (isIn : ref.IsIn session)
    (isColumn : ref.kind.isRow = false) (found : session.problems[ref.problem]? = some problem) :
    problem.columns.contains ref.key.display = true := by
  obtain ⟨owner, view, at_, shown, _⟩ := isIn
  rw [found] at at_
  cases at_
  obtain ⟨index, kind, key⟩ := ref
  cases kind with
  | column =>
      cases key with
      | text key =>
          simp only [Problem.view?, Option.map_eq_some_iff] at shown
          obtain ⟨column, there, _⟩ := shown
          exact Catalog.contains_of_get? _ key column there
      | _ => simp [Problem.view?] at shown
  | _ => simp [EntityKind.isRow] at isColumn

-- The column of a new coefficient is registered, whichever side the write comes from.
theorem counterpart_registered (problem named : Problem) (ref other : EntityRef) (target : Value)
    (indices : List Value) (at_ : session.problems[ref.problem]? = some problem)
    (isIn : ref.IsIn session)
    (targetIsIn : ∀ entity, target.handle = some entity → entity.IsIn session)
    (found : counterpart problem ref target indices = .ok (other, named))
    (sameProblem : other.problem = ref.problem) :
    named.columns.contains (if ref.kind.isRow then other else ref).key.display = true := by
  rcases counterpart_cases problem named ref other target indices found with
    ⟨held, opposite, rfl⟩ | ⟨key, _, isRow, rfl, rfl⟩ | ⟨key, _, isColumn, rfl, rfl⟩
  · cases isRow : ref.kind.isRow with
    | true =>
        have isColumn : other.kind.isRow = false := by simpa [isRow] using opposite
        exact column_registered session other named (targetIsIn other held) isColumn
          (sameProblem ▸ at_)
    | false => exact column_registered session ref named isIn isRow at_
  · simp [isRow, Problem.contains_ensureColumn, Value.display]
  · have registered := column_registered session ref problem isIn isColumn at_
    unfold Problem.ensureRow
    split <;> simpa [isColumn, Problem.addRow] using registered

theorem closed_add (ref : EntityRef) (coefficient target : Value) (indices : List Value)
    (closed : session.Closed) (isIn : ref.IsIn session)
    (targetIsIn : ∀ other, target.handle = some other → other.IsIn session) :
    (session.add ref coefficient target indices).1.Closed := by
  unfold add
  cases at_ : session.problemAt ref.problem with
  | error fault => exact closed
  | ok problem =>
      have good := closed_problemAt session ref.problem problem closed at_
      rw [problemAt_ok] at at_
      cases found : counterpart problem ref target indices with
      | error fault => simpa [found, bind, Except.bind, fail] using closed
      | ok pair =>
          obtain ⟨other, named⟩ := pair
          have goodNamed : named.Closed := by
            rcases counterpart_cases problem named ref other target indices found with
              ⟨_, _, rfl⟩ | ⟨key, _, _, _, rfl⟩ | ⟨key, _, _, _, rfl⟩
            · exact good
            · exact problem.closed_ensureColumn key good
            · exact problem.closed_ensureRow key good
          have stored := closed_setProblem session ref.problem named closed goodNamed
          simp only [found, bind, Except.bind]
          split
          · exact stored
          next sameProblem =>
            have same : other.problem = ref.problem := by simpa using sameProblem
            have registered := counterpart_registered session problem named ref other target indices
              at_ isIn targetIsIn found same
            split
            · exact stored
            next x _ =>
              refine closed_setProblem _ _ _ stored ?_
              cases isRow : ref.kind.isRow with
              | true => exact named.closed_setCoefficient _ _ x goodNamed (by simpa [isRow] using registered)
              | false => exact named.closed_setCoefficient _ _ x goodNamed (by simpa [isRow] using registered)

theorem problems_tune (index : Nat) (tuning : Settings → Tuned) :
    (session.tune index tuning).1.problems = session.problems := by
  unfold tune
  split <;> rfl

theorem problems_addSolver (config : Except Fault SolverConfig) :
    (session.addSolver config).1.problems = session.problems := by
  unfold addSolver
  split
  · rfl
  · dsimp only
    split <;> rfl

theorem problems_setListening (index : Nat) (listens : Bool) :
    (session.setListening index listens).1.problems = session.problems := by
  unfold setListening
  split <;> rfl

theorem problems_configure (index : Nat) (config : Except Fault SolverConfig) :
    (session.configure index config).1.problems = session.problems := by
  unfold configure
  split
  · exact problems_tune session index _
  · rfl
  · rfl

theorem closed_of_problems (other : Session) (closed : session.Closed)
    (same : other.problems = session.problems) : other.Closed := by
  intro problem member
  exact closed problem (same ▸ member)

/-- Every step keeps the problems closed, also a step that fails. -/
theorem closed_step (step : Step) (closed : session.Closed) (sound : step.IsSound session) :
    (session.step step).1.Closed := by
  cases step with
  | problem name =>
      intro other member
      rcases List.mem_append.mp member with kept | new
      · exact closed other kept
      · exact List.mem_singleton.mp new ▸ Problem.closed_empty name
  | setName index name => exact closed_setName session index name closed
  | column index name indices => exact closed_ensure session index .column name indices closed
  | row index name indices => exact closed_ensure session index .row name indices closed
  | objective index name direction => exact closed_objective session index name direction closed
  | newColumn index key =>
      exact closed_creation session index _ _ _ closed fun problem created good creates =>
        problem.closed_createColumn key created good creates
  | newRow index key =>
      exact closed_creation session index _ _ _ closed fun problem created good creates =>
        problem.closed_createRow key none created good creates
  | newObjective index key direction =>
      exact closed_creation session index _ _ _ closed fun problem created good creates =>
        problem.closed_createRow key (some direction) created good creates
  | setType handle type =>
      exact closed_on session handle _ _ closed fun ref _ =>
        closed_changeColumn session ref _ _ closed
  | setBounds handle lower upper =>
      exact closed_on session handle _ _ closed fun ref _ =>
        closed_setBounds session ref lower upper closed
  | add handle coefficient target indices =>
      refine closed_on session handle _ _ closed fun ref held => ?_
      exact closed_add session ref coefficient target indices closed
        (sound ref (by simp [Step.handles, held]))
        fun other holds => sound other (by simp [Step.handles, holds])
  | setDirection handle direction =>
      exact closed_on session handle _ _ closed fun ref _ =>
        closed_setDirection session ref direction closed
  | assign handle field value =>
      exact closed_on session handle _ _ closed fun ref _ =>
        closed_assign session ref field value closed
  | assignNumbers index => exact closed_assignNumbers session index closed
  | solve solver problem engine => exact closed_solve session solver problem engine closed
  | solverFromConfig config =>
      exact closed_of_problems session _ closed (problems_addSolver session _)
  | configure index config =>
      exact closed_of_problems session _ closed (problems_configure session index _)
  | setPresolve index value | setGap index value | setTimeLimit index value =>
      exact closed_of_problems session _ closed (problems_tune session index _)
  | setCallback index listens =>
      exact closed_of_problems session _ closed (problems_setListening session index listens)
  | get handle => cases handle <;> exact closed
  | columnText handle | rowText handle | engineBounds handle =>
      exact closed_on session handle _ _ closed fun _ _ => closed
  | _ => exact closed

/-- Every reachable session has closed problems only. -/
theorem Reachable.closed {session : Session} (reachable : session.Reachable) : session.Closed := by
  induction reachable with
  | start =>
      intro problem member
      cases member
  | step session step _ sound ih => exact closed_step session step ih sound

end Session

theorem Problem.Reachable.closed {problem : Problem} (reachable : problem.Reachable) :
    problem.Closed := by
  obtain ⟨session, reached, member⟩ := reachable
  exact reached.closed problem member

theorem ok_of_isOk {α : Type} (outcome : Except Fault α) (succeeds : outcome.isOk = true) :
    ∃ result, outcome = .ok result := by
  cases outcome with
  | error fault => cases succeeds
  | ok result => exact ⟨result, rfl⟩

theorem ok_of_toOption {α : Type} (outcome : Except Fault α) (result : α)
    (succeeds : outcome.toOption = some result) : outcome = .ok result := by
  cases outcome with
  | error fault => cases succeeds
  | ok found => exact congrArg Except.ok (Option.some.inj succeeds)

/-- What a program builds at a place is reachable. -/
theorem Problem.reachable_of_run (steps : List Step) (index : Nat) (sound : Session.SoundRun {} steps)
    (isThere : ((Session.run {} steps).1.problems[index]?).isSome = true) :
    Problem.Reachable (((Session.run {} steps).1.problems[index]?).getD {}) := by
  obtain ⟨problem, found⟩ := Option.isSome_iff_exists.mp isThere
  refine ⟨_, Session.Reachable.run {} steps .start sound, ?_⟩
  rw [found]
  exact List.mem_of_getElem? found

section Examples

/-- A program that builds a problem with a column in no row, a binary column without bounds, a row
without bounds and an objective whose key stands between those of the rows. -/
def blendSteps : List Step :=
  let column (key : String) : Handle := some ⟨0, .column, .text key⟩
  let row (key : String) : Handle := some ⟨0, .row, .text key⟩
  let objective : Handle := some ⟨0, .objective, .text "cost"⟩
  [.problem (.text "blend"), .row 0 (.text "stock") [], .row 0 (.text "capacity") [],
    .objective 0 (.text "cost") (.direction .minimize),
    .add (row "capacity") (.int 1) (.text "oil") [], .add (row "stock") (.int 2) (.text "oil") [],
    .add objective (.int 3) (.text "oil") [], .add (row "capacity") (.int 10) (.text "plant") [],
    .add objective (.int 20) (.text "plant") [], .column 0 (.text "spare") [],
    .setType (column "oil") (.columnType .float), .setBounds (column "oil") (.int 0) (.int 40),
    .setType (column "plant") (.columnType .binary), .setType (column "spare") (.columnType .integer),
    .setBounds (row "capacity") .null (.int 50)]

def blend : Problem := ((Session.run {} blendSteps).1.problems[0]?).getD {}

theorem blend_reachable : blend.Reachable :=
  Problem.reachable_of_run blendSteps 0 (by decide +kernel) (by decide +kernel)

theorem blend_titled : ∃ title, blend.title = .ok title := ok_of_isOk _ (by decide +kernel)

def oddSteps (name type : Value) : List Step :=
  [.problem (.text "aside"), .objective 0 (.int 5) (.direction .minimize), .problem name,
    .column 1 (.text "x") [], .setType (some ⟨1, .column, .text "x"⟩) type]

def odd (name type : Value) : Problem := ((Session.run {} (oddSteps name type)).1.problems[1]?).getD {}

def plainAnswers : Engine := Script.engine {}

end Examples

end LinearProgram
