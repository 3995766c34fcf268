import LinearProgram.Proofs.Edits

/-!
What a step does. Each problem of a session goes through edits, and then gets at most one coefficient: the
one that a successful step wrote. A run is its steps one after another.
-/

namespace LinearProgram

namespace EntityRef

/-- The other side of a coefficient that is added to an entity: an entity of the opposite kind as it is,
anything else by the key that it makes in the same problem. -/
def opposite (ref : EntityRef) (target : Value) (indices : List Value) : Except Fault EntityRef :=
  let named := (Key.ofValues target indices).map fun key =>
    (⟨ref.problem, if ref.kind.isRow then .column else .row, .text key⟩ : EntityRef)
  match target.handle with
  | some other => if other.kind.isRow != ref.kind.isRow then .ok other else named
  | none => named

end EntityRef

structure CellWrite where
  row : EntityRef
  column : EntityRef
  x : Binary64

namespace CellWrite

def between (ref other : EntityRef) (x : Binary64) : CellWrite :=
  if ref.kind.isRow then ⟨ref, other, x⟩ else ⟨other, ref, x⟩

def isFor (write : CellWrite) (row column : EntityRef) : Bool :=
  write.row.same row && write.column.same column

end CellWrite

namespace Step

def addition? : Step → Option CellWrite
  | .add (some ref) amount target indices =>
      match ref.opposite target indices, amount.toBinary64 with
      | .ok other, .ok x => some (.between ref other x)
      | _, _ => none
  | _ => none

def declared? : Step → Option EntityRef
  | .setType on _ | .setBounds on _ _ | .setDirection on _ => on
  | .assign on field _ =>
      match field with
      | .lower | .upper | .type => on
      | .value | .dual | .number => none
  | _ => none

/-- Whether a step may bring problems, entities or objectives. -/
def Builds : Step → Prop
  | .problem .. | .column .. | .row .. | .objective .. | .newColumn .. | .newRow .. | .newObjective .. | .add .. => True
  | _ => False

def Names : Step → Value → Prop
  | .problem given | .setName _ given | .objective _ given _ => fun name => name = given
  | _ => fun _ => False

def Declares (step : Step) (ref : EntityRef) : Prop :=
  ∃ target, step.declared? = some target ∧ ref.same target = true

end Step

namespace Session

def cellWrite? (session : Session) (step : Step) : Option CellWrite :=
  if (session.step step).2.answer.isOk then step.addition? else none

def cellWrites : Session → List Step → List CellWrite
  | _, [] => []
  | session, first :: rest =>
      (session.cellWrite? first).toList ++ cellWrites (session.step first).1 rest

end Session

namespace Problem

def withWrite (problem : Problem) (index : Nat) : Option CellWrite → Problem
  | some write =>
      if write.row.problem = index then
        problem.setCoefficient write.row.key write.column.key.display write.x
      else problem
  | none => problem

def Has (problem : Problem) (kind : EntityKind) (key : Value) : Prop :=
  (problem.view? kind key).isSome = true

structure Joins (problem : Problem) (index : Nat) (write : CellWrite) : Prop where
  here : write.row.problem = index ∧ write.column.problem = index
  sides : write.row.kind.isRow = true ∧ write.column.kind.isRow = false
  row : problem.Has write.row.kind write.row.key
  column : problem.Has write.column.kind write.column.key

end Problem

section References

theorem EntityRef.same_eq (ref other : EntityRef) :
    ref.same other =
      (ref.problem == other.problem && Problem.sameEntity ref.kind other.kind ref.key other.key) := by
  simp [EntityRef.same, EntityRef.value, Value.equals, Problem.sameEntity, Bool.and_assoc]

-- What declares everything that is the same entity covers the entity.
theorem covers_of_same (declares : EntityRef → Prop) (ref : EntityRef)
    (all : ∀ other, other.same ref = true → declares other) :
    Covers (fun kind key => declares ⟨ref.problem, kind, key⟩) ref.kind ref.key := by
  intro kind key same
  refine all _ ?_
  rw [EntityRef.same_eq]
  simpa using same

end References

namespace Problem

variable {builds : Prop} {names : Value → Prop} {declares : EntityKind → Value → Prop} (problem : Problem)

theorem edits_ensureColumn (key : String) (building : builds) : Edits builds names declares problem (problem.ensureColumn key) := by
  unfold ensureColumn
  split
  · exact .refl
  next fresh => exact .single (.column problem key building fresh)

theorem edits_ensureRow (key : String) (building : builds) : Edits builds names declares problem (problem.ensureRow key) := by
  unfold ensureRow
  split
  · exact .refl
  next fresh => exact .single (.row problem key none building fresh)

theorem edits_createColumn (key : String) (created : Problem) (building : builds)
    (creates : problem.createColumn key = .ok created) : Edits builds names declares problem created := by
  obtain ⟨fresh, rfl⟩ := problem.createColumn_ok key created creates
  exact .single (.column problem key building fresh)

theorem edits_createRow (key : String) (direction : Option Value) (created : Problem) (building : builds)
    (creates : problem.createRow key direction = .ok created) : Edits builds names declares problem created := by
  obtain ⟨fresh, rfl⟩ := problem.createRow_ok key direction created creates
  exact .single (.row problem key direction building fresh)

theorem edits_createObjective (name direction : Value) (created : Problem) (building : builds)
    (named : names name) (notNull : name ≠ .null) (creates : problem.createObjective name direction = .ok created) :
    Edits builds names declares problem created := by
  obtain ⟨unaimed, ⟨key, rfl, fresh, rfl⟩ | ⟨notText, rfl⟩⟩ :=
    problem.createObjective_ok name direction created creates
  · refine .tail (.single (.row problem key (some direction) building fresh)) ?_
    exact .aim _ key { direction := some direction } building unaimed (Catalog.get?_insert_self _ _ _) rfl
  · exact .single (.aside problem name direction building unaimed named notNull notText)

-- A change of attributes is an edit if it may declare the entity, or declares nothing.
theorem edits_changeAttributes (kind : EntityKind) (key : Value) (change : Attributes → Attributes)
    (allowed : Covers declares kind key ∨ ∀ attributes, (change attributes).declared = attributes.declared) :
    Edits builds names declares problem (problem.changeAttributes kind key change) := by
  cases isRow : kind.isRow with
  | true =>
      rw [changeAttributes_row problem kind isRow]
      refine .single (.changeRow problem key _ (fun _ => rfl) (fun _ _ => rfl) ?_)
      refine allowed.imp (fun covered other otherKey same => ?_) fun kept row => ?_
      · refine covered other otherKey ?_
        rw [sameEntity, isRow]
        exact same
      · exact congrArg (fun attributes => ({ row with toAttributes := attributes, cells := .empty } : Row))
          (kept row.toAttributes)
  | false =>
      cases kind.eq_column isRow
      cases key with
      | text key =>
          refine .single (.changeColumn problem key _ ?_)
          refine allowed.imp (fun covered => covered) fun kept column => ?_
          exact congrArg (fun attributes => ({ column with toAttributes := attributes } : Column))
            (kept column.toAttributes)
      | _ => exact .refl

theorem edits_setBounds (kind : EntityKind) (key lower upper : Value)
    (covered : Covers declares kind key) :
    Edits builds names declares problem (problem.setBounds kind key lower upper).1 := by
  unfold setBounds
  split
  · exact .refl
  next attributes _ =>
    exact edits_changeAttributes problem kind key (fun _ => (attributes.setBounds lower upper).1)
      (Or.inl covered)

theorem edits_storeResults (journey : Journey) :
    Edits builds names declares problem (journey.storeResults problem) := by
  unfold Journey.storeResults
  induction journey.passed generalizing problem with
  | nil => exact .refl
  | cons event rest ih =>
      refine Relation.ReflTransGen.trans ?_ (ih _)
      dsimp only
      split
      next kind key result x =>
        refine edits_changeAttributes problem kind key _ (Or.inr fun attributes => ?_)
        cases result <;> rfl
      next => exact .refl

-- However a solve ends, it has numbered the problem and stored some results.
theorem edits_solve (solver : Solver) (engine : Engine) :
    Edits builds names declares problem (solver.solve problem engine).problem := by
  have numbered : Edits builds names declares problem problem.assignNumbers := .single (.number problem)
  unfold Solver.solve
  dsimp only
  split
  · exact numbered
  · exact numbered
  · exact numbered.trans (edits_storeResults _ _)

theorem has_row_iff (kind : EntityKind) (isRow : kind.isRow = true) (key : Value) :
    problem.Has kind key ↔ ∃ row, problem.row? key = some row := by
  unfold Has view?
  cases kind with
  | column => cases isRow
  | row | objective => rw [Option.isSome_map, Option.isSome_iff_exists]

theorem has_column_iff (kind : EntityKind) (isColumn : kind.isRow = false) (key : Value) :
    problem.Has kind key ↔ ∃ name column, key = .text name ∧ problem.columns.get? name = some column := by
  cases kind.eq_column isColumn
  unfold Has view?
  cases key with
  | text name => simp [Option.isSome_iff_exists]
  | _ => simp

theorem Has.keeps {before after : Problem} {kind : EntityKind} {key : Value} (has : before.Has kind key)
    (keeps : before.Keeps declares after) : after.Has kind key := by
  obtain ⟨view, shown⟩ := Option.isSome_iff_exists.mp has
  obtain ⟨kept, there, _⟩ := keeps.view kind key view shown
  exact Option.isSome_iff_exists.mpr ⟨kept, there⟩

theorem keeps_withWrite (index : Nat) (write : Option CellWrite) :
    problem.Keeps declares (problem.withWrite index write) := by
  unfold withWrite
  split
  · split
    · exact problem.keeps_changeRow _ _ (fun _ _ => rfl) (Or.inr fun _ => rfl)
    · exact problem.keeps_refl
  · exact problem.keeps_refl

theorem has_ensureColumn (key : String) : (problem.ensureColumn key).Has .column (.text key) := by
  have registered := problem.contains_ensureColumn key key
  obtain ⟨column, there⟩ := Option.isSome_iff_exists.mp (registered.trans (by simp))
  exact (has_column_iff _ .column rfl _).mpr ⟨key, column, rfl, there⟩

theorem has_ensureRow (key : String) : (problem.ensureRow key).Has .row (.text key) := by
  refine (has_row_iff _ .row rfl _).mpr ?_
  unfold ensureRow
  split
  next present => exact Option.isSome_iff_exists.mp present
  next => exact ⟨{}, by rw [row?_addRow, Value.sameKey_self, if_pos rfl]⟩

end Problem

/-- A session after a step that declares entities and may write a coefficient. -/
structure Session.Moved (builds : Prop) (names : Value → Prop) (declares : EntityRef → Prop) (write : Option CellWrite)
    (before after : Session) : Prop where
  within : ∀ cell, write = some cell → ∃ problem, before.problems[cell.row.problem]? = some problem
  edits : ∀ (index : Nat) (problem : Problem), before.problems[index]? = some problem →
    ∃ edited : Problem, Edits builds names (fun kind key => declares ⟨index, kind, key⟩) problem edited ∧
      (∀ cell, write = some cell → cell.row.problem = index → edited.Joins index cell) ∧
      after.problems[index]? = some (edited.withWrite index write)
  fresh : ∀ (index : Nat) (problem : Problem), before.problems[index]? = none →
    after.problems[index]? = some problem → builds ∧ ∃ name : Value, names name ∧ problem = { name }

namespace Session

section Moving

variable {builds : Prop} {names : Value → Prop} {declares : EntityRef → Prop} (session : Session)

-- Without a coefficient only edits matter.
theorem moved_of_edits (after : Session)
    (edits : ∀ (index : Nat) (problem : Problem), session.problems[index]? = some problem →
      ∃ edited : Problem, Edits builds names (fun kind key => declares ⟨index, kind, key⟩) problem edited ∧
        after.problems[index]? = some edited)
    (fresh : ∀ (index : Nat) (problem : Problem), session.problems[index]? = none →
      after.problems[index]? = some problem → builds ∧ ∃ name : Value, names name ∧ problem = { name }) :
    Moved builds names declares none session after := by
  refine ⟨fun cell written => (by cases written), fun index problem found => ?_, fresh⟩
  obtain ⟨edited, edits, there⟩ := edits index problem found
  exact ⟨edited, edits, fun cell written => (by cases written), there⟩

theorem moved_of_problems (after : Session) (same : after.problems = session.problems) :
    Moved builds names declares none session after := by
  refine moved_of_edits session after (fun index problem found => ⟨problem, .refl, by rw [same, found]⟩)
    fun index problem missing found => ?_
  rw [same, missing] at found
  cases found

theorem getElem?_setProblem (index other : Nat) (before after : Problem)
    (found : session.problems[index]? = some before) :
    (session.setProblem index after).problems[other]? =
      if other = index then some after else session.problems[other]? := by
  have inside : index < session.problems.length := (List.getElem?_eq_some_iff.mp found).1
  simp only [setProblem, List.getElem?_set]
  by_cases same : other = index
  · subst same
    simp [inside]
  · simp [same, Ne.symm same]

theorem moved_setProblem (index : Nat) (before after : Problem)
    (found : session.problems[index]? = some before)
    (edits : Edits builds names (fun kind key => declares ⟨index, kind, key⟩) before after) :
    Moved builds names declares none session (session.setProblem index after) := by
  refine moved_of_edits session _ (fun other problem there => ?_) fun other problem missing there => ?_
  · rw [session.getElem?_setProblem index other before after found]
    by_cases same : other = index
    · subst same
      rw [found] at there
      cases there
      exact ⟨after, edits, if_pos rfl⟩
    · exact ⟨problem, .refl, by rw [if_neg same, there]⟩
  · rw [session.getElem?_setProblem index other before after found] at there
    split at there
    next same =>
      rw [same, found] at missing
      cases missing
    next =>
      rw [missing] at there
      cases there

-- A problem that is changed and shown.
theorem moved_store (index : Nat) (changed : Except Fault Problem) (kind : EntityKind) (key : Value)
    (edits : ∀ after, changed = .ok after → ∃ before, session.problems[index]? = some before ∧
      Edits builds names (fun kind key => declares ⟨index, kind, key⟩) before after) :
    Moved builds names declares none session (session.store index changed kind key).1 := by
  cases changed with
  | error fault => exact moved_of_problems session session rfl
  | ok after =>
      obtain ⟨before, found, edited⟩ := edits after rfl
      exact moved_setProblem session index before after found edited

theorem moved_change (index : Nat) (change : Problem → Problem) (kind : EntityKind) (key : Value)
    (edits : ∀ problem, session.problems[index]? = some problem →
      Edits builds names (fun kind key => declares ⟨index, kind, key⟩) problem (change problem)) :
    Moved builds names declares none session
      (session.store index ((session.problemAt index).map change) kind key).1 := by
  refine moved_store session index _ kind key fun after same => ?_
  obtain ⟨problem, found, rfl⟩ := map_ok same
  have there := (problemAt_ok session index problem).mp found
  exact ⟨problem, there, edits problem there⟩

theorem moved_creation (index : Nat) (create : Problem → Except Fault Problem) (kind : EntityKind)
    (key : Value)
    (edits : ∀ problem created : Problem, create problem = .ok created →
      Edits builds names (fun kind key => declares ⟨index, kind, key⟩) problem created) :
    Moved builds names declares none session
      (session.store index (session.problemAt index >>= create) kind key).1 := by
  refine moved_store session index _ kind key fun created same => ?_
  obtain ⟨problem, found, creates⟩ := bind_ok same
  exact ⟨problem, (problemAt_ok session index problem).mp found, edits problem created creates⟩

theorem moved_on (handle : Handle) (member : String) (act : EntityRef → Session × Reply)
    (good : ∀ ref, handle = some ref → Moved builds names declares none session (act ref).1) :
    Moved builds names declares none session (session.on handle member act).1 := by
  cases handle with
  | none => exact moved_of_problems session session rfl
  | some ref => exact good ref rfl

theorem moved_setName (index : Nat) (name : Value) (named : names name) :
    Moved builds names declares none session (session.setName index name).1 := by
  unfold setName
  split
  · exact moved_of_problems session session rfl
  next problem found =>
    exact moved_setProblem session index problem _ ((problemAt_ok session index problem).mp found)
      (.single (.rename problem name named))

theorem moved_assignNumbers (index : Nat) :
    Moved builds names declares none session (session.assignNumbers index).1 := by
  unfold assignNumbers
  split
  · exact moved_of_problems session session rfl
  next problem found =>
    have numbered : Moved builds names declares none session (session.setProblem index problem.assignNumbers) :=
      moved_setProblem session index problem _ ((problemAt_ok session index problem).mp found)
        (.single (.number problem))
    dsimp only
    split <;> exact numbered

theorem moved_ensure (index : Nat) (kind : EntityKind) (name : Value) (indices : List Value)
    (building : builds) : Moved builds names declares none session (session.ensure index kind name indices).1 := by
  unfold ensure
  split
  · exact moved_of_problems session session rfl
  next problem found =>
    split
    · exact moved_of_problems session session rfl
    next key _ =>
      refine moved_store session index _ kind _ fun after same => ?_
      cases same
      refine ⟨problem, (problemAt_ok session index problem).mp found, ?_⟩
      split
      · exact problem.edits_ensureRow key building
      · exact problem.edits_ensureColumn key building

theorem moved_objective (index : Nat) (name direction : Value) (building : builds) (named : names name) :
    Moved builds names declares none session (session.objective index name direction).1 := by
  unfold objective
  split
  · split
    · exact moved_of_problems session session rfl
    · split <;> exact moved_of_problems session _ rfl
  next notNull =>
    exact moved_creation session index _ _ _ fun problem created creates =>
      problem.edits_createObjective name direction created building named notNull creates

theorem moved_changeColumn (ref : EntityRef) (member : String) (change : Column → Column)
    (covered : ∀ other, other.same ref = true → declares other) :
    Moved builds names declares none session (session.changeColumn ref member change).1 := by
  have covers := covers_of_same declares ref covered
  unfold changeColumn
  split
  next key isColumn isText =>
    rw [isColumn, isText] at covers
    exact moved_change session _ _ _ _ fun problem _ =>
      .single (.changeColumn problem key change (Or.inl covers))
  · exact moved_of_problems session session rfl

theorem moved_setBounds (ref : EntityRef) (lower upper : Value)
    (covered : ∀ other, other.same ref = true → declares other) :
    Moved builds names declares none session (session.setBounds ref lower upper).1 := by
  unfold setBounds
  split
  · exact moved_of_problems session session rfl
  next problem found =>
    have bounded : Moved builds names declares none session (session.setProblem ref.problem
        (problem.setBounds ref.kind ref.key lower upper).1) :=
      moved_setProblem session ref.problem problem _ ((problemAt_ok session ref.problem problem).mp found)
        (problem.edits_setBounds ref.kind ref.key lower upper (covers_of_same declares ref covered))
    dsimp only
    split <;> exact bounded

-- A row that is referenced as an objective has a direction already, so it is one before and after.
theorem moved_setDirection (ref : EntityRef) (direction : Value) (isIn : ref.IsIn session)
    (covered : ∀ other, other.same ref = true → declares other) :
    Moved builds names declares none session (session.setDirection ref direction).1 := by
  have covers := covers_of_same declares ref covered
  unfold setDirection
  split
  next isObjective =>
    refine moved_change session _ _ _ _ fun problem found => ?_
    refine .single (.changeRow problem ref.key _ (fun _ => rfl) (fun row there => ?_) (Or.inl ?_))
    · obtain ⟨owner, view, at_, shown, same⟩ := isIn
      rw [found] at at_
      cases at_
      rw [isObjective, Problem.view?, there] at shown
      cases shown
      rw [isObjective] at same
      exact same.symm
    · rw [isObjective] at covers
      exact covers
  · exact moved_of_problems session session rfl

theorem moved_assign (ref : EntityRef) (field : Field) (value : Value)
    (covered : field ∈ [.lower, .upper, .type] → ∀ other, other.same ref = true → declares other) :
    Moved builds names declares none session (session.assign ref field value).1 := by
  unfold assign
  dsimp only
  split
  next isType =>
    refine moved_changeColumn session ref _ _ (covered ?_)
    have type : field = .type := by simpa using (Bool.and_eq_true_iff.mp isType).1
    simp [type]
  next notType =>
    refine moved_change session _ _ _ _ fun problem _ => ?_
    have covers := fun declared => covers_of_same declares ref (covered declared)
    cases field with
    | value | dual | number =>
        exact problem.edits_changeAttributes _ _ _ (Or.inr fun _ => rfl)
    | lower | upper => exact problem.edits_changeAttributes _ _ _ (Or.inl (covers (by simp)))
    | type =>
        have isRow : ref.kind.isRow = true := by simpa using notType
        refine .single (.changeRow problem ref.key _ (fun _ => rfl) (fun _ _ => rfl) (Or.inl ?_))
        intro other key same
        refine covers (by simp) other key ?_
        rw [Problem.sameEntity, isRow]
        exact same

theorem moved_solve (solver problem : Nat) (engine : Engine) :
    Moved builds names declares none session (session.solve solver problem engine).1 := by
  unfold solve
  split
  next given model _ found =>
    have solved : Moved builds names declares none session
        (session.setProblem problem (given.solve model engine).problem) :=
      moved_setProblem session problem model _ ((problemAt_ok session problem model).mp found)
        (model.edits_solve given engine)
    exact ⟨solved.within, solved.edits, solved.fresh⟩
  · exact moved_of_problems session session rfl
  · exact moved_of_problems session session rfl

end Moving

section Adding

variable {builds : Prop} {names : Value → Prop} {declares : EntityRef → Prop} (session : Session)

-- The other side of a coefficient does not depend on the problem.
theorem counterpart_opposite (problem : Problem) (ref : EntityRef) (target : Value)
    (indices : List Value) :
    (counterpart problem ref target indices).map (·.1) = ref.opposite target indices := by
  have named : (namedCounterpart problem ref target indices).map (·.1) =
      (Key.ofValues target indices).map fun key =>
        ⟨ref.problem, if ref.kind.isRow then .column else .row, .text key⟩ := by
    unfold namedCounterpart
    cases Key.ofValues target indices with
    | error fault => rfl
    | ok key => cases isRow : ref.kind.isRow <;> simp [Except.map]
  rw [counterpart_eq, EntityRef.opposite]
  cases target.handle with
  | none => exact named
  | some other =>
      dsimp only
      split
      · rfl
      · exact named

theorem has_of_isIn (ref : EntityRef) (problem : Problem) (isIn : ref.IsIn session)
    (found : session.problems[ref.problem]? = some problem) : problem.Has ref.kind ref.key := by
  obtain ⟨owner, view, at_, shown, _⟩ := isIn
  rw [found] at at_
  cases at_
  exact Option.isSome_iff_exists.mpr ⟨view, shown⟩

theorem edits_counterpart (problem named : Problem) (ref other : EntityRef) (target : Value)
    (indices : List Value) (found : counterpart problem ref target indices = .ok (other, named)) (building : builds) :
    Edits builds names (fun kind key => declares ⟨ref.problem, kind, key⟩) problem named := by
  rcases counterpart_cases problem named ref other target indices found with
    ⟨_, _, rfl⟩ | ⟨key, _, _, _, rfl⟩ | ⟨key, _, _, _, rfl⟩
  · exact .refl
  · exact problem.edits_ensureColumn key building
  · exact problem.edits_ensureRow key building

-- The other side of a coefficient is an entity of the opposite kind, also one that was looked up by a name.
theorem has_counterpart (problem named : Problem) (ref other : EntityRef) (target : Value)
    (indices : List Value) (at_ : session.problems[ref.problem]? = some problem)
    (targetIsIn : ∀ entity, target.handle = some entity → entity.IsIn session)
    (found : counterpart problem ref target indices = .ok (other, named))
    (sameProblem : other.problem = ref.problem) :
    other.kind.isRow ≠ ref.kind.isRow ∧ named.Has other.kind other.key := by
  rcases counterpart_cases problem named ref other target indices found with
    ⟨held, opposite, rfl⟩ | ⟨key, _, isRow, rfl, rfl⟩ | ⟨key, _, isColumn, rfl, rfl⟩
  · exact ⟨opposite, has_of_isIn session other named (targetIsIn other held) (sameProblem ▸ at_)⟩
  · exact ⟨by rw [isRow]; exact Bool.false_ne_true, problem.has_ensureColumn key⟩
  · exact ⟨by rw [isColumn]; exact Bool.true_eq_false.mp, problem.has_ensureRow key⟩

theorem joins_between (problem : Problem) (ref other : EntityRef) (x : Binary64)
    (sameProblem : other.problem = ref.problem) (opposite : other.kind.isRow ≠ ref.kind.isRow)
    (mine : problem.Has ref.kind ref.key) (theirs : problem.Has other.kind other.key) :
    problem.Joins ref.problem (.between ref other x) := by
  unfold CellWrite.between
  cases isRow : ref.kind.isRow with
  | true => exact ⟨⟨rfl, sameProblem⟩, ⟨isRow, by simpa [isRow] using opposite⟩, mine, theirs⟩
  | false => exact ⟨⟨sameProblem, rfl⟩, ⟨by simpa [isRow] using opposite, isRow⟩, theirs, mine⟩

theorem moved_write (write : CellWrite) (index : Nat) (before named : Problem)
    (found : session.problems[index]? = some before)
    (edits : Edits builds names (fun kind key => declares ⟨index, kind, key⟩) before named)
    (joins : named.Joins index write) :
    Moved builds names declares (some write) session ((session.setProblem index named).setProblem index
      (named.setCoefficient write.row.key write.column.key.display write.x)) := by
  have there := session.getElem?_setProblem index
  have written (other : Nat) := (session.setProblem index named).getElem?_setProblem index other named
    (named.setCoefficient write.row.key write.column.key.display write.x)
    ((there index before named found).trans (if_pos rfl))
  refine ⟨fun cell isCell => ?_, ?_, ?_⟩
  · cases isCell
    exact ⟨before, joins.here.1 ▸ found⟩
  · intro other problem isThere
    rw [written, there other before named found]
    by_cases same : other = index
    · subst same
      rw [found] at isThere
      cases isThere
      refine ⟨named, edits, fun cell isCell _ => ?_, ?_⟩
      · cases isCell
        exact joins
      · rw [if_pos rfl, Problem.withWrite, if_pos joins.here.1]
    · refine ⟨problem, .refl, fun cell isCell here => ?_, ?_⟩
      · cases isCell
        exact absurd (here.symm.trans joins.here.1) same
      · rw [if_neg same, if_neg same, isThere, Problem.withWrite, if_neg]
        exact fun here => same (here.symm.trans joins.here.1)
  · intro other problem missing isThere
    rw [written, there other before named found] at isThere
    by_cases same : other = index
    · rw [same, found] at missing
      cases missing
    · rw [if_neg same, if_neg same, missing] at isThere
      cases isThere

-- A coefficient is written by a successful addition only, on top of what naming the other side did.
theorem moved_add (ref : EntityRef) (amount target : Value) (indices : List Value)
    (isIn : ref.IsIn session)
    (targetIsIn : ∀ entity, target.handle = some entity → entity.IsIn session) (building : builds) :
    Moved builds names declares (session.cellWrite? (.add (some ref) amount target indices)) session
      (session.add ref amount target indices).1 := by
  have writes : session.cellWrite? (.add (some ref) amount target indices) =
      if (session.add ref amount target indices).2.answer.isOk then
        Step.addition? (.add (some ref) amount target indices) else none := rfl
  rw [writes]
  unfold add
  cases at_ : session.problemAt ref.problem with
  | error fault => exact moved_of_problems session session rfl
  | ok problem =>
      rw [problemAt_ok] at at_
      have opposite := counterpart_opposite problem ref target indices
      cases found : counterpart problem ref target indices with
      | error fault =>
          simp only [bind, Except.bind, found]
          exact moved_of_problems session session rfl
      | ok pair =>
          obtain ⟨other, named⟩ := pair
          rw [found] at opposite
          have edits : Edits builds names (fun kind key => declares ⟨ref.problem, kind, key⟩) problem named :=
            edits_counterpart problem named ref other target indices found building
          simp only [bind, Except.bind, found]
          split
          · exact moved_setProblem session ref.problem problem named at_ edits
          next sameProblem =>
            have same : other.problem = ref.problem := by simpa using sameProblem
            cases converts : amount.toBinary64 with
            | error fault => exact moved_setProblem session ref.problem problem named at_ edits
            | ok x =>
                obtain ⟨sides, theirs⟩ := has_counterpart session problem named ref other target indices
                  at_ targetIsIn found same
                have mine := (has_of_isIn session ref problem isIn at_).keeps edits.keeps
                have joins := joins_between named ref other x same sides mine theirs
                have written := moved_write session _ ref.problem problem named at_ edits joins
                have addition : Step.addition? (.add (some ref) amount target indices) =
                    some (.between ref other x) := by
                  simp only [Step.addition?, ← opposite, converts, Except.map]
                rw [addition]
                unfold CellWrite.between at written ⊢
                cases isRow : ref.kind.isRow with
                | true => simpa [isRow, answer, Except.isOk, Except.toBool] using written
                | false => simpa [isRow, answer, Except.isOk, Except.toBool] using written

end Adding

section Stepping

variable (session : Session)

theorem cellWrite?_of_silent (step : Step) (silent : step.addition? = none) :
    session.cellWrite? step = none := by
  unfold cellWrite?
  rw [silent, ite_self]

theorem moved_problem (builds : Prop) (names : Value → Prop) (declares : EntityRef → Prop) (name : Value)
    (building : builds) (named : names name) : Moved builds names declares none session (session.step (.problem name)).1 := by
  refine moved_of_edits session _ (fun index problem found => ⟨problem, .refl, ?_⟩)
    fun index problem missing found => ?_
  · have inside := (List.getElem?_eq_some_iff.mp found).1
    exact (List.getElem?_append_left inside).trans found
  · have outside := List.getElem?_eq_none_iff.mp missing
    refine ⟨building, name, named, ?_⟩
    rw [step, List.getElem?_append_right outside, List.getElem?_singleton] at found
    split at found
    · exact (Option.some.inj found).symm
    · cases found

-- All steps but additions leave the coefficients alone.
theorem moved_unless_add (step : Step) (sound : step.IsSound session)
    (otherwise : ∀ on amount target indices, step ≠ .add on amount target indices) :
    Moved step.Builds step.Names step.Declares none session (session.step step).1 := by
  cases step with
  | add on amount target indices => exact absurd rfl (otherwise on amount target indices)
  | problem name => exact moved_problem session _ _ _ name trivial rfl
  | setName index name => exact moved_setName session index name rfl
  | column index name indices => exact moved_ensure session index .column name indices trivial
  | row index name indices => exact moved_ensure session index .row name indices trivial
  | objective index name direction => exact moved_objective session index name direction trivial rfl
  | newColumn index key =>
      exact moved_creation session index _ _ _ fun problem created creates =>
        problem.edits_createColumn key created trivial creates
  | newRow index key =>
      exact moved_creation session index _ _ _ fun problem created creates =>
        problem.edits_createRow key none created trivial creates
  | newObjective index key direction =>
      exact moved_creation session index _ _ _ fun problem created creates =>
        problem.edits_createRow key (some direction) created trivial creates
  | setType on type =>
      exact moved_on session on _ _ fun ref held =>
        moved_changeColumn session ref _ _ fun other same => ⟨ref, held, same⟩
  | setBounds on lower upper =>
      exact moved_on session on _ _ fun ref held =>
        moved_setBounds session ref lower upper fun other same => ⟨ref, held, same⟩
  | setDirection on direction =>
      exact moved_on session on _ _ fun ref held =>
        moved_setDirection session ref direction (sound ref (by simp [Step.handles, held]))
          fun other same => ⟨ref, held, same⟩
  | assign on field value =>
      refine moved_on session on _ _ fun ref held =>
        moved_assign session ref field value fun declared other same => ⟨ref, ?_, same⟩
      cases field with
      | lower | upper | type => exact held
      | value | dual | number => simp at declared
  | assignNumbers index => exact moved_assignNumbers session index
  | solve solver problem engine => exact moved_solve session solver problem engine
  | solverFromConfig config => exact moved_of_problems session _ (problems_addSolver session _)
  | configure index config => exact moved_of_problems session _ (problems_configure session index _)
  | setPresolve index value | setGap index value | setTimeLimit index value =>
      exact moved_of_problems session _ (problems_tune session index _)
  | setCallback index listens =>
      exact moved_of_problems session _ (problems_setListening session index listens)
  | get on => cases on <;> exact moved_of_problems session _ rfl
  | columnText on | rowText on | engineBounds on =>
      exact moved_on session on _ _ fun ref _ => moved_of_problems session _ rfl
  | _ => exact moved_of_problems session _ rfl

/-- What every step does, one that fails included. -/
theorem step_moved (step : Step) (sound : step.IsSound session) :
    Moved step.Builds step.Names step.Declares (session.cellWrite? step) session (session.step step).1 := by
  cases step with
  | add on amount target indices =>
      cases on with
      | none => exact moved_of_problems session session rfl
      | some ref =>
          exact moved_add session ref amount target indices (sound ref (by simp [Step.handles]))
            (fun other holds => sound other (by simp [Step.handles, holds])) trivial
  | _ =>
      rw [session.cellWrite?_of_silent _ rfl]
      exact moved_unless_add session _ sound (by simp)

end Stepping

section Running

/-- What a later session has kept of an earlier one: every problem, as far as nothing declared its entities
anew. -/
def Keeps (declares : EntityRef → Prop) (before after : Session) : Prop :=
  ∀ (index : Nat) (problem : Problem), before.problems[index]? = some problem → ∃ kept : Problem,
    after.problems[index]? = some kept ∧
      problem.Keeps (fun kind key => declares ⟨index, kind, key⟩) kept

theorem Moved.keeps {builds : Prop} {names : Value → Prop} {declares : EntityRef → Prop} {write : Option CellWrite}
    {before after : Session} (moved : Moved builds names declares write before after) :
    before.Keeps declares after := by
  intro index problem found
  obtain ⟨edited, edits, _, there⟩ := moved.edits index problem found
  exact ⟨_, there, edits.keeps.trans (edited.keeps_withWrite index write)⟩

theorem Keeps.isIn {declares : EntityRef → Prop} {before after : Session}
    (keeps : before.Keeps declares after) (ref : EntityRef) (isIn : ref.IsIn before) : ref.IsIn after := by
  obtain ⟨problem, view, found, shown, same⟩ := isIn
  obtain ⟨kept, there, keepsOn⟩ := keeps ref.problem problem found
  obtain ⟨later, isShown, kind, _⟩ := keepsOn.view ref.kind ref.key view shown
  exact ⟨kept, later, there, isShown, kind.trans same⟩

variable (session : Session)

/-- Nothing is ever taken away, put in another's place or aimed elsewhere by a run. -/
theorem run_keeps (steps : List Step) (sound : session.SoundRun steps) :
    session.Keeps (fun ref => ∃ step ∈ steps, step.Declares ref) (session.run steps).1 := by
  induction steps generalizing session with
  | nil => exact fun index problem found => ⟨problem, found, problem.keeps_refl⟩
  | cons first rest ih =>
      intro index problem found
      obtain ⟨next, isNext, keeps⟩ := (session.step_moved first sound.1).keeps index problem found
      obtain ⟨last, isLast, keepsOn⟩ := ih (session.step first).1 sound.2 index next isNext
      refine ⟨last, isLast, (keeps.mono fun kind key declares => ?_).trans
        (keepsOn.mono fun kind key declares => ?_)⟩
      · exact ⟨first, List.mem_cons_self, declares⟩
      · obtain ⟨step, inside, byStep⟩ := declares
        exact ⟨step, List.mem_cons_of_mem _ inside, byStep⟩

theorem run_append (steps more : List Step) :
    (session.run (steps ++ more)).1 = ((session.run steps).1.run more).1 := by
  induction steps generalizing session with
  | nil => rfl
  | cons first rest ih => exact ih (session.step first).1

theorem soundRun_append (steps more : List Step) :
    session.SoundRun (steps ++ more) ↔
      session.SoundRun steps ∧ (session.run steps).1.SoundRun more := by
  induction steps generalizing session with
  | nil => simp [SoundRun, run]
  | cons first rest ih => simp only [List.cons_append, SoundRun, ih, run, and_assoc]

end Running

end Session

end LinearProgram
