import LinearProgram.Proofs.Represented

/-!
Following a session. Every step is an action of the registry, and the registry goes on showing the problems.
-/

namespace LinearProgram

theorem Value.eq_entity_of_handle (target : Value) (ref : EntityRef) (handle : target.handle = some ref) :
    target = .entity ref.problem ref.kind ref.key := by
  cases target <;> cases handle
  rfl

-- Of an entity a key takes nothing but its own key.
theorem Key.ofValues_entity (one other : Nat) (kind otherKind : EntityKind) (key otherKey : Value)
    (same : key.sameKey otherKey = true) (indices : List Value) :
    (Key.ofValues (.entity one kind key) indices).toOption =
      (Key.ofValues (.entity other otherKind otherKey) indices).toOption := by
  by_cases isText : ∃ text, key = .text text
  · obtain ⟨text, rfl⟩ := isText
    rw [Value.eq_text_of_sameKey otherKey text (Value.sameKey_comm _ _ ▸ same)]
    rfl
  · have unwritten (owner : Nat) (as : EntityKind) (own : Value) (notText : ∀ text, own ≠ .text text) :
        (Key.ofValues (.entity owner as own) indices).toOption = none := by
      cases own with
      | text text => exact absurd rfl (notText text)
      | _ => rfl
    have notText (text : String) : key ≠ .text text := fun same => isText ⟨text, same⟩
    rw [unwritten one kind key notText, unwritten other otherKind otherKey fun text isIts =>
      notText text (((Value.sameKey_iff key otherKey).mp same text).mpr isIts)]

theorem Session.namedCounterpart_ok (problem : Problem) (ref : EntityRef) (target : Value) (indices : List Value)
    (key : String) (composed : Key.ofValues target indices = .ok key) :
    ∃ kind : EntityKind, kind.isRow = (!ref.kind.isRow) ∧ namedCounterpart problem ref target indices =
      .ok (⟨ref.problem, kind, .text key⟩, problem.ensure kind key) := by
  rw [namedCounterpart, composed]
  cases isRow : ref.kind.isRow with
  | true => exact ⟨.column, rfl, rfl⟩
  | false => exact ⟨.row, rfl, rfl⟩

namespace Registry

variable {registry after : Registry} {problems : List Problem} {index : Nat} {problem : Problem}

/-- A registry without assigned keys whose tables show the problems, one after another. -/
structure Represents (registry : Registry) (problems : List Problem) : Prop where
  sound : registry.Sound fun _ => False
  count : registry.tables.length = problems.length
  shows : ∀ (index : Nat) (tables : Tables) (problem : Problem), registry.tables[index]? = some tables →
    problems[index]? = some problem → tables.Shows registry.entities problem

theorem represents_empty : Represents {} [] :=
  ⟨sound_empty, rfl, fun index tables problem found => by simp at found⟩

theorem Represents.tablesOf (represents : registry.Represents problems) (found : problems[index]? = some problem) :
    ∃ tables, registry.tables[index]? = some tables ∧ tables.Shows registry.entities problem ∧
      tables.Sound (fun _ => False) registry.entities index := by
  have inside : index < registry.tables.length := represents.count ▸ (List.getElem?_eq_some_iff.mp found).1
  have isThere := List.getElem?_eq_getElem inside
  exact ⟨_, isThere, represents.shows index _ problem isThere found, represents.sound.tables index _ isThere⟩

theorem Represents.tablesAt_of_none (represents : registry.Represents problems) (missing : problems[index]? = none) :
    registry.tablesAt index = .error .indexOutOfRange := by
  have outside : registry.tables[index]? = none :=
    List.getElem?_eq_none (represents.count ▸ List.getElem?_eq_none_iff.mp missing)
  rw [tablesAt, outside]

theorem Represents.set (represents : registry.Represents problems) (old tables : Tables)
    (found : registry.tables[index]? = some old) (changed : after.tables = registry.tables.set index tables)
    (retains : registry.Retains after) (sound : after.Sound fun _ => False)
    (shows : tables.Shows after.entities problem) : after.Represents (problems.set index problem) := by
  refine ⟨sound, by rw [changed, List.length_set, List.length_set, represents.count], ?_⟩
  intro other others its there isIts
  have inside : index < problems.length := represents.count ▸ (List.getElem?_eq_some_iff.mp found).1
  rw [changed, getElem?_set_of_some _ old tables index other found] at there
  rw [getElem?_set_of_some _ _ problem index other (List.getElem?_eq_getElem inside)] at isIts
  split at there
  next same =>
    rw [if_pos same] at isIts
    cases there
    cases isIts
    exact shows
  next apart =>
    rw [if_neg apart] at isIts
    exact (represents.shows other others its there isIts).grow (represents.sound.tables other others there) retains

theorem Represents.unchanged (represents : registry.Represents problems) (found : problems[index]? = some problem) :
    registry.Represents (problems.set index problem) := by
  obtain ⟨inside, isProblem⟩ := List.getElem?_eq_some_iff.mp found
  rw [← isProblem, List.set_getElem_self]
  exact represents

theorem retains_enter (registry : Registry) (index : Nat) (tables : Tables) (kind : EntityKind) (key : Value) :
    registry.Retains (registry.enter index tables kind key) :=
  fun entity held found => getElem?_concat_of_some _ _ held entity found

theorem register_of_fresh (tables : Tables) (found : registry.tables[index]? = some tables) (kind : EntityKind)
    (key : Value) (fresh : tables.find? kind.isRow key = none) :
    registry.register index kind key = .ok (registry.enter index tables kind key, registry.entities.length) := by
  rw [register, (tablesAt_eq_ok_iff registry index tables).mpr found, ok_bind, fresh]
  rfl

theorem register_of_taken (tables : Tables) (found : registry.tables[index]? = some tables) (kind : EntityKind)
    (key : Value) (taken : (tables.find? kind.isRow key).isSome = true) :
    ∃ fault, registry.register index kind key = .error fault := by
  obtain ⟨entity, isTaken⟩ := Option.isSome_iff_exists.mp taken
  rw [register, (tablesAt_eq_ok_iff registry index tables).mpr found, ok_bind, isTaken]
  exact ⟨_, rfl⟩

theorem refer_of_fresh (tables : Tables) (found : registry.tables[index]? = some tables) (isRow : Bool)
    (name : String) (fresh : tables.find? isRow (.text name) = none) :
    registry.refer index isRow (.ok name) =
      .ok (registry.enter index tables (if isRow then .row else .column) (.text name),
        registry.entities.length) := by
  have same : (if isRow then EntityKind.row else .column).isRow = isRow := by cases isRow <;> rfl
  rw [refer, (tablesAt_eq_ok_iff registry index tables).mpr found, ok_bind, ok_bind, fresh]
  exact register_of_fresh tables found _ _ (same.symm ▸ fresh)

theorem tables_enter (tables : Tables) (found : registry.tables[index]? = some tables) (kind : EntityKind)
    (key : Value) : (registry.enter index tables kind key).tables[index]? =
      some (tables.enter kind.isRow key registry.entities.length) := by
  rw [enter, getElem?_set_of_some _ tables _ index index found, if_pos rfl]

section Aiming

variable (tables : Tables) (found : registry.tables[index]? = some tables) (name : Value) (notNull : name ≠ .null)

include found notNull

theorem aim_defined (entity : Nat) (aimed : tables.objective = some entity) :
    ∃ fault, registry.aim index name = .error fault := by
  rw [aim, (tablesAt_eq_ok_iff registry index tables).mpr found, ok_bind]
  split
  · exact absurd rfl notNull
  · cases (registry.keyOf _).written <;> exact ⟨_, rfl⟩
  next unaimed => cases unaimed.symm.trans aimed

theorem aim_refused (unaimed : tables.objective = none)
    (refused : name.isKey = true → (tables.find? true name).isSome = true) :
    ∃ fault, registry.aim index name = .error fault := by
  rw [aim, (tablesAt_eq_ok_iff registry index tables).mpr found, ok_bind]
  split
  · exact absurd rfl notNull
  next aimed => cases unaimed.symm.trans aimed
  · split
    next isKey =>
      obtain ⟨fault, fails⟩ := register_of_taken tables found .objective _ (refused isKey)
      exact ⟨fault, by rw [fails]; rfl⟩
    · exact ⟨_, rfl⟩

theorem aim_new (unaimed : tables.objective = none) (isKey : name.isKey = true)
    (fresh : tables.find? true name = none) :
    registry.aim index name = .ok ((registry.enter index tables .objective name).setTables index
      { tables.enter true name registry.entities.length with objective := some registry.entities.length },
        some registry.entities.length) := by
  rw [aim, (tablesAt_eq_ok_iff registry index tables).mpr found, ok_bind]
  split
  · exact absurd rfl notNull
  next aimed => cases unaimed.symm.trans aimed
  · rw [if_pos isKey, register_of_fresh tables found .objective _ fresh, ok_bind]
    dsimp only
    rw [(tablesAt_eq_ok_iff _ index _).mpr (tables_enter tables found .objective _)]
    rfl

end Aiming

section Registering

variable (represents : registry.Represents problems) (found : problems[index]? = some problem) (tables : Tables)
  (isTables : registry.tables[index]? = some tables)

include represents found isTables

theorem Represents.enterColumn (closed : problem.Closed) (name : String)
    (fresh : tables.find? false (.text name) = none) (absent : ¬ problem.columns.contains name = true) :
    (registry.enter index tables .column (.text name)).Represents
      (problems.set index { problem with columns := problem.columns.insert name {} }) := by
  have shows := represents.shows index tables problem isTables found
  have sound := represents.sound.tables index tables isTables
  have retains := registry.retains_enter index tables .column (.text name)
  refine represents.set tables _ isTables rfl retains (represents.sound.enter index tables _ _ isTables fresh) ?_
  exact (shows.grow sound retains).column sound registry.entities.length (by simp) closed name absent

theorem Represents.enterRow (ordered : problem.Ordered) (name : String) (direction : Option Value)
    (kind : EntityKind) (isKind : kind = Row.kind { direction }) (fresh : tables.find? true (.text name) = none)
    (absent : ¬ problem.rows.contains name = true) :
    (registry.enter index tables kind (.text name)).Represents
      (problems.set index (problem.addRow name { direction })) := by
  have shows := represents.shows index tables problem isTables found
  have sound := represents.sound.tables index tables isTables
  have retains := registry.retains_enter index tables kind (.text name)
  have isRow : kind.isRow = true := by rw [isKind, Row.kind]; split <;> rfl
  refine represents.set tables _ isTables rfl retains
    (represents.sound.enter index tables _ _ isTables (isRow ▸ fresh)) ?_
  rw [isRow]
  exact (shows.grow sound retains).row sound registry.entities.length (by simp) ordered name absent direction
    ⟨index, kind, .text name⟩ (by simp [enter]) isKind

-- A row that becomes the objective.
theorem Represents.aimRow (ordered : problem.Ordered) (unaimed : problem.objective = none) (name : String)
    (direction : Value) (absent : ¬ problem.rows.contains name = true) :
    ∃ after entity, registry.aim index (.text name) = .ok (after, entity) ∧
      after.Represents (problems.set index
        { problem.addRow name { direction := some direction } with objective := some (.row name) }) := by
  have shows := represents.shows index tables problem isTables found
  have sound := represents.sound.tables index tables isTables
  have noAim := (shows.unaimed_iff sound ordered).mpr unaimed
  have fresh : tables.find? EntityKind.objective.isRow (.text name) = none := by
    have taken := (shows.find?_isSome_iff sound ordered .objective (.text name)).trans
      (problem.contains_row_iff .objective rfl name).symm
    simpa using mt taken.mp absent
  have aims := aim_new tables isTables (.text name) (by simp) noAim rfl fresh
  refine ⟨_, _, aims, ?_⟩
  have entered := represents.enterRow found tables isTables ordered name (some direction) .objective rfl fresh absent
  have isThere := tables_enter tables isTables .objective (.text name)
  have inside : index < problems.length := (List.getElem?_eq_some_iff.mp found).1
  have isShown := entered.shows index _ _ isThere (List.getElem?_set_self inside)
  rw [← List.set_set]
  refine entered.set _ _ isThere rfl (fun _ _ there => there) ((aim_ok index _ _ aims).sound represents.sound) ?_
  refine isShown.aim (entered.sound.tables index _ isThere) unaimed name registry.entities.length ?_
  simp [Tables.enter, EntityKind.isRow]

theorem Represents.aimAside (ordered : problem.Ordered) (unaimed : problem.objective = none)
    (name direction : Value) (notNull : name ≠ .null) (notText : ∀ text, name ≠ .text text)
    (isKey : name.isKey = true) :
    ∃ after entity, registry.aim index name = .ok (after, entity) ∧
      after.Represents (problems.set index { problem with
        objective := some (.beside name { direction := some direction } problem.arrivals.toList) }) := by
  have shows := represents.shows index tables problem isTables found
  have sound := represents.sound.tables index tables isTables
  have noAim := (shows.unaimed_iff sound ordered).mpr unaimed
  have fresh : tables.find? EntityKind.objective.isRow name = none := by
    have missing : problem.row? name = none := by
      rw [problem.row?_of_notText name notText, Problem.beside?, unaimed]
      rfl
    have taken := (shows.find?_isSome_iff sound ordered .objective name).trans
      (problem.has_row_iff .objective rfl name)
    simpa [missing] using taken
  have aims := aim_new tables isTables name notNull noAim isKey fresh
  have retains := registry.retains_enter index tables .objective name
  have aside := (shows.grow sound retains).aside sound registry.entities.length (by simp) unaimed name direction
    notText ⟨index, .objective, name⟩ (by simp [enter]) rfl retains
  refine ⟨_, _, aims, represents.set tables _ isTables ?_ retains ?_ aside⟩
  · exact List.set_set _
  · exact (aim_ok index _ _ aims).sound represents.sound

end Registering

section Steps

variable (represents : registry.Represents problems) (found : problems[index]? = some problem)
  (ordered : problem.Ordered) (closed : problem.Closed)

include represents found ordered closed

/-- What is named is the entity of that name, a new one if there was none. -/
theorem Represents.refer (kind : EntityKind) (name : String) :
    ∃ after entity tables, registry.refer index kind.isRow (.ok name) = .ok (after, entity) ∧
      after.Represents (problems.set index (problem.ensure kind name)) ∧
      after.tables[index]? = some tables ∧ (.text name, entity) ∈ tables.table kind.isRow := by
  obtain ⟨tables, isTables, shows, sound⟩ := represents.tablesOf found
  have isAt := (tablesAt_eq_ok_iff registry index tables).mpr isTables
  have taken := shows.find?_isSome_iff sound ordered kind (.text name)
  cases isFound : tables.find? kind.isRow (.text name) with
  | some entity =>
      have has := taken.mp (by rw [isFound]; rfl)
      obtain ⟨own, member, same⟩ := Tables.mem_of_find? _ _ _ isFound
      refine ⟨registry, entity, tables, ?_, ?_, isTables, Value.eq_text_of_sameKey own name same ▸ member⟩
      · simp [Registry.refer, isAt, isFound, pure, Except.pure]
      · rw [problem.ensure_of_has kind name has]
        exact represents.unchanged found
  | none =>
      have lacks : ¬ problem.Has kind (.text name) := by rw [← taken, isFound]; simp
      refine ⟨_, _, _, refer_of_fresh tables isTables kind.isRow name isFound, ?_,
        tables_enter tables isTables _ (.text name), ?_⟩
      · cases kind with
        | column =>
            have absent := mt (problem.contains_column_iff name).mp lacks
            have entered := represents.enterColumn found tables isTables closed name isFound absent
            rwa [Problem.ensure, if_neg (by decide), Problem.ensureColumn, if_neg absent]
        | row | objective =>
            have absent := mt (problem.contains_row_iff .row rfl name).mp lacks
            have entered := represents.enterRow found tables isTables ordered name none .row rfl isFound absent
            rwa [Problem.ensure, if_pos (by decide), Problem.ensureRow, if_neg absent]
      · cases kind <;> simp [Tables.table_enter, EntityKind.isRow]

end Steps

section Listed

/-- The tables of its problem have an entity under the key of a reference. -/
def Lists (registry : Registry) (ref : EntityRef) (entity : Nat) : Prop :=
  ∃ tables own, registry.tables[ref.problem]? = some tables ∧ (own, entity) ∈ tables.table ref.kind.isRow ∧
    own.sameKey ref.key = true

theorem Lists.continues {ref : EntityRef} {entity : Nat} (lists : registry.Lists ref entity)
    (on : registry.Continues after) : after.Lists ref entity := by
  obtain ⟨tables, own, found, member, same⟩ := lists
  obtain ⟨later, there, further⟩ := on ref.problem tables found
  refine ⟨later, own, there, ?_, same⟩
  cases isRow : ref.kind.isRow with
  | true => rw [isRow] at member; exact further.rows.subset member
  | false => rw [isRow] at member; exact further.columns.subset member

theorem Lists.held {ref : EntityRef} {entity : Nat} (lists : registry.Lists ref entity)
    (sound : registry.Sound fun _ => False) : ∃ held, registry.entities[entity]? = some held ∧
      held.problem = ref.problem ∧ held.kind.isRow = ref.kind.isRow ∧ held.key.sameKey ref.key = true := by
  obtain ⟨tables, own, found, member, same⟩ := lists
  obtain ⟨held, isHeld, owner, side, key⟩ := (sound.tables _ tables found).entry _ own entity member
  exact ⟨held, isHeld, owner, side, key id ▸ same⟩

-- Of two entities of opposite kinds one is the row and the other the column.
theorem Lists.sorted {ref other : EntityRef} {entity its : Nat} (lists : registry.Lists ref entity)
    (listsIts : registry.Lists other its) (opposite : other.kind.isRow = (!ref.kind.isRow)) :
    ∃ rowRef columnRef row column,
      (if ref.kind.isRow then (ref, other) else (other, ref)) = (rowRef, columnRef) ∧
      (if ref.kind.isRow then (entity, its) else (its, entity)) = (row, column) ∧
      registry.Lists rowRef row ∧ registry.Lists columnRef column ∧
      (rowRef.kind.isRow = true ∧ columnRef.kind.isRow = false) ∧
      (rowRef.problem = ref.problem ∧ columnRef.problem = ref.problem ↔ other.problem = ref.problem) := by
  cases isRow : ref.kind.isRow with
  | true => exact ⟨_, _, _, _, rfl, rfl, lists, listsIts, ⟨isRow, by rw [opposite, isRow]; rfl⟩, by simp⟩
  | false => exact ⟨_, _, _, _, rfl, rfl, listsIts, lists, ⟨by rw [opposite, isRow]; rfl, isRow⟩, by simp⟩

theorem setCoefficient_error (index row column : Nat) (coefficient : Except Fault Binary64) (one other : Entity)
    (rowThere : registry.entities[row]? = some one) (columnThere : registry.entities[column]? = some other)
    (wrong : one.problem = index → other.problem = index → ∃ fault, coefficient = .error fault) :
    ∃ fault, registry.setCoefficient index row column coefficient = .error fault := by
  simp only [setCoefficient, rowThere, columnThere]
  split
  next here =>
    obtain ⟨fault, rfl⟩ := wrong here.1 here.2
    exact ⟨fault, rfl⟩
  · cases one.key.written with
    | error fault => exact ⟨fault, rfl⟩
    | ok text => cases other.key.written <;> exact ⟨_, rfl⟩

variable (represents : registry.Represents problems) (found : problems[index]? = some problem)
  (ordered : problem.Ordered)

include represents found ordered

theorem Represents.put (rowRef columnRef : EntityRef) (here : rowRef.problem = index ∧ columnRef.problem = index)
    (sides : rowRef.kind.isRow = true ∧ columnRef.kind.isRow = false) (row column : Nat)
    (isRow : registry.Lists rowRef row) (isColumn : registry.Lists columnRef column) (x : Binary64) :
    ∃ after, registry.setCoefficient index row column (.ok x) = .ok after ∧
      after.Represents (problems.set index (problem.setCoefficient rowRef.key columnRef.key.display x)) := by
  obtain ⟨one, rowThere, rowOwner, rowSide, -⟩ := isRow.held represents.sound
  obtain ⟨other, columnThere, columnOwner, columnSide, -⟩ := isColumn.held represents.sound
  obtain ⟨tables, own, isTables, member, same⟩ := isRow
  obtain ⟨others, its, isOthers, isListed, alike⟩ := isColumn
  rw [here.1] at isTables rowOwner
  rw [here.2] at isOthers columnOwner
  cases isTables.symm.trans isOthers
  rw [sides.1] at member rowSide
  rw [sides.2] at isListed columnSide
  have shows := represents.shows index tables problem isTables found
  have sound := represents.sound.tables index tables isTables
  obtain ⟨name, rfl, -⟩ := (shows.columns its).mp ⟨column, isListed⟩
  have isText : columnRef.key = .text name :=
    Value.eq_text_of_sameKey _ name (Value.sameKey_comm _ _ ▸ alike)
  obtain ⟨_, found, inside, -⟩ := shows.hasRow sound (fun _ _ there => there) own row member
  have rowFound : problem.row? rowRef.key = some found :=
    problem.row?_sameKey own rowRef.key same ▸ ordered.row?_of_mem own found inside
  have sets : registry.setCoefficient index row column (.ok x) =
      .ok (registry.setTables index (tables.put row column x)) := by
    simp only [setCoefficient, rowThere, columnThere, rowOwner, columnOwner, and_self, if_true, ok_bind,
      (tablesAt_eq_ok_iff registry index tables).mpr isTables]
    rfl
  refine ⟨_, sets, represents.set tables _ isTables rfl (fun _ _ there => there) ?_ ?_⟩
  · exact (setCoefficient_ok index row column _ one other rowSide columnSide rowThere columnThere sets).sound
      represents.sound
  · rw [isText]
    exact shows.put sound ordered own rowRef.key name row column x member same isListed ⟨found, rowFound⟩

end Listed

section Following

/-- The other side of a coefficient in a problem and in the registry: both fail, or both find or make one of the
opposite kind. -/
inductive Joins (registry : Registry) (problems : List Problem) (ref : EntityRef) :
    Except Fault (EntityRef × Problem) → Except Fault (Registry × Nat) → Prop where
  | failed (fault another : Fault) : Joins registry problems ref (.error fault) (.error another)
  | found (other : EntityRef) (named : Problem) (after : Registry) (entity : Nat) :
      after.Represents (problems.set ref.problem named) → named.Ordered → registry.Continues after →
        after.Lists other entity → other.kind.isRow = (!ref.kind.isRow) →
          Joins registry problems ref (.ok (other, named)) (.ok (after, entity))

theorem targetOf_eq (registry : Registry) (target : Value) (indices : List Value) :
    registry.targetOf target indices =
      match target.handle with
      | some ref => .entity (registry.entityOf ref) indices
      | none => .named (Key.ofValues target indices) := by
  cases target <;> rfl

variable (session : Session) (represents : registry.Represents session.problems)
  (ordered : session.Ordered) (closed : session.Closed)

theorem problemAt_of_none (missing : session.problems[index]? = none) :
    session.problemAt index = .error .indexOutOfRange := by
  rw [Session.problemAt, missing]

theorem step_aim_error (index : Nat) (name : Value) (fails : ∃ fault, registry.aim index name = .error fault) :
    (registry.step (.aim index name)).1 = registry := by
  obtain ⟨fault, isFault⟩ := fails
  rw [Registry.step, isFault]
  rfl

theorem step_aim_ok (index : Nat) (name : Value) (entity : Option Nat)
    (aims : registry.aim index name = .ok (after, entity)) : (registry.step (.aim index name)).1 = after := by
  rw [Registry.step, aims]
  rfl

include represents

theorem represents_problem (name : Value) :
    (registry.step .problem).1.Represents (session.step (.problem name)).1.problems := by
  refine ⟨(Effect.problem registry).sound represents.sound, ?_, fun index tables problem found isThere => ?_⟩
  · simp [Registry.step, Session.step, represents.count]
  · simp only [Registry.step, Session.step] at found isThere
    rw [getElem?_concat] at found isThere
    rw [represents.count] at found
    split at found
    next last =>
      rw [if_pos last] at isThere
      cases found
      cases isThere
      exact Tables.shows_empty name
    next inside =>
      rw [if_neg inside] at isThere
      exact represents.shows index tables problem found isThere

include ordered closed

theorem represents_ensure (kind : EntityKind) (name : Value) (indices : List Value) :
    (registry.step (.refer index kind.isRow (Key.ofValues name indices))).1.Represents
      (session.ensure index kind name indices).1.problems := by
  cases found : session.problems[index]? with
  | none =>
      simp only [Registry.step, Registry.refer, represents.tablesAt_of_none found, Session.ensure,
        problemAt_of_none session found]
      exact represents
  | some problem =>
      have isAt := (Session.problemAt_ok session index problem).mpr found
      obtain ⟨tables, isTables, -⟩ := represents.tablesOf found
      cases composed : Key.ofValues name indices with
      | error fault =>
          simp only [Registry.step, Registry.refer, (tablesAt_eq_ok_iff registry index tables).mpr isTables,
            Session.ensure, isAt, composed]
          exact represents
      | ok key =>
          obtain ⟨after, entity, -, refers, shows, -⟩ := represents.refer found (ordered index problem found)
            (closed problem (List.mem_of_getElem? found)) kind key
          simp only [Registry.step, refers, Session.ensure, isAt, composed]
          exact shows

theorem represents_newColumn (index : Nat) (key : String) :
    (registry.step (.create index .column key)).1.Represents
      (session.step (.newColumn index key)).1.problems := by
  cases found : session.problems[index]? with
  | none =>
      simp only [Registry.step, Registry.register, represents.tablesAt_of_none found, Session.step,
        problemAt_of_none session found]
      exact represents
  | some problem =>
      have isAt := (Session.problemAt_ok session index problem).mpr found
      obtain ⟨tables, isTables, shows, sound⟩ := represents.tablesOf found
      have taken := (shows.find?_isSome_iff sound (ordered index problem found) .column (.text key)).trans
        (problem.contains_column_iff key).symm
      by_cases present : problem.columns.contains key = true
      · obtain ⟨fault, fails⟩ := register_of_taken tables isTables .column (.text key) (taken.mpr present)
        simp only [Registry.step, fails, Session.step, isAt, ok_bind, Problem.createColumn, if_pos present]
        exact represents
      · have fresh : tables.find? EntityKind.column.isRow (.text key) = none := by simpa using mt taken.mp present
        simp only [Registry.step, register_of_fresh tables isTables .column (.text key) fresh, Session.step, isAt,
          ok_bind, Problem.createColumn, if_neg present]
        exact represents.enterColumn found tables isTables (closed problem (List.mem_of_getElem? found)) key fresh
          present

omit closed in
theorem represents_newRow (index : Nat) (key : String) (direction : Option Value) (kind : EntityKind)
    (isKind : kind = Row.kind { direction }) :
    (registry.step (.create index kind key)).1.Represents
      (session.store index (session.problemAt index >>= (·.createRow key direction)) kind (.text key)).1.problems := by
  have isRow : kind.isRow = true := by rw [isKind, Row.kind]; split <;> rfl
  cases found : session.problems[index]? with
  | none =>
      simp only [Registry.step, Registry.register, represents.tablesAt_of_none found,
        problemAt_of_none session found]
      exact represents
  | some problem =>
      have isAt := (Session.problemAt_ok session index problem).mpr found
      obtain ⟨tables, isTables, shows, sound⟩ := represents.tablesOf found
      have taken := (shows.find?_isSome_iff sound (ordered index problem found) kind (.text key)).trans
        (problem.contains_row_iff kind isRow key).symm
      by_cases present : problem.rows.contains key = true
      · obtain ⟨fault, fails⟩ := register_of_taken tables isTables kind (.text key) (taken.mpr present)
        simp only [Registry.step, fails, isAt, ok_bind, Problem.createRow, if_pos present]
        exact represents
      · have fresh : tables.find? kind.isRow (.text key) = none := by simpa using mt taken.mp present
        simp only [Registry.step, register_of_fresh tables isTables kind (.text key) fresh, isAt, ok_bind,
          Problem.createRow, if_neg present]
        exact represents.enterRow found tables isTables (ordered index problem found) key direction kind isKind
          (isRow ▸ fresh) present

omit ordered closed in
theorem represents_newObjective (found : session.problems[index]? = some problem) (ordered : problem.Ordered)
    (unaimed : problem.objective = none) (name direction : Value) (notNull : name ≠ .null) :
    (registry.step (.aim index name)).1.Represents
      (session.store index (problem.createObjective name direction) .objective name).1.problems := by
  obtain ⟨tables, isTables, shows, sound⟩ := represents.tablesOf found
  have noAim := (shows.unaimed_iff sound ordered).mpr unaimed
  by_cases isText : ∃ text, name = .text text
  · obtain ⟨text, rfl⟩ := isText
    rw [Creation.createObjective_undefined problem unaimed, Problem.createRow]
    by_cases present : problem.rows.contains text = true
    · have taken := (shows.find?_isSome_iff sound ordered .objective (.text text)).mpr
        ((problem.contains_row_iff .objective rfl text).mp present)
      rw [step_aim_error index _ (aim_refused tables isTables _ notNull noAim fun _ => taken), if_pos present]
      exact represents
    · obtain ⟨after, entity, aims, shown⟩ :=
        represents.aimRow found tables isTables ordered unaimed text direction present
      rw [step_aim_ok index _ entity aims, if_neg present]
      exact shown
  · have notText (text : String) : name ≠ .text text := fun same => isText ⟨text, same⟩
    rw [problem.createObjective_aside unaimed name direction notText]
    by_cases isKey : name.isKey = true
    · obtain ⟨after, entity, aims, shown⟩ :=
        represents.aimAside found tables isTables ordered unaimed name direction notNull notText isKey
      rw [step_aim_ok index name entity aims, if_pos isKey]
      exact shown
    · have fails := aim_refused tables isTables name notNull noAim fun keyed => absurd keyed isKey
      rw [step_aim_error index name fails, if_neg isKey]
      exact represents

omit closed in
theorem represents_objective (index : Nat) (name direction : Value) :
    (registry.step (.aim index name)).1.Represents (session.objective index name direction).1.problems := by
  cases found : session.problems[index]? with
  | none =>
      have fails : ∃ fault, registry.aim index name = .error fault :=
        ⟨_, by rw [Registry.aim, represents.tablesAt_of_none found]; rfl⟩
      rw [step_aim_error index name fails]
      unfold Session.objective
      rw [problemAt_of_none session found]
      split <;> exact represents
  | some problem =>
      have isAt := (Session.problemAt_ok session index problem).mpr found
      have isOrdered := ordered index problem found
      obtain ⟨tables, isTables, shows, sound⟩ := represents.tablesOf found
      by_cases null : name = .null
      · subst null
        have aims : registry.aim index .null = .ok (registry, tables.objective) := by
          rw [Registry.aim, (tablesAt_eq_ok_iff registry index tables).mpr isTables]
          rfl
        rw [step_aim_ok index .null _ aims, Session.objective, isAt]
        dsimp only
        split <;> exact represents
      · have stores : session.objective index name direction = session.store index
            (session.problemAt index >>= (·.createObjective name direction)) .objective name := by
          unfold Session.objective
          split
          · exact absurd rfl null
          · rfl
        rw [stores, isAt, ok_bind]
        cases aimed : problem.objective with
        | some aim =>
            have noNew : tables.objective ≠ none := mt (shows.unaimed_iff sound isOrdered).mp (by rw [aimed]; simp)
            obtain ⟨entity, isAimed⟩ := Option.ne_none_iff_exists'.mp noNew
            rw [step_aim_error index name (aim_defined tables isTables name null entity isAimed),
              Creation.createObjective_defined problem aim aimed]
            exact represents
        | none => exact represents_newObjective session represents found isOrdered aimed name direction null

omit closed in
theorem Represents.lists_entityOf (ref : EntityRef) (isIn : ref.IsIn session) :
    registry.Lists ref (registry.entityOf ref) := by
  obtain ⟨problem, view, found, shown, -⟩ := isIn
  obtain ⟨tables, isTables, shows, sound⟩ := represents.tablesOf found
  have has : problem.Has ref.kind ref.key := Option.isSome_iff_exists.mpr ⟨view, shown⟩
  obtain ⟨entity, isFound⟩ := Option.isSome_iff_exists.mp
    ((shows.find?_isSome_iff sound (ordered _ problem found) ref.kind ref.key).mpr has)
  obtain ⟨own, member, same⟩ := Tables.mem_of_find? _ _ _ isFound
  have isEntity : registry.entityOf ref = entity := by
    rw [entityOf, isTables, Option.bind_some, isFound]
    rfl
  exact ⟨tables, own, isTables, isEntity ▸ member, same⟩

theorem Represents.named (ref : EntityRef) (found : session.problems[ref.problem]? = some problem)
    (key : Except Fault String) (target : Value) (indices : List Value)
    (same : key.toOption = (Key.ofValues target indices).toOption) :
    registry.Joins session.problems ref (Session.namedCounterpart problem ref target indices)
      (registry.refer ref.problem (!ref.kind.isRow) key) := by
  have isOrdered := ordered _ problem found
  obtain ⟨tables, isTables, -⟩ := represents.tablesOf found
  cases composed : Key.ofValues target indices with
  | error fault =>
      rw [composed] at same
      cases key with
      | ok name => cases same
      | error another =>
          have fails : registry.refer ref.problem (!ref.kind.isRow) (.error another) = .error another := by
            rw [Registry.refer, (tablesAt_eq_ok_iff registry _ tables).mpr isTables]
            rfl
          rw [Session.namedCounterpart, composed, fails]
          exact .failed fault another
  | ok name =>
      rw [composed] at same
      cases key with
      | error another => cases same
      | ok other =>
          obtain rfl : other = name := Option.some.inj same
          have isClosed := closed problem (List.mem_of_getElem? found)
          obtain ⟨kind, opposite, names⟩ := Session.namedCounterpart_ok problem ref target indices other composed
          obtain ⟨after, entity, there, refers, shown, isThere, member⟩ :=
            represents.refer found isOrdered isClosed kind other
          rw [opposite] at refers
          obtain ⟨effects, retains, -⟩ := refer_ok represents.sound _ _ _ entity refers
          rw [names, refers]
          exact .found _ _ after entity shown (problem.ordered_ensure kind other isOrdered) effects.continues
            ⟨there, _, isThere, member, Value.sameKey_self _⟩ opposite

theorem Represents.counterpart (ref : EntityRef) (found : session.problems[ref.problem]? = some problem)
    (mine : Entity) (owner : mine.problem = ref.problem) (side : mine.kind.isRow = ref.kind.isRow)
    (target : Value) (indices : List Value)
    (targetIsIn : ∀ entity, target.handle = some entity → entity.IsIn session) :
    registry.Joins session.problems ref (Session.counterpart problem ref target indices)
      (registry.counterpart mine (registry.targetOf target indices)) := by
  rw [Session.counterpart_eq, targetOf_eq]
  cases handle : target.handle with
  | none =>
      rw [Registry.counterpart, owner, side]
      exact Represents.named session represents ordered closed ref found _ target indices rfl
  | some other =>
      have lists := Represents.lists_entityOf session represents ordered other (targetIsIn other handle)
      obtain ⟨its, isIts, -, itsSide, sameKey⟩ := lists.held represents.sound
      simp only [Registry.counterpart, isIts, itsSide, side, owner]
      split
      next opposite =>
        exact .found other problem registry _ (represents.unchanged found) (ordered _ problem found)
          (fun _ tables there => ⟨tables, there, tables.continue_refl⟩) lists (Bool.eq_not_of_ne (by simpa using opposite))
      · refine Represents.named session represents ordered closed ref found _ target indices ?_
        rw [target.eq_entity_of_handle other handle]
        exact Key.ofValues_entity _ _ _ _ its.key other.key sameKey indices

theorem represents_add (ref : EntityRef) (isIn : ref.IsIn session) (amount target : Value) (indices : List Value)
    (targetIsIn : ∀ entity, target.handle = some entity → entity.IsIn session) :
    (registry.step (.add (registry.entityOf ref) (registry.targetOf target indices) amount.toBinary64)).1.Represents
      (session.add ref amount target indices).1.problems := by
  have lists := Represents.lists_entityOf session represents ordered ref isIn
  obtain ⟨mine, isMine, owner, side, -⟩ := lists.held represents.sound
  obtain ⟨problem, view, found, shown, -⟩ := isIn
  have isAt := (Session.problemAt_ok session ref.problem problem).mpr found
  have joins := Represents.counterpart session represents ordered closed ref found mine owner side target indices
    targetIsIn
  simp only [Registry.step, Registry.add, isMine, Session.add, isAt, ok_bind]
  generalize Session.counterpart problem ref target indices = outcome at joins ⊢
  generalize registry.counterpart mine (registry.targetOf target indices) = made at joins ⊢
  cases joins with
  | failed fault another => exact represents
  | found other named after entity represented isOrdered on isListed opposite =>
      have inside : ref.problem < session.problems.length := (List.getElem?_eq_some_iff.mp found).1
      have isNamed : (session.problems.set ref.problem named)[ref.problem]? = some named :=
        List.getElem?_set_self inside
      obtain ⟨rowRef, columnRef, row, column, refs, entities, isRow, isColumn, sides, here⟩ :=
        (lists.continues on).sorted isListed opposite
      obtain ⟨one, rowThere, rowOwner, -⟩ := isRow.held represented.sound
      obtain ⟨its, columnThere, columnOwner, -⟩ := isColumn.held represented.sound
      simp only [refs, side, entities, owner]
      by_cases same : other.problem = ref.problem
      · cases amount.toBinary64 with
        | error fault =>
            obtain ⟨another, fails⟩ := setCoefficient_error ref.problem row column (.error fault) one its rowThere
              columnThere fun _ _ => ⟨fault, rfl⟩
            simpa [fails, same, Session.setProblem, Session.fail] using represented
        | ok x =>
            obtain ⟨written, sets, shows⟩ := represented.put isNamed isOrdered rowRef columnRef (here.mpr same) sides
              row column isRow isColumn x
            simpa [sets, same, Session.setProblem, Session.answer] using shows
      · obtain ⟨another, fails⟩ := setCoefficient_error ref.problem row column amount.toBinary64 one its rowThere
          columnThere fun mine theirs => absurd (here.mp ⟨rowOwner ▸ mine, columnOwner ▸ theirs⟩) same
        simpa [fails, same, Session.setProblem, Session.fail] using represented

omit closed in
-- Steps that build nothing leave columns, rows, objective and coefficients as they are.
theorem represents_quiet {names : Value → Prop} {declares : EntityRef → Prop} (later : Session)
    (moved : Session.Moved False names declares none session later) : registry.Represents later.problems := by
  refine ⟨represents.sound, represents.count.trans (Nat.le_antisymm ?_ ?_), fun index tables problem found there => ?_⟩
  · by_contra longer
    obtain ⟨problem, found⟩ : ∃ problem, session.problems[later.problems.length]? = some problem :=
      ⟨_, List.getElem?_eq_getElem (Nat.lt_of_not_le longer)⟩
    obtain ⟨edited, -, -, there⟩ := moved.edits _ problem found
    simp at there
  · by_contra longer
    have missing : session.problems[session.problems.length]? = none := by simp
    exact (moved.fresh _ _ missing (List.getElem?_eq_getElem (Nat.lt_of_not_le longer))).1
  · cases was : session.problems[index]? with
    | none => exact (moved.fresh index problem was there).1.elim
    | some old =>
        obtain ⟨edited, edits, -, isEdited⟩ := moved.edits index old was
        cases there.symm.trans isEdited
        obtain ⟨same, columns⟩ := edits.quiet
        exact (represents.shows index tables old found was).frame (ordered index old was) same edits.keeps columns
          edits.cell?

theorem represents_step (step : Step) (sound : step.IsSound session) :
    (registry.step (registry.actionOf step)).1.Represents (session.step step).1.problems := by
  cases step with
  | problem name => exact represents_problem session represents name
  | column index name indices => exact represents_ensure session represents ordered closed .column name indices
  | row index name indices => exact represents_ensure session represents ordered closed .row name indices
  | newColumn index key => exact represents_newColumn session represents ordered closed index key
  | newRow index key => exact represents_newRow session represents ordered index key none .row rfl
  | newObjective index key direction =>
      exact represents_newRow session represents ordered index key (some direction) .objective rfl
  | objective index name direction => exact represents_objective session represents ordered index name direction
  | add on amount target indices =>
      cases on with
      | none => exact represents
      | some ref =>
          exact represents_add session represents ordered closed ref (sound ref (by simp [Step.handles])) amount
            target indices fun entity holds => sound entity (by simp [Step.handles, holds])
  | _ => exact represents_quiet session represents ordered _ (session.moved_unless_add _ sound (by simp))

/-- What a run does to the problems its actions do to the registry. -/
theorem represents_run (steps : List Step) (reachable : session.Reachable) (sound : session.SoundRun steps) :
    (registry.run (registry.actions steps)).Represents (session.run steps).1.problems := by
  induction steps generalizing session registry with
  | nil => exact represents
  | cons first rest ih =>
      have next := represents_step session represents ordered closed first sound.1
      have reached := reachable.step session first sound.1
      exact ih _ next reached.ordered reached.closed reached sound.2

end Following

/-- Whatever programs do, also what fails, every problem registers its columns and its rows once each and under
keys that no other of them has. An entity stays registered under the key that it was created with, which is the
key that it holds unless that was assigned. The matrix has an entry for exactly the registered rows, with one
coefficient at most for each column, and these are registered in the same problem. The objective is one of the
rows, and once there is one it is the objective from then on. A registry of this kind is behind every session. -/
theorem registered_as_created (program more : List Action) :
    (∀ (index : Nat) (tables : Tables), (run {} program).tables[index]? = some tables →
      tables.Sound (Assigned program) (run {} program).entities index ∧
        ∃ later, (run {} (program ++ more)).tables[index]? = some later ∧
          later.Sound (Assigned (program ++ more)) (run {} (program ++ more)).entities index ∧
          tables.Continue later) ∧
      ∀ steps, Session.SoundRun {} steps →
        (run {} (actions {} steps)).Represents (Session.run {} steps).1.problems := by
  refine ⟨fun index tables found => ?_, fun steps sound => ?_⟩
  · obtain ⟨later, there, on⟩ := run_continues program more index tables found
    exact ⟨(run_sound program).tables index tables found, later, there,
      (run_sound (program ++ more)).tables index later there, on⟩
  · have reachable : Session.Reachable {} := .start
    exact represents_run {} represents_empty reachable.ordered reachable.closed steps reachable sound

section Relabelling

/-- A column gets another key, under which a second column is then named. -/
def relabelling : List Action :=
  [.problem, .refer 0 false (.ok "x"), .assignKey 0 (.text "y"), .refer 0 false (.ok "y")]

theorem columns_relabelling : ((run {} relabelling).tables[0]?).map Tables.columns =
    some [(.text "x", 0), (.text "y", 1)] := rfl

/-- Both columns then hold one key, and the first is not registered under the key that it holds. -/
theorem relabelled_column_misplaced :
    (run {} relabelling).keyOf 0 = .text "y" ∧ (run {} relabelling).keyOf 1 = .text "y" ∧
      ¬ (run {} relabelling).Sound fun _ => False := by
  refine ⟨rfl, rfl, fun sound => ?_⟩
  obtain ⟨tables, found, columns⟩ := Option.map_eq_some_iff.mp columns_relabelling
  have member : (Value.text "x", 0) ∈ tables.table false := by simp [Tables.table, columns]
  obtain ⟨held, isHeld, -, -, own⟩ := (sound.tables 0 tables found).entry false _ 0 member
  have isY : ((run {} relabelling).entities[0]?).map Entity.key = some (.text "y") := rfl
  simp [isHeld, own id] at isY

theorem relabelling_registered :
    (∃ tables later, (run {} relabelling).tables[0]? = some tables ∧
      tables.columns = [(.text "x", 0), (.text "y", 1)] ∧
      tables.Sound (Assigned relabelling) (run {} relabelling).entities 0 ∧
      (run {} (relabelling ++ [.aim 0 (.text "cost")])).tables[0]? = some later ∧ tables.Continue later) ∧
      Session.SoundRun {} blendSteps ∧
      (run {} (actions {} blendSteps)).Represents (Session.run {} blendSteps).1.problems := by
  obtain ⟨registered, represented⟩ := registered_as_created relabelling [.aim 0 (.text "cost")]
  obtain ⟨tables, found, columns⟩ := Option.map_eq_some_iff.mp columns_relabelling
  obtain ⟨sound, later, there, -, on⟩ := registered 0 tables found
  have soundRun : Session.SoundRun {} blendSteps := by decide +kernel
  exact ⟨⟨tables, later, found, columns, sound, there, on⟩, soundRun, represented blendSteps soundRun⟩

end Relabelling

end Registry

end LinearProgram
