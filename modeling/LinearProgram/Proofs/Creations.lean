import LinearProgram.Proofs.References
import LinearProgram.Proofs.Store

/-!
Creating entities. A creation fails only when its key is taken or its problem has an objective already, and then
nothing has changed. One that succeeds leaves one entity more, about which nothing is declared, and all others as
they were.
-/

namespace LinearProgram

def Attributes.initial : Attributes :=
  { lower := .null, upper := .null, number := .int 0, value := .float .zero, dual := .float .zero }

def EntityView.created (kind : EntityKind) (key : String) (direction : Option Value) : EntityView :=
  if kind.isRow then
    .row (.text key) { toAttributes := .initial, direction, type := none, cells := .empty }
  else .column key { toAttributes := .initial, type := .null }

def Fault.OfRegistration : Fault → Prop
  | .keyTaken .. | .objectiveDefined _ => True
  | _ => False

/-- What a problem raises that has this objective already, unless the key of the objective cannot be written. -/
def Aim.definedFault (aim : Aim) : Fault :=
  match aim.key.written with
  | .ok text => .objectiveDefined text
  | .error fault => fault

structure Problem.Registers (kind : EntityKind) (key : String) (direction : Option Value)
    (before after : Problem) : Prop where
  absent : ¬ before.Has kind (.text key)
  shows : after.view? kind (.text key) = some (.created kind key direction)
  others : ∀ other otherKey, sameEntity other kind otherKey (.text key) = false →
    after.view? other otherKey = before.view? other otherKey
  matrix : ∀ row cells, (row, cells) ∈ after.matrixView ↔
    (row, cells) ∈ before.matrixView ∨ kind.isRow = true ∧ row = .text key ∧ cells = []
  name : after.name = before.name

/-- The ways to create an entity under a text: constructing a column, a row or an objective, and creating the
objective of a problem. -/
inductive Creation where
  | column (key : String)
  | row (key : String)
  | directed (key : String) (direction : Value)
  | objective (key : String) (direction : Value)

namespace Creation

def step (index : Nat) : Creation → Step
  | column key => .newColumn index key
  | row key => .newRow index key
  | directed key direction => .newObjective index key direction
  | objective key direction => .objective index (.text key) direction

def kind : Creation → EntityKind
  | column _ => .column
  | row _ => .row
  | directed .. | objective .. => .objective

def key : Creation → String
  | column key | row key | directed key _ | objective key _ => key

def direction? : Creation → Option Value
  | column _ | row _ => none
  | directed _ direction | objective _ direction => some direction

def aimAfter (before : Option Aim) : Creation → Option Aim
  | objective key _ => some (.row key)
  | column _ | row _ | directed .. => before

def create (problem : Problem) : Creation → Except Fault Problem
  | column key => problem.createColumn key
  | row key => problem.createRow key none
  | directed key direction => problem.createRow key (some direction)
  | objective key direction => problem.createObjective (.text key) direction

/-- What is wrong with a creation. That there is an objective already counts before that its key is taken. -/
inductive Raises (problem : Problem) : Creation → Fault → Prop where
  | column (key : String) : problem.Has .column (.text key) →
      Raises problem (.column key) (.keyTaken "Column" key)
  | row (key : String) : problem.Has .row (.text key) → Raises problem (.row key) (.keyTaken "Row" key)
  | directed (key : String) (direction : Value) : problem.Has .row (.text key) →
      Raises problem (.directed key direction) (.keyTaken "Row" key)
  | defined (key : String) (direction : Value) (aim : Aim) : problem.objective = some aim →
      Raises problem (.objective key direction) aim.definedFault
  | objective (key : String) (direction : Value) : problem.objective = none →
      problem.Has .row (.text key) → Raises problem (.objective key direction) (.keyTaken "Row" key)

end Creation

namespace Problem

variable (problem : Problem)

instance (kind : EntityKind) (key : Value) : Decidable (problem.Has kind key) :=
  inferInstanceAs (Decidable ((problem.view? kind key).isSome = true))

theorem contains_column_iff (key : String) :
    problem.columns.contains key = true ↔ problem.Has .column (.text key) := by
  simp [Has, view?, Catalog.contains]

theorem contains_row_iff (kind : EntityKind) (isRow : kind.isRow = true) (key : String) :
    problem.rows.contains key = true ↔ problem.Has kind (.text key) := by
  rw [has_row_iff problem kind isRow, row?_text, Catalog.contains, Option.isSome_iff_exists]

theorem mem_matrixView_iff (key : Value) (cells : List (String × Binary64)) :
    (key, cells) ∈ problem.matrixView ↔
      ∃ row, (key, row) ∈ problem.allRows ∧ row.cells.entries = cells := by
  simp [matrixView]

-- Views depend on the rows only through the look-up of rows, and on the columns through theirs.
theorem view?_row_congr (other : Problem) (kind : EntityKind) (isRow : kind.isRow = true) (key : Value)
    (same : other.row? key = problem.row? key) : other.view? kind key = problem.view? kind key := by
  cases kind with
  | column => cases isRow
  | row | objective => simp only [view?, same]

theorem view?_column_congr (other : Problem) (key : Value)
    (same : ∀ name, key = .text name → other.columns.get? name = problem.columns.get? name) :
    other.view? .column key = problem.view? .column key := by
  cases key with
  | text name => simp only [view?, same name rfl]
  | _ => rfl

theorem registers_column (key : String) (fresh : ¬ problem.columns.contains key = true) :
    problem.Registers .column key none { problem with columns := problem.columns.insert key {} } where
  absent := mt (problem.contains_column_iff key).mpr fresh
  shows := by
    simp only [view?, Catalog.get?_insert_self]
    rfl
  others := by
    intro other otherKey apart
    cases isRow : other.isRow with
    | true => exact problem.view?_row_congr _ other isRow otherKey rfl
    | false =>
        cases other.eq_column isRow
        refine problem.view?_column_congr _ otherKey fun name isText => ?_
        have different : name ≠ key := by
          simpa [sameEntity, isText, Value.sameKey] using apart
        exact (Catalog.get?_insert _ _ _ _).trans (if_neg different)
  matrix := fun _ _ => by simp [EntityKind.isRow, matrixView, allRows, beside?]
  name := rfl

theorem mem_allRows_addRow (key : String) (row : Row) (fresh : ¬ problem.rows.contains key = true)
    (name : Value) (own : Row) : (name, own) ∈ (problem.addRow key row).allRows ↔
      (name, own) ∈ problem.allRows ∨ name = .text key ∧ own = row := by
  have absent := Catalog.get?_of_not_contains problem.rows key fresh
  have aside : (problem.addRow key row).beside? = problem.beside? := rfl
  rw [mem_allRows_iff, mem_allRows_iff, aside]
  simp only [addRow, Catalog.get?_insert]
  constructor
  · rintro (⟨text, isText, found⟩ | isAside)
    · split at found
      next here =>
        cases found
        exact Or.inr ⟨here ▸ isText, rfl⟩
      next => exact Or.inl (Or.inl ⟨text, isText, found⟩)
    · exact Or.inl (Or.inr isAside)
  · rintro ((⟨text, isText, found⟩ | isAside) | ⟨isText, rfl⟩)
    · have different : text ≠ key := by
        rintro rfl
        cases absent.symm.trans found
      exact Or.inl ⟨text, isText, (if_neg different).trans found⟩
    · exact Or.inr isAside
    · exact Or.inl ⟨key, isText, if_pos rfl⟩

theorem registers_row (kind : EntityKind) (isRow : kind.isRow = true) (key : String)
    (direction : Option Value) (fresh : ¬ problem.rows.contains key = true) :
    problem.Registers kind key direction (problem.addRow key { direction }) where
  absent := mt (problem.contains_row_iff kind isRow key).mpr fresh
  shows := by
    have found : (problem.addRow key { direction }).row? (.text key) = some { direction } := by
      rw [row?_addRow, Value.sameKey_self, if_pos rfl]
    rw [EntityView.created, if_pos isRow]
    cases kind with
    | column => cases isRow
    | row | objective => exact congrArg (Option.map (EntityView.row (.text key))) found
  others := by
    intro other otherKey apart
    cases otherIsRow : other.isRow with
    | true =>
        refine problem.view?_row_congr _ other otherIsRow otherKey ?_
        have different : otherKey.sameKey (.text key) = false := by
          simpa [sameEntity, isRow, otherIsRow] using apart
        rw [row?_addRow, different, if_neg Bool.false_ne_true]
    | false =>
        cases other.eq_column otherIsRow
        exact problem.view?_column_congr _ otherKey fun _ _ => rfl
  matrix := by
    intro name cells
    simp only [mem_matrixView_iff, problem.mem_allRows_addRow key { direction } fresh]
    constructor
    · rintro ⟨row, inside | ⟨rfl, rfl⟩, rfl⟩
      · exact Or.inl ⟨row, inside, rfl⟩
      · exact Or.inr ⟨isRow, rfl, rfl⟩
    · rintro (⟨row, inside, rfl⟩ | ⟨-, rfl, rfl⟩)
      · exact ⟨row, Or.inl inside, rfl⟩
      · exact ⟨{ direction }, Or.inr ⟨rfl, rfl⟩, rfl⟩
  name := rfl

-- In a problem without an objective one of the rows may become it.
theorem Registers.aimed {problem after : Problem} {kind : EntityKind} {key : String}
    {direction : Option Value} (registers : problem.Registers kind key direction after) (own : String)
    (unaimed : after.objective = none) :
    problem.Registers kind key direction { after with objective := some (.row own) } := by
  have aside : beside? { after with objective := some (.row own) } = after.beside? := by
    simp [beside?, unaimed]
  have rows (other : Value) : row? { after with objective := some (.row own) } other = after.row? other := by
    cases other with
    | text name => rfl
    | _ => simp only [row?, aside]
  have views (other : EntityKind) (otherKey : Value) :
      view? { after with objective := some (.row own) } other otherKey = after.view? other otherKey := by
    cases isRow : other.isRow with
    | true => exact after.view?_row_congr _ other isRow otherKey (rows otherKey)
    | false =>
        cases other.eq_column isRow
        exact after.view?_column_congr _ otherKey fun _ _ => rfl
  have matrix : matrixView { after with objective := some (.row own) } = after.matrixView := by
    simp only [matrixView, allRows, aside]
  refine ⟨registers.absent, ?_, fun other otherKey apart => ?_, fun row cells => ?_, registers.name⟩
  · rw [views, registers.shows]
  · rw [views, registers.others other otherKey apart]
  · rw [matrix, registers.matrix]

end Problem

namespace Creation

variable (creation : Creation) (problem : Problem)

theorem raises_objective_iff (key : String) (direction : Value) (fault : Fault) :
    (objective key direction).Raises problem fault ↔
      (∃ aim, problem.objective = some aim ∧ fault = aim.definedFault) ∨
        problem.objective = none ∧ problem.Has .row (.text key) ∧ fault = .keyTaken "Row" key := by
  constructor
  · rintro (_ | _ | _ | ⟨_, _, aim, aimed⟩ | ⟨_, _, unaimed, taken⟩)
    · exact Or.inl ⟨aim, aimed, rfl⟩
    · exact Or.inr ⟨unaimed, taken, rfl⟩
  · rintro (⟨aim, aimed, rfl⟩ | ⟨unaimed, taken, rfl⟩)
    · exact .defined key direction aim aimed
    · exact .objective key direction unaimed taken

theorem createRow_error_iff (key : String) (direction : Option Value) (fault : Fault) :
    problem.createRow key direction = .error fault ↔
      problem.Has .row (.text key) ∧ fault = .keyTaken "Row" key := by
  rw [← problem.contains_row_iff .row rfl key]
  unfold Problem.createRow
  split
  next taken => simp [taken, eq_comm]
  next free => simp [free]

theorem createObjective_defined (aim : Aim) (aimed : problem.objective = some aim) (name direction : Value) :
    problem.createObjective name direction = .error aim.definedFault := by
  simp only [Problem.createObjective, aimed, Aim.definedFault]
  cases aim.key.written <;> rfl

theorem createObjective_undefined (unaimed : problem.objective = none) (key : String) (direction : Value) :
    problem.createObjective (.text key) direction =
      (problem.createRow key (some direction)).map fun created =>
        { created with objective := some (.row key) } := by
  simp only [Problem.createObjective, unaimed]

/-- A creation fails with what is wrong with it, and with nothing else. -/
theorem create_error_iff (fault : Fault) :
    creation.create problem = .error fault ↔ creation.Raises problem fault := by
  cases creation with
  | column key =>
      have taken := problem.contains_column_iff key
      constructor
      · intro fails
        simp only [create, Problem.createColumn] at fails
        split at fails
        next present =>
          cases fails
          exact .column key (taken.mp present)
        next => cases fails
      · rintro ⟨_, present⟩
        exact if_pos (taken.mpr present)
  | row key =>
      refine (createRow_error_iff problem key none fault).trans ⟨?_, ?_⟩
      · rintro ⟨taken, rfl⟩
        exact .row key taken
      · rintro ⟨⟩
        exact ⟨‹_›, rfl⟩
  | directed key direction =>
      refine (createRow_error_iff problem key (some direction) fault).trans ⟨?_, ?_⟩
      · rintro ⟨taken, rfl⟩
        exact .directed key direction taken
      · rintro ⟨⟩
        exact ⟨‹_›, rfl⟩
  | objective key direction =>
      rw [raises_objective_iff]
      cases aimed : problem.objective with
      | some aim => simp [create, createObjective_defined problem aim aimed, eq_comm]
      | none =>
          simp only [create, createObjective_undefined problem aimed,
            ← createRow_error_iff problem key (some direction) fault]
          cases problem.createRow key (some direction) <;> simp [Except.map]

theorem createRow_registers (kind : EntityKind) (isRow : kind.isRow = true) (key : String)
    (direction : Option Value) (created : Problem) (creates : problem.createRow key direction = .ok created) :
    problem.Registers kind key direction created ∧ created.objective = problem.objective := by
  obtain ⟨fresh, rfl⟩ := problem.createRow_ok key direction created creates
  exact ⟨problem.registers_row kind isRow key direction fresh, rfl⟩

/-- A creation that does not fail registers its entity. -/
theorem create_registers (created : Problem) (creates : creation.create problem = .ok created) :
    problem.Registers creation.kind creation.key creation.direction? created ∧
      created.objective = creation.aimAfter problem.objective := by
  cases creation with
  | column key =>
      obtain ⟨fresh, rfl⟩ := problem.createColumn_ok key created creates
      exact ⟨problem.registers_column key fresh, rfl⟩
  | row key => exact createRow_registers problem .row rfl key none created creates
  | directed key direction =>
      exact createRow_registers problem .objective rfl key (some direction) created creates
  | objective key direction =>
      cases aimed : problem.objective with
      | some aim =>
          rw [create, createObjective_defined problem aim aimed] at creates
          cases creates
      | none =>
          rw [create, createObjective_undefined problem aimed] at creates
          obtain ⟨row, made, rfl⟩ := map_ok creates
          obtain ⟨registers, same⟩ := createRow_registers problem .objective rfl key (some direction) row made
          exact ⟨registers.aimed key (same.trans aimed), rfl⟩

end Creation

section LookingUp

theorem written_fault (value : Value) (fault : Fault) (fails : value.written = .error fault) :
    ¬ fault.OfRegistration := by
  unfold Value.written at fails
  split at fails
  · cases fails
  · cases fails
    exact id
  · split at fails
    · cases fails
      exact id
    · cases fails

theorem mapM_written_fault (values : List Value) (fault : Fault)
    (fails : values.mapM Value.written = .error fault) : ¬ fault.OfRegistration := by
  induction values with
  | nil => cases fails
  | cons first rest ih =>
      rw [List.mapM_cons, bind_error_iff] at fails
      rcases fails with isFirst | ⟨text, -, fails⟩
      · exact written_fault first fault isFirst
      · rcases (bind_error_iff _ _ fault).mp fails with isLater | ⟨texts, -, fails⟩
        · exact ih isLater
        · cases fails

/-- A key that cannot be written is another matter than one that is taken. -/
theorem ofValues_fault (name : Value) (indices : List Value) (fault : Fault)
    (fails : Key.ofValues name indices = .error fault) : ¬ fault.OfRegistration := by
  rw [Key.ofValues, bind_error_iff] at fails
  rcases fails with isName | ⟨text, -, fails⟩
  · exact written_fault name fault isName
  · rcases (bind_error_iff _ _ fault).mp fails with isIndex | ⟨texts, -, fails⟩
    · exact mapM_written_fault indices fault isIndex
    · cases fails

inductive Problem.Gains (kind : EntityKind) (key : String) (before : Problem) : Problem → Prop where
  | there : before.Has kind (.text key) → Gains kind key before before
  | new (after : Problem) : before.Registers kind key none after → after.objective = before.objective →
      Gains kind key before after

theorem Problem.gains_ensure (problem : Problem) (kind : EntityKind) (key : String) :
    problem.Gains kind key (problem.ensure kind key) := by
  by_cases has : problem.Has kind (.text key)
  · rw [problem.ensure_of_has kind key has]
    exact .there has
  · cases isRow : kind.isRow with
    | true =>
        have fresh := mt (problem.contains_row_iff kind isRow key).mp has
        rw [Problem.ensure, isRow, if_pos rfl, Problem.ensureRow, if_neg fresh]
        exact .new _ (problem.registers_row kind isRow key none fresh) rfl
    | false =>
        cases kind.eq_column isRow
        have fresh := mt (problem.contains_column_iff key).mp has
        rw [Problem.ensure, isRow, if_neg Bool.false_ne_true, Problem.ensureColumn, if_neg fresh]
        exact .new _ (problem.registers_column key fresh) rfl

end LookingUp

namespace Session

variable (session : Session)

theorem step_creation (index : Nat) (creation : Creation) :
    session.step (creation.step index) =
      session.store index (session.problemAt index >>= fun problem => creation.create problem) creation.kind
        (.text creation.key) := by
  cases creation <;> rfl

/-- Either something is wrong with a creation and nothing changes, or it answers with a new entity. -/
theorem creation_ways (index : Nat) (problem : Problem) (found : session.problems[index]? = some problem)
    (creation : Creation) :
    (∃ fault, creation.Raises problem fault ∧ session.step (creation.step index) = session.fail fault) ∨
      ∃ created : Problem, problem.Registers creation.kind creation.key creation.direction? created ∧
        created.objective = creation.aimAfter problem.objective ∧
        (∀ fault, ¬ creation.Raises problem fault) ∧
        session.step (creation.step index) = (session.setProblem index created).answer
          (.entity ⟨index, creation.kind, .text creation.key⟩
            (.created creation.kind creation.key creation.direction?)) := by
  rw [step_creation, (problemAt_ok session index problem).mpr found, ok_bind]
  cases creates : creation.create problem with
  | error fault => exact Or.inl ⟨fault, (creation.create_error_iff problem fault).mp creates, rfl⟩
  | ok created =>
      obtain ⟨registers, aim⟩ := creation.create_registers problem created creates
      refine Or.inr ⟨created, registers, aim, fun fault raises => ?_, ?_⟩
      · cases creates.symm.trans ((creation.create_error_iff problem fault).mpr raises)
      · have has : created.Has creation.kind (.text creation.key) :=
          Option.isSome_iff_exists.mpr ⟨_, registers.shows⟩
        obtain ⟨on, view, stored, isRow, shown, isKind⟩ :=
          session.store_shows index problem created found creation.kind (.text creation.key) has
        have isCreated := registers.shows
        rw [← created.view?_congr creation.kind on isRow, shown] at isCreated
        cases isCreated
        have sameKind : on = creation.kind := by
          rw [← isKind]
          cases creation <;> rfl
        rw [stored, sameKind]

theorem step_lookUp_error (index : Nat) (problem : Problem) (found : session.problems[index]? = some problem)
    (kind : EntityKind) (name : Value) (indices : List Value) (fault : Fault)
    (unwritten : Key.ofValues name indices = .error fault) :
    session.step (.lookUp kind index name indices) = session.fail fault := by
  have fails (as : EntityKind) : session.ensure index as name indices = session.fail fault := by
    simp only [ensure, (problemAt_ok session index problem).mpr found, unwritten]
  cases kind with
  | column => exact fails .column
  | row | objective => exact fails .row

/-- A creation fails with what is wrong with it and changes nothing, or it registers its entity and answers with
it. -/
theorem creation_outcome (index : Nat) (problem : Problem) (found : session.problems[index]? = some problem)
    (creation : Creation) :
    let made := session.step (creation.step index)
    (∀ fault, made.2.answer = .error fault ↔ creation.Raises problem fault) ∧
      ((∃ fault, made.2.answer = .error fault) → made.1 = session) ∧
      ((∀ fault, ¬ creation.Raises problem fault) → ∃ created : Problem,
        made.1 = session.setProblem index created ∧
        problem.Registers creation.kind creation.key creation.direction? created ∧
        created.objective = creation.aimAfter problem.objective ∧
        made.2.answer = .ok (.entity ⟨index, creation.kind, .text creation.key⟩
          (.created creation.kind creation.key creation.direction?))) := by
  intro made
  rcases session.creation_ways index problem found creation with
    ⟨fault, raises, stays⟩ | ⟨created, registers, aim, clear, makes⟩
  · have failed : made = session.fail fault := stays
    refine ⟨fun other => ?_, fun _ => by rw [failed]; rfl, fun clear => absurd raises (clear fault)⟩
    rw [← creation.create_error_iff, (creation.create_error_iff problem fault).mpr raises, failed]
    simp [fail]
  · have isMade : made = _ := makes
    rw [isMade]
    refine ⟨fun fault => ?_, ?_, fun _ => ⟨created, rfl, registers, aim, rfl⟩⟩
    · exact iff_of_false (fun fails => by cases fails) (clear fault)
    · rintro ⟨fault, fails⟩
      cases fails

-- The objective counts before the key of the new one.
theorem objective_refused (index : Nat) (problem : Problem) (found : session.problems[index]? = some problem)
    (own key : String) (direction : Value) (aimed : problem.objective = some (.row own)) :
    (session.step (.objective index (.text key) direction)).2.answer = .error (.objectiveDefined own) :=
  ((session.creation_outcome index problem found (.objective key direction)).1 _).mpr
    (.defined key direction (.row own) aimed)

-- The row under the key of a new objective is the objective.
theorem row_of_objective (index : Nat) (problem : Problem) (found : session.problems[index]? = some problem)
    (key : String) (direction : Value)
    (clear : ∀ fault, ¬ (Creation.objective key direction).Raises problem fault) :
    let made := session.step (.objective index (.text key) direction)
    made.1.step (.row index (.text key) []) = made := by
  intro made
  rcases session.creation_ways index problem found (.objective key direction) with
    ⟨fault, raises, -⟩ | ⟨created, registers, -, -, makes⟩
  · exact absurd raises (clear fault)
  · have isMade : made = _ := makes
    have there : made.1.problems[index]? = some created := by
      rw [isMade]
      exact (session.getElem?_setProblem index index problem created found).trans (if_pos rfl)
    have again := made.1.lookUp_again index created there .row (.text key) [] key rfl .objective _ rfl
      registers.shows rfl
    rw [isMade] at again ⊢
    exact again

theorem lookUp_outcome (index : Nat) (problem : Problem) (found : session.problems[index]? = some problem)
    (kind : EntityKind) (name : Value) (indices : List Value) :
    let looked := session.step (.lookUp kind index name indices)
    (∀ fault, looked.2.answer = .error fault → ¬ fault.OfRegistration ∧ looked.1 = session) ∧
      ((∀ fault, looked.2.answer ≠ .error fault) → ∃ key gained, Key.ofValues name indices = .ok key ∧
        looked.1 = session.setProblem index gained ∧ problem.Gains kind key gained) := by
  intro looked
  cases composed : Key.ofValues name indices with
  | error fault =>
      have fails : looked = session.fail fault :=
        session.step_lookUp_error index problem found kind name indices fault composed
      rw [fails]
      refine ⟨fun other same => ⟨?_, rfl⟩, fun clear => absurd rfl (clear fault)⟩
      cases same
      exact ofValues_fault name indices fault composed
  | ok key =>
      obtain ⟨on, view, answers, -⟩ :=
        session.lookUp_answers index problem found kind name indices key composed
      have isLooked : looked = _ := answers
      rw [isLooked]
      exact ⟨fun fault fails => (by cases fails),
        fun _ => ⟨key, _, rfl, rfl, problem.gains_ensure kind key⟩⟩

/-- Registration fails exactly on collisions and then changes nothing. Constructing an entity fails if and only if
its key is taken; creating the objective fails if the problem has one already, whatever the key, and else if the key
is taken by a row, as that of the objective is. What does not fail adds one entity, about which nothing is declared,
and only the objective that was created as such becomes the objective, under whose key the row is then found.
Looking a column or a row up never collides: it finds the entity or adds it. -/
theorem registration_fails_on_collision (reachable : session.Reachable) (index : Nat) (problem : Problem)
    (found : session.problems[index]? = some problem) :
    (∀ creation : Creation,
      let made := session.step (creation.step index)
      (∀ fault, made.2.answer = .error fault ↔ creation.Raises problem fault) ∧
      ((∃ fault, made.2.answer = .error fault) → made.1 = session) ∧
      ((∀ fault, ¬ creation.Raises problem fault) → ∃ created : Problem,
        made.1 = session.setProblem index created ∧
        problem.Registers creation.kind creation.key creation.direction? created ∧
        created.objective = creation.aimAfter problem.objective ∧
        made.2.answer = .ok (.entity ⟨index, creation.kind, .text creation.key⟩
          (.created creation.kind creation.key creation.direction?)))) ∧
    (∀ own, problem.objective = some (.row own) → problem.Has .row (.text own) ∧
      ∀ key direction, (session.step (.objective index (.text key) direction)).2.answer =
        .error (.objectiveDefined own)) ∧
    (∀ key direction, (∀ fault, ¬ (Creation.objective key direction).Raises problem fault) →
      let made := session.step (.objective index (.text key) direction)
      made.1.step (.row index (.text key) []) = made) ∧
    ∀ kind name indices,
      let looked := session.step (.lookUp kind index name indices)
      (∀ fault, looked.2.answer = .error fault → ¬ fault.OfRegistration ∧ looked.1 = session) ∧
      ((∀ fault, looked.2.answer ≠ .error fault) → ∃ key gained, Key.ofValues name indices = .ok key ∧
        looked.1 = session.setProblem index gained ∧ problem.Gains kind key gained) := by
  refine ⟨session.creation_outcome index problem found, fun own aimed => ⟨?_, fun key direction => ?_⟩,
    session.row_of_objective index problem found, session.lookUp_outcome index problem found⟩
  · obtain ⟨row, there, -⟩ := (reachable.ordered index problem found).objective _ aimed
    exact (problem.has_row_iff .row rfl _).mpr ⟨row, there⟩
  · exact session.objective_refused index problem found own key direction aimed

section Blend

theorem blend_registration :
    let session := (run {} blendSteps).1
    (session.step (.newColumn 0 "oil")).2.answer = .error (.keyTaken "Column" "oil") ∧
      (session.step (.objective 0 (.text "stock") .null)).2.answer = .error (.objectiveDefined "cost") ∧
      (session.step (.newRow 0 "cost")).1 = session ∧
      ∃ created : Problem, (session.step (.newObjective 0 "waste" .null)).1 = session.setProblem 0 created ∧
        created.objective = blend.objective := by
  intro session
  have reachable : session.Reachable := Reachable.run {} blendSteps .start (by decide +kernel)
  have found : session.problems[0]? = some blend := blend_found
  clear_value session
  obtain ⟨creations, defined, -, -⟩ := registration_fails_on_collision session reachable 0 blend found
  have aimed : blend.objective = some (.row "cost") := by
    have isObjective : blend.isObjective "cost" = true := by decide +kernel
    unfold Problem.isObjective at isObjective
    split at isObjective
    next key isAim => rw [isAim, beq_iff_eq.mp isObjective]
    next => cases isObjective
  obtain ⟨isRow, refused⟩ := defined "cost" aimed
  obtain ⟨column, -, -⟩ := creations (.column "oil")
  obtain ⟨row, stays, -⟩ := creations (.row "cost")
  obtain ⟨-, -, makes⟩ := creations (.directed "waste" .null)
  refine ⟨(column _).mpr (.column "oil" (by decide +kernel)), refused "stock" .null,
    stays ⟨_, (row _).mpr (.row "cost" isRow)⟩, ?_⟩
  obtain ⟨created, next, -, aim, -⟩ := makes fun fault raises => by
    cases raises with
    | directed _ _ taken => exact absurd taken (by decide +kernel)
  exact ⟨created, next, aim⟩

end Blend

end Session

end LinearProgram
