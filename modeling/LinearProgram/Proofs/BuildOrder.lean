import LinearProgram.Proofs.Outline
import LinearProgram.Proofs.Touches

/-!
Steps that build a problem, in any order. Each step that succeeds is a touch, and writes at most one thing
about what it names.
-/

namespace LinearProgram

structure Reference where
  name : String
  indices : List Value := []

/-- Steps that build a problem: naming a column or a row, alone or with a call on it, and creating the
objective. -/
inductive Build where
  | column (named : Reference)
  | row (named : Reference)
  | type (column : Reference) (type : Value)
  | columnBounds (column : Reference) (lower upper : Value)
  | rowBounds (row : Reference) (lower upper : Value)
  | fromRow (row : Reference) (coefficient : Value) (column : Reference)
  | fromColumn (column : Reference) (coefficient : Value) (row : Reference)
  | objective (name : String) (direction : Value)

/-- What a step may write: a cell, or an attribute of a column or a row. -/
inductive Place where
  | type (column : String)
  | columnBounds (column : String)
  | rowBounds (row : String)
  | cell (row column : String)
  deriving DecidableEq

namespace Session

variable (session : Session) (index : Nat)

def call (names : Step) (member : Handle → Step) : Session × Reply :=
  let (named, reply) := session.step names
  match reply.answer with
  | .ok (.entity ref _) => named.step (member (some ref))
  | _ => (named, reply)

def build : Build → Session × Reply
  | .column named => session.step (.column index (.text named.name) named.indices)
  | .row named => session.step (.row index (.text named.name) named.indices)
  | .type column type =>
      session.call (.column index (.text column.name) column.indices) fun on => .setType on type
  | .columnBounds column lower upper =>
      session.call (.column index (.text column.name) column.indices) fun on => .setBounds on lower upper
  | .rowBounds row lower upper =>
      session.call (.row index (.text row.name) row.indices) fun on => .setBounds on lower upper
  | .fromRow row coefficient column =>
      session.call (.row index (.text row.name) row.indices) fun on =>
        .add on coefficient (.text column.name) column.indices
  | .fromColumn column coefficient row =>
      session.call (.column index (.text column.name) column.indices) fun on =>
        .add on coefficient (.text row.name) row.indices
  | .objective name direction => session.step (.objective index (.text name) direction)

def buildAll (session : Session) (index : Nat) : List Build → Session × List Reply
  | [] => (session, [])
  | first :: rest =>
      let (next, reply) := session.build index first
      let (last, replies) := buildAll next index rest
      (last, reply :: replies)

end Session

namespace Reference

def key? (named : Reference) : Option String :=
  (Key.ofValues (.text named.name) named.indices).toOption

end Reference

namespace Build

def bounds? (lower upper : Value) : Option (Value × Value) := do
  pure (← (Attributes.bound lower).toOption, ← (Attributes.bound upper).toOption)

def cell? (inRow ofColumn : Reference) (coefficient : Value) : Option Touch := do
  let rowKey ← inRow.key?
  let columnKey ← ofColumn.key?
  let x ← coefficient.toBinary64.toOption
  pure { column? := some (columnKey, {}), row? := some (rowKey, { cell? := some (columnKey, x) }) }

def touch? : Build → Option Touch
  | .column named => named.key?.map fun key => { column? := some (key, {}) }
  | .row named => named.key?.map fun key => { row? := some (key, {}) }
  | .type named given => named.key?.map fun key => { column? := some (key, { type? := some given }) }
  | .columnBounds named lower upper => do
      let key ← named.key?
      let bounds ← bounds? lower upper
      pure { column? := some (key, { bounds? := some bounds }) }
  | .rowBounds named lower upper => do
      let key ← named.key?
      let bounds ← bounds? lower upper
      pure { row? := some (key, { bounds? := some bounds }) }
  | .fromRow inRow coefficient ofColumn => cell? inRow ofColumn coefficient
  | .fromColumn ofColumn coefficient inRow => cell? inRow ofColumn coefficient
  | .objective name direction => some { row? := some (name, { direction? := some direction }) }

def place? : Build → Option Place
  | .type named _ => named.key?.map .type
  | .columnBounds named _ _ => named.key?.map .columnBounds
  | .rowBounds named _ _ => named.key?.map .rowBounds
  | .fromRow inRow _ ofColumn | .fromColumn ofColumn _ inRow => do
      pure (.cell (← inRow.key?) (← ofColumn.key?))
  | .column _ | .row _ | .objective .. => none

def SameOrder (first second : List Build) : Prop :=
  ∀ place, first.filter (fun step => decide (step.place? = some place)) =
    second.filter fun step => decide (step.place? = some place)

end Build

namespace Build

variable (first second : List Build)

theorem filterMap_of_sameOrder {γ : Type} (order : SameOrder first second) (place : Place)
    (written : Build → Option γ)
    (only : ∀ step x, written step = some x → step.place? = some place) :
    first.filterMap written = second.filterMap written := by
  have filtered : ∀ steps : List Build, (steps.filter fun step => decide (step.place? = some place)).filterMap
      written = steps.filterMap written := by
    intro steps
    rw [List.filterMap_filter]
    refine List.filterMap_congr fun step _ => ?_
    cases isWritten : written step with
    | none => simp
    | some x => simp [only step x isWritten]
  rw [← filtered first, ← filtered second, order place]

structure WritesAt (place? : Option Place) (touch : Touch) : Prop where
  type : ∀ key change x, touch.column? = some (key, change) → change.type? = some x →
    place? = some (.type key)
  columnBounds : ∀ key change x, touch.column? = some (key, change) → change.bounds? = some x →
    place? = some (.columnBounds key)
  rowBounds : ∀ key change x, touch.row? = some (key, change) → change.bounds? = some x →
    place? = some (.rowBounds key)
  cell : ∀ key change x, touch.row? = some (key, change) → change.cell? = some x →
    place? = some (.cell key x.1)

theorem writesAt_cell (inRow ofColumn : Reference) (coefficient : Value) (touch : Touch)
    (touches : cell? inRow ofColumn coefficient = some touch) :
    WritesAt (do pure (.cell (← inRow.key?) (← ofColumn.key?))) touch := by
  simp only [cell?, Option.bind_eq_bind, Option.bind_eq_some_iff] at touches
  obtain ⟨rowKey, isRow, columnKey, isColumn, x, -, made⟩ := touches
  cases made
  rw [isRow, isColumn]
  constructor <;> rintro _ _ _ ⟨⟩ ⟨⟩
  rfl

theorem writesAt_touch (step : Build) (touch : Touch) (touches : step.touch? = some touch) :
    WritesAt step.place? touch := by
  cases step with
  | column named =>
      obtain ⟨key, -, rfl⟩ := Option.map_eq_some_iff.mp touches
      constructor <;> rintro _ _ _ ⟨⟩ ⟨⟩
  | row named =>
      obtain ⟨key, -, rfl⟩ := Option.map_eq_some_iff.mp touches
      constructor <;> rintro _ _ _ ⟨⟩ ⟨⟩
  | type named given =>
      obtain ⟨key, isKey, rfl⟩ := Option.map_eq_some_iff.mp touches
      constructor <;> rintro _ _ _ ⟨⟩ ⟨⟩
      exact congrArg (Option.map Place.type) isKey
  | columnBounds named lower upper =>
      simp only [touch?, Option.bind_eq_bind, Option.bind_eq_some_iff] at touches
      obtain ⟨key, isKey, bounds, -, made⟩ := touches
      cases made
      constructor <;> rintro _ _ _ ⟨⟩ ⟨⟩
      exact congrArg (Option.map Place.columnBounds) isKey
  | rowBounds named lower upper =>
      simp only [touch?, Option.bind_eq_bind, Option.bind_eq_some_iff] at touches
      obtain ⟨key, isKey, bounds, -, made⟩ := touches
      cases made
      constructor <;> rintro _ _ _ ⟨⟩ ⟨⟩
      exact congrArg (Option.map Place.rowBounds) isKey
  | fromRow inRow coefficient ofColumn => exact writesAt_cell inRow ofColumn coefficient touch touches
  | fromColumn ofColumn coefficient inRow => exact writesAt_cell inRow ofColumn coefficient touch touches
  | objective name direction =>
      cases touches
      constructor <;> rintro _ _ _ ⟨⟩ ⟨⟩

end Build

theorem Touch.columnAt_eq_some (touch : Touch) (key : String) (change : ColumnChange)
    (here : touch.columnAt key = some change) : touch.column? = some (key, change) := by
  obtain ⟨⟨name, written⟩, isColumn, found⟩ := Option.bind_eq_some_iff.mp here
  split at found
  next same => cases found; rw [isColumn, same]
  next => cases found

theorem Touch.rowAt_eq_some (touch : Touch) (key : String) (change : RowChange)
    (here : touch.rowAt key = some change) : touch.row? = some (key, change) := by
  obtain ⟨⟨name, written⟩, isRow, found⟩ := Option.bind_eq_some_iff.mp here
  split at found
  next same => cases found; rw [isRow, same]
  next => cases found

namespace Build

variable (first second : List Build)

variable {γ : Type} (order : SameOrder first second)

include order

theorem filterMap_columnAt (place : String → Place) (written : ColumnChange → Option γ)
    (only : ∀ place? touch key change x, WritesAt place? touch → touch.column? = some (key, change) →
      written change = some x → place? = some (place key)) (key : String) :
    ((first.filterMap touch?).filterMap (·.columnAt key)).filterMap written =
      ((second.filterMap touch?).filterMap (·.columnAt key)).filterMap written := by
  simp only [List.filterMap_filterMap]
  refine filterMap_of_sameOrder first second order (place key) _ fun step x writes => ?_
  simp only [Option.bind_eq_some_iff] at writes
  obtain ⟨change, ⟨touch, isTouch, here⟩, isWritten⟩ := writes
  exact only step.place? touch key change x (writesAt_touch step touch isTouch)
    (touch.columnAt_eq_some key change here) isWritten

theorem filterMap_rowAt (place : String → Place) (written : RowChange → Option γ)
    (only : ∀ place? touch key change x, WritesAt place? touch → touch.row? = some (key, change) →
      written change = some x → place? = some (place key)) (key : String) :
    ((first.filterMap touch?).filterMap (·.rowAt key)).filterMap written =
      ((second.filterMap touch?).filterMap (·.rowAt key)).filterMap written := by
  simp only [List.filterMap_filterMap]
  refine filterMap_of_sameOrder first second order (place key) _ fun step x writes => ?_
  simp only [Option.bind_eq_some_iff] at writes
  obtain ⟨change, ⟨touch, isTouch, here⟩, isWritten⟩ := writes
  exact only step.place? touch key change x (writesAt_touch step touch isTouch)
    (touch.rowAt_eq_some key change here) isWritten

-- Permuted steps that keep the order of what they write at each place write alike.
theorem sameWrites_of_perm (perm : first.Perm second)
    (few : ((first.filterMap touch?).filterMap Touch.aim?).length ≤ 1) :
    SameWrites (first.filterMap touch?) (second.filterMap touch?) := by
  have touches := perm.filterMap touch?
  have empty : ∀ {φ : Type} (look : Touch → Option φ),
      (first.filterMap touch?).filterMap look = [] ↔ (second.filterMap touch?).filterMap look = [] := by
    intro φ look
    rw [← List.length_eq_zero_iff, ← List.length_eq_zero_iff, (touches.filterMap look).length_eq]
  constructor
  case columns => exact fun key => empty _
  case rows => exact fun key => empty _
  case aims => exact perm_eq_of_length_le_one _ _ (touches.filterMap Touch.aim?) few
  case types =>
    exact filterMap_columnAt first second order .type _
      fun _ _ key change x writes => writes.type key change x
  case columnBounds =>
    exact filterMap_columnAt first second order .columnBounds _
      fun _ _ key change x writes => writes.columnBounds key change x
  case rowBounds =>
    exact filterMap_rowAt first second order .rowBounds _
      fun _ _ key change x writes => writes.rowBounds key change x
  case cells =>
    intro key column
    have same := filterMap_rowAt first second order (fun key => .cell key column)
      (fun change => change.cell?.bind (RowChange.cellAt column))
    simp only [← List.filterMap_filterMap] at same
    refine same (fun place? touch key change x writes isRow celled => ?_) key
    obtain ⟨cell, isCell, found⟩ := Option.bind_eq_some_iff.mp celled
    unfold RowChange.cellAt at found
    split at found
    next here => rw [writes.cell key change cell isRow isCell, here]
    next => cases found

end Build

section Stored

theorem modify_congr {α : Type} (catalog : Catalog α) (key : String) (item : α) (change other : α → α)
    (found : catalog.get? key = some item) (same : change item = other item) :
    catalog.modify key change = catalog.modify key other := by
  simp [Catalog.modify, found, same]

theorem setBounds_of_ok (attributes : Attributes) (lower upper : Value)
    (succeeds : (attributes.setBounds lower upper).2.isOk = true) :
    ∃ bounds, Build.bounds? lower upper = some bounds ∧
      (attributes.setBounds lower upper).1 = { attributes with lower := bounds.1, upper := bounds.2 } := by
  unfold Attributes.setBounds at succeeds ⊢
  unfold Build.bounds?
  cases first : Attributes.bound lower with
  | error fault => simp [first, Except.isOk, Except.toBool] at succeeds
  | ok stored =>
      cases second : Attributes.bound upper with
      | error fault => simp [first, second, Except.isOk, Except.toBool] at succeeds
      | ok other => exact ⟨(stored, other), rfl, rfl⟩

namespace Problem

variable (problem : Problem) (key : String)

theorem touchColumn_empty : problem.touchColumn key {} = problem.ensureColumn key := by
  have kept := (problem.ensureColumn key).columns.modify_self key (ColumnChange.apply {}) fun _ _ => rfl
  simp only [touchColumn, changeColumn, kept]

-- What is written about a row but a direction does not make it the objective.
theorem touchRow_plain (change : RowChange) (plain : change.direction? = none) :
    problem.touchRow key change = (problem.ensureRow key).changeRow (.text key) change.apply := by
  have aimed : (problem.ensureRow key).objective = problem.objective := by
    unfold ensureRow
    split <;> rfl
  simp only [touchRow, plain, changeRow, ← aimed]
  rfl

theorem touchRow_empty : problem.touchRow key {} = problem.ensureRow key := by
  have kept := (problem.ensureRow key).rows.modify_self key (RowChange.apply {}) fun _ _ => rfl
  rw [touchRow_plain problem key {} rfl]
  simp only [changeRow, kept]

/-- A new objective is a row that is given a direction. -/
theorem touchRow_direction (direction : Value) (absent : ¬ problem.rows.contains key = true) :
    problem.touchRow key { direction? := some direction } =
      { problem.addRow key { direction := some direction } with objective := some (.row key) } := by
  have rows : (problem.rows.insert key {}).modify key (RowChange.apply { direction? := some direction }) =
      problem.rows.insert key { direction := some direction } := by
    refine Catalog.ext_get? fun other => ?_
    by_cases same : other = key <;> simp [Catalog.get?_modify, Catalog.get?_insert, same, RowChange.apply]
  unfold touchRow ensureRow
  rw [if_neg absent]
  simp only [addRow, changeRow, rows]
  rfl

/-- A coefficient that is set on a row and a column that are there. -/
theorem touch_cell (column : String) (x : Binary64) :
    problem.touch { column? := some (column, {}), row? := some (key, { cell? := some (column, x) }) } =
      ((problem.ensureColumn column).ensureRow key).setCoefficient (.text key) column x := by
  show (problem.touchColumn column {}).touchRow key _ = _
  rw [touchColumn_empty, touchRow_plain _ key _ rfl]
  rfl

theorem attributes?_ensureColumn :
    (problem.ensureColumn key).attributes? .column (.text key) =
      some ((problem.columns.get? key).getD {}).toAttributes :=
  attributes?_of_column _ key _ (by rw [get?_ensureColumn, if_pos rfl])

theorem attributes?_ensureRow (kind : EntityKind) (isRow : kind.isRow = true) :
    (problem.ensureRow key).attributes? kind (.text key) =
      some ((problem.rows.get? key).getD {}).toAttributes :=
  attributes?_of_row _ kind isRow key _ (by rw [get?_ensureRow, if_pos rfl])

theorem touchColumn_bounds (bounds : Value × Value) :
    (problem.ensureColumn key).changeAttributes .column (.text key)
        (fun _ => { ((problem.columns.get? key).getD {}).toAttributes with
          lower := bounds.1, upper := bounds.2 }) =
      problem.touchColumn key { bounds? := some bounds } := by
  have found := problem.get?_ensureColumn key key
  rw [if_pos rfl] at found
  generalize (problem.columns.get? key).getD {} = column at found ⊢
  have changed := modify_congr _ key column
    (fun other => { other with toAttributes :=
      { column.toAttributes with lower := bounds.1, upper := bounds.2 } })
    (ColumnChange.apply { bounds? := some bounds }) found rfl
  simp only [changeAttributes, touchColumn, changeColumn, changed]

theorem touchRow_bounds (kind : EntityKind) (isRow : kind.isRow = true) (bounds : Value × Value) :
    (problem.ensureRow key).changeAttributes kind (.text key)
        (fun _ => { ((problem.rows.get? key).getD {}).toAttributes with
          lower := bounds.1, upper := bounds.2 }) =
      problem.touchRow key { bounds? := some bounds } := by
  have found := problem.get?_ensureRow key key
  rw [if_pos rfl] at found
  generalize (problem.rows.get? key).getD {} = row at found ⊢
  have changed := modify_congr _ key row
    (fun other => { other with toAttributes :=
      { row.toAttributes with lower := bounds.1, upper := bounds.2 } })
    (RowChange.apply { bounds? := some bounds }) found rfl
  rw [changeAttributes_row _ kind isRow, touchRow_plain problem key _ rfl]
  simp only [changeRow, changed]

theorem ensureColumn_ensureRow (column : String) :
    (problem.ensureRow key).ensureColumn column = (problem.ensureColumn column).ensureRow key := by
  unfold ensureRow ensureColumn addRow
  by_cases row : problem.rows.contains key = true <;>
    by_cases named : problem.columns.contains column = true <;> simp [row, named]

end Problem

end Stored

namespace Problem

variable (problem : Problem)

def ensure (kind : EntityKind) (key : String) : Problem :=
  if kind.isRow then problem.ensureRow key else problem.ensureColumn key

end Problem

namespace Session

variable (session : Session) (index : Nat)

theorem setProblem_setProblem (one two : Problem) :
    (session.setProblem index one).setProblem index two = session.setProblem index two := by
  simp [setProblem]

theorem setProblem_self (problem : Problem) (there : session.problemAt index = .ok problem) :
    session.setProblem index problem = session := by
  unfold problemAt at there
  cases found : session.problems[index]? with
  | none => simp [found] at there
  | some other =>
      rw [found] at there
      cases there
      obtain ⟨inside, isItem⟩ := List.getElem?_eq_some_iff.mp found
      simp [setProblem, ← isItem]

theorem problemAt_setProblem (before after : Problem) (there : session.problemAt index = .ok before) :
    (session.setProblem index after).problemAt index = .ok after := by
  unfold problemAt setProblem at *
  cases found : session.problems[index]? with
  | none => simp [found] at there
  | some problem =>
      have inside := (List.getElem?_eq_some_iff.mp found).1
      simp [inside]

theorem present_of_ok (ref : EntityRef) (succeeds : (session.present ref).2.answer.isOk = true) :
    ∃ view, session.present ref = session.answer (.entity ref view) := by
  unfold present inspect at succeeds ⊢
  cases found : session.problemAt ref.problem with
  | error fault => rw [found] at succeeds; cases succeeds
  | ok problem =>
      rw [found] at succeeds
      cases viewed : problem.view? ref.kind ref.key with
      | none => simp [viewed, Bind.bind, Except.bind, Except.isOk, Except.toBool] at succeeds
      | some view => exact ⟨view, by simp [viewed, answer, Bind.bind, Except.bind]⟩

-- A row has the kind of a row, also when it is the objective.
theorem isRow_kind (row? : Option Row) (kind : EntityKind) (isRow : kind.isRow = true) :
    ((row?.map Row.kind).getD kind).isRow = kind.isRow := by
  cases row? with
  | none => rfl
  | some row =>
      rw [isRow, Option.map_some, Option.getD_some, Row.kind]
      split <;> rfl

/-- A reference that succeeds leads to its entity. -/
theorem ensure_of_ok (kind : EntityKind) (named : Reference)
    (succeeds : (session.ensure index kind (.text named.name) named.indices).2.answer.isOk = true) :
    ∃ problem key on view, session.problemAt index = .ok problem ∧ named.key? = some key ∧
      on.isRow = kind.isRow ∧
      session.ensure index kind (.text named.name) named.indices =
        (session.setProblem index (problem.ensure kind key)).answer
          (.entity ⟨index, on, .text key⟩ view) := by
  unfold ensure at succeeds ⊢
  unfold Reference.key?
  cases there : session.problemAt index with
  | error fault => rw [there] at succeeds; cases succeeds
  | ok problem =>
      rw [there] at succeeds
      cases isKey : Key.ofValues (.text named.name) named.indices with
      | error fault => rw [isKey] at succeeds; cases succeeds
      | ok key =>
          rw [isKey] at succeeds
          dsimp only [store] at succeeds ⊢
          obtain ⟨view, shown⟩ := present_of_ok _ _ succeeds
          refine ⟨problem, key, _, view, rfl, rfl, ?_, shown⟩
          split
          next isRow => exact isRow_kind _ kind isRow
          next => rfl

theorem call_of_ok (names : Step) (kind : EntityKind) (named : Reference) (member : Handle → Step)
    (isNaming : session.step names = session.ensure index kind (.text named.name) named.indices)
    (succeeds : (session.call names member).2.answer.isOk = true) :
    ∃ problem key on, session.problemAt index = .ok problem ∧ named.key? = some key ∧
      on.isRow = kind.isRow ∧
      session.call names member =
        (session.setProblem index (problem.ensure kind key)).step (member (some ⟨index, on, .text key⟩)) := by
  have first : (session.ensure index kind (.text named.name) named.indices).2.answer.isOk = true := by
    unfold call at succeeds
    rw [isNaming] at succeeds
    dsimp only at succeeds
    split at succeeds
    next reached => rw [reached]; rfl
    next => exact succeeds
  obtain ⟨problem, key, on, view, there, isKey, same, ensured⟩ :=
    session.ensure_of_ok index kind named first
  refine ⟨problem, key, on, there, isKey, same, ?_⟩
  unfold call
  rw [isNaming, ensured]
  rfl

section Members

variable (before made : Problem) (there : session.problemAt index = .ok before) (key : String)

include there

theorem setType_made (given : Value) :
    ((session.setProblem index made).step (.setType (some ⟨index, .column, .text key⟩) given)).1 =
      session.setProblem index (made.changeColumn key fun column => { column with type := given }) := by
  have isThere := session.problemAt_setProblem index before made there
  simp only [step, Session.on, changeColumn, store, isThere, Except.map]
  exact session.setProblem_setProblem index made _

theorem setBounds_made (on : EntityKind) (attributes : Attributes) (lower upper : Value)
    (found : made.attributes? on (.text key) = some attributes)
    (succeeds : ((session.setProblem index made).step
      (.setBounds (some ⟨index, on, .text key⟩) lower upper)).2.answer.isOk = true) :
    ∃ bounds, Build.bounds? lower upper = some bounds ∧
      ((session.setProblem index made).step (.setBounds (some ⟨index, on, .text key⟩) lower upper)).1 =
        session.setProblem index (made.changeAttributes on (.text key) fun _ =>
          { attributes with lower := bounds.1, upper := bounds.2 }) := by
  have isThere := session.problemAt_setProblem index before made there
  simp only [step, Session.on, setBounds, isThere, Problem.setBounds, found] at succeeds ⊢
  cases outcome : (attributes.setBounds lower upper).2 with
  | error fault => rw [outcome] at succeeds; cases succeeds
  | ok done =>
      obtain ⟨bounds, isBounds, stored⟩ := setBounds_of_ok attributes lower upper (by rw [outcome]; rfl)
      refine ⟨bounds, isBounds, ?_⟩
      rw [stored]
      exact session.setProblem_setProblem index made _

/-- A coefficient of a column in a row, given by the name of the one in a call on the other. -/
theorem add_made (on : EntityKind) (coefficient : Value) (named : Reference)
    (succeeds : ((session.setProblem index made).step
      (.add (some ⟨index, on, .text key⟩) coefficient (.text named.name)
        named.indices)).2.answer.isOk = true) :
    ∃ other x, named.key? = some other ∧ coefficient.toBinary64.toOption = some x ∧
      ((session.setProblem index made).step
        (.add (some ⟨index, on, .text key⟩) coefficient (.text named.name) named.indices)).1 =
          session.setProblem index
            (if on.isRow then (made.ensureColumn other).setCoefficient (.text key) other x
            else (made.ensureRow other).setCoefficient (.text other) key x) := by
  have isThere := session.problemAt_setProblem index before made there
  unfold Reference.key?
  simp only [step, Session.on, add, isThere, counterpart] at succeeds ⊢
  cases isKey : Key.ofValues (.text named.name) named.indices with
  | error fault => simp [isKey, Bind.bind, Except.bind, fail, Except.isOk, Except.toBool] at succeeds
  | ok other =>
      simp only [isKey, ok_bind] at succeeds ⊢
      cases converted : coefficient.toBinary64 with
      | error fault =>
          rw [converted] at succeeds
          cases isRow : on.isRow <;>
            simp [isRow, pure, Except.pure, fail, Except.isOk, Except.toBool] at succeeds
      | ok x =>
          refine ⟨other, x, rfl, rfl, ?_⟩
          cases isRow : on.isRow <;>
            simp [pure, Except.pure, answer, Value.display, setProblem_setProblem]

end Members

theorem store_of_ok (changed : Except Fault Problem) (kind : EntityKind) (key : Value)
    (succeeds : (session.store index changed kind key).2.answer.isOk = true) :
    ∃ problem, changed = .ok problem ∧
      (session.store index changed kind key).1 = session.setProblem index problem := by
  cases changed with
  | error fault => cases succeeds
  | ok problem => exact ⟨problem, rfl, rfl⟩

theorem createObjective_of_ok (problem created : Problem) (name : String) (direction : Value)
    (creates : problem.createObjective (.text name) direction = .ok created) :
    problem.objective = none ∧ created = problem.touchRow name { direction? := some direction } := by
  obtain ⟨unaimed, ⟨key, same, absent, rfl⟩ | ⟨notText, -⟩⟩ :=
    problem.createObjective_ok (.text name) direction created creates
  · cases same
    exact ⟨unaimed, (problem.touchRow_direction name direction absent).symm⟩
  · exact absurd rfl (notText name)

theorem objective_of_ok (name : String) (direction : Value)
    (succeeds : (session.step (.objective index (.text name) direction)).2.answer.isOk = true) :
    ∃ problem, session.problemAt index = .ok problem ∧ problem.objective = none ∧
      (session.step (.objective index (.text name) direction)).1 =
        session.setProblem index (problem.touchRow name { direction? := some direction }) := by
  obtain ⟨created, creates, after⟩ := session.store_of_ok index _ .objective (.text name) succeeds
  obtain ⟨problem, there, made⟩ := bind_ok creates
  obtain ⟨unaimed, rfl⟩ := createObjective_of_ok problem created name direction made
  exact ⟨problem, there, unaimed, after⟩

-- A building step that succeeds is a touch; it creates an objective only where there was none.
theorem build_of_ok (step : Build) (succeeds : (session.build index step).2.answer.isOk = true) :
    ∃ problem touch, session.problemAt index = .ok problem ∧ step.touch? = some touch ∧
      (touch.aim?.isSome = true → problem.objective = none) ∧
      (session.build index step).1 = session.setProblem index (problem.touch touch) := by
  cases step with
  | column named =>
      obtain ⟨problem, key, on, view, there, isKey, -, ensured⟩ :=
        session.ensure_of_ok index .column named succeeds
      refine ⟨problem, { column? := some (key, {}) }, there,
        by simp [Build.touch?, isKey], by simp [Touch.aim?], ?_⟩
      have made : problem.touch { column? := some (key, {}) } = problem.ensureColumn key :=
        problem.touchColumn_empty key
      rw [made]
      exact congrArg Prod.fst ensured
  | row named =>
      obtain ⟨problem, key, on, view, there, isKey, -, ensured⟩ :=
        session.ensure_of_ok index .row named succeeds
      refine ⟨problem, { row? := some (key, {}) }, there,
        by simp [Build.touch?, isKey], by simp [Touch.aim?], ?_⟩
      have made : problem.touch { row? := some (key, {}) } = problem.ensureRow key :=
        problem.touchRow_empty key
      rw [made]
      exact congrArg Prod.fst ensured
  | type named given =>
      obtain ⟨problem, key, on, there, isKey, isColumn, called⟩ :=
        session.call_of_ok index _ .column named (fun on => .setType on given) rfl succeeds
      have column : on = .column := by cases on <;> first | rfl | cases isColumn
      subst column
      refine ⟨problem, { column? := some (key, { type? := some given }) }, there,
        by simp [Build.touch?, isKey], by simp [Touch.aim?], ?_⟩
      exact (congrArg Prod.fst called).trans
        (session.setType_made index problem (problem.ensureColumn key) there key given)
  | columnBounds named lower upper =>
      obtain ⟨problem, key, on, there, isKey, isColumn, called⟩ :=
        session.call_of_ok index _ .column named (fun on => .setBounds on lower upper) rfl succeeds
      have built : session.build index (.columnBounds named lower upper) = _ := called
      rw [built] at succeeds ⊢
      have column : on = .column := by cases on <;> first | rfl | cases isColumn
      subst column
      obtain ⟨bounds, isBounds, after⟩ := session.setBounds_made index problem (problem.ensureColumn key)
        there key .column _ lower upper (problem.attributes?_ensureColumn key) succeeds
      rw [problem.touchColumn_bounds key bounds] at after
      refine ⟨problem, { column? := some (key, { bounds? := some bounds }) }, there,
        by simp [Build.touch?, isKey, isBounds], by simp [Touch.aim?], ?_⟩
      exact after
  | rowBounds named lower upper =>
      obtain ⟨problem, key, on, there, isKey, isRow, called⟩ :=
        session.call_of_ok index _ .row named (fun on => .setBounds on lower upper) rfl succeeds
      have built : session.build index (.rowBounds named lower upper) = _ := called
      rw [built] at succeeds ⊢
      obtain ⟨bounds, isBounds, after⟩ := session.setBounds_made index problem (problem.ensureRow key)
        there key on _ lower upper (problem.attributes?_ensureRow key on isRow) succeeds
      rw [problem.touchRow_bounds key on isRow bounds] at after
      refine ⟨problem, { row? := some (key, { bounds? := some bounds }) }, there,
        by simp [Build.touch?, isKey, isBounds], by simp [Touch.aim?], ?_⟩
      exact after
  | fromRow inRow coefficient ofColumn =>
      obtain ⟨problem, key, on, there, isKey, isRow, called⟩ := session.call_of_ok index _ .row inRow
        (fun on => .add on coefficient (.text ofColumn.name) ofColumn.indices) rfl succeeds
      have built : session.build index (.fromRow inRow coefficient ofColumn) = _ := called
      rw [built] at succeeds ⊢
      obtain ⟨other, x, isOther, isNumber, after⟩ := session.add_made index problem
        (problem.ensureRow key) there key on coefficient ofColumn succeeds
      refine ⟨problem, { column? := some (other, {}), row? := some (key, { cell? := some (other, x) }) },
        there, by simp [Build.touch?, Build.cell?, isKey, isOther, isNumber], by simp [Touch.aim?], ?_⟩
      rw [problem.touch_cell, ← problem.ensureColumn_ensureRow]
      rw [isRow, if_pos (by decide)] at after
      exact after
  | fromColumn ofColumn coefficient inRow =>
      obtain ⟨problem, key, on, there, isKey, isColumn, called⟩ := session.call_of_ok index _ .column
        ofColumn (fun on => .add on coefficient (.text inRow.name) inRow.indices) rfl succeeds
      have built : session.build index (.fromColumn ofColumn coefficient inRow) = _ := called
      rw [built] at succeeds ⊢
      obtain ⟨other, x, isOther, isNumber, after⟩ := session.add_made index problem
        (problem.ensureColumn key) there key on coefficient inRow succeeds
      refine ⟨problem, { column? := some (key, {}), row? := some (other, { cell? := some (key, x) }) },
        there, by simp [Build.touch?, Build.cell?, isKey, isOther, isNumber], by simp [Touch.aim?], ?_⟩
      rw [problem.touch_cell]
      rw [isColumn, if_neg (by decide)] at after
      exact after
  | objective name direction =>
      obtain ⟨problem, there, unaimed, after⟩ := session.objective_of_ok index name direction succeeds
      exact ⟨problem, _, there, rfl, fun _ => unaimed, after⟩

-- Building steps that all succeed are touches, and at most one of them creates an objective.
theorem buildAll_of_ok (steps : List Build) (problem : Problem)
    (there : session.problemAt index = .ok problem)
    (succeed : ∀ reply ∈ (session.buildAll index steps).2, reply.answer.isOk = true) :
    ((steps.filterMap Build.touch?).filterMap Touch.aim?).length ≤ 1 ∧
      (problem.objective ≠ none → (steps.filterMap Build.touch?).filterMap Touch.aim? = []) ∧
      (session.buildAll index steps).1 =
        session.setProblem index ((steps.filterMap Build.touch?).foldl Problem.touch problem) := by
  induction steps generalizing session problem with
  | nil => exact ⟨Nat.zero_le 1, fun _ => rfl, (session.setProblem_self index problem there).symm⟩
  | cons first rest ih =>
      have head := succeed (session.build index first).2 List.mem_cons_self
      obtain ⟨before, touch, isThere, isTouch, unaimed, after⟩ := session.build_of_ok index first head
      rw [there] at isThere
      cases isThere
      have tail := ih (session.build index first).1 (problem.touch touch)
        (after ▸ session.problemAt_setProblem index problem _ there)
        fun reply inside => succeed reply (List.mem_cons_of_mem _ inside)
      obtain ⟨few, none, last⟩ := tail
      rw [List.filterMap_cons_some isTouch, List.foldl_cons]
      rw [problem.objective_touch touch] at none
      refine ⟨?_, fun aimed => ?_, ?_⟩
      · cases creates : touch.aim? with
        | none =>
            rw [List.filterMap_cons_none creates]
            exact few
        | some aim =>
            rw [List.filterMap_cons_some creates, none (by simp [creates])]
            exact Nat.le_refl 1
      · cases creates : touch.aim? with
        | none =>
            rw [List.filterMap_cons_none creates]
            exact none (by simpa [creates] using aimed)
        | some aim => exact absurd (unaimed (by simp [creates])) aimed
      · rw [← session.setProblem_setProblem index (problem.touch touch), ← after]
        exact last

/-- Build order does not matter. Building steps in two orders, in which all of them succeed and what is
written in one place is written in the same order, lead to sessions that differ in nothing but the order
in which rows came. So whatever looks at a problem, numbers it or solves it from then on answers alike. -/
theorem build_order (first second : List Build) (perm : first.Perm second)
    (order : Build.SameOrder first second)
    (succeed : ∀ reply ∈ (session.buildAll index first).2, reply.answer.isOk = true)
    (succeeds : ∀ reply ∈ (session.buildAll index second).2, reply.answer.isOk = true) :
    (session.buildAll index first).1.forget = (session.buildAll index second).1.forget ∧
      ∀ later : List Step, (∀ step ∈ later, step.observes = true) →
        ((session.buildAll index first).1.run later).2 =
          ((session.buildAll index second).1.run later).2 := by
  have same : (session.buildAll index first).1.forget = (session.buildAll index second).1.forget := by
    cases there : session.problemAt index with
    | error fault =>
        cases first with
        | nil => rw [perm.nil_eq]
        | cons step rest =>
            obtain ⟨problem, -, isThere, -⟩ := session.build_of_ok index step (succeed _ List.mem_cons_self)
            rw [there] at isThere
            cases isThere
    | ok problem =>
        obtain ⟨few, -, one⟩ := session.buildAll_of_ok index first problem there succeed
        obtain ⟨-, -, two⟩ := session.buildAll_of_ok index second problem there succeeds
        have alike := forget_foldl_touch _ _
          (Build.sameWrites_of_perm first second order perm few) problem
        rw [one, two, ← setProblem_forget, ← setProblem_forget, alike]
  exact ⟨same, fun later observing => replies_of_forget _ _ same later observing⟩

end Session

section Mix

-- Steps may change places with steps that write elsewhere.
theorem Build.sameOrder_of_apart (steps others : List Build)
    (apart : ∀ step ∈ steps, ∀ other ∈ others, step.place? = none ∨ step.place? ≠ other.place?) :
    SameOrder (steps ++ others) (others ++ steps) := by
  intro place
  rw [List.filter_append, List.filter_append]
  by_cases here : ∃ step ∈ steps, step.place? = some place
  · obtain ⟨step, inside, isPlace⟩ := here
    have none : others.filter (fun other => decide (other.place? = some place)) = [] := by
      refine List.filter_eq_nil_iff.mpr fun other member same => ?_
      rcases apart step inside other member with nowhere | differs
      · rw [isPlace] at nowhere
        cases nowhere
      · exact differs (isPlace.trans (of_decide_eq_true same).symm)
    rw [none, List.append_nil, List.nil_append]
  · have none : steps.filter (fun step => decide (step.place? = some place)) = [] := by
      refine List.filter_eq_nil_iff.mpr fun step member same => ?_
      exact here ⟨step, member, of_decide_eq_true same⟩
    rw [none, List.append_nil, List.nil_append]

def mixRows : List Build :=
  [.objective "cost" (.direction .minimize), .fromRow ⟨"cost", []⟩ (.int 3) ⟨"oil", [.int 1]⟩,
    .fromRow ⟨"capacity", []⟩ (.int 2) ⟨"oil", [.int 1]⟩, .rowBounds ⟨"capacity", []⟩ .null (.int 50)]

def mixColumns : List Build :=
  [.type ⟨"oil", [.int 1]⟩ (.columnType .float), .columnBounds ⟨"oil", [.int 1]⟩ (.int 0) (.int 40),
    .fromColumn ⟨"water", []⟩ (.int 5) ⟨"capacity", []⟩, .type ⟨"water", []⟩ (.columnType .integer),
    .row ⟨"stock", []⟩]

def mixSession : Session := { problems := [{ name := .text "mix" }], solvers := [{}] }

theorem mix_build_order :
    ((mixSession.buildAll 0 (mixRows ++ mixColumns)).1.run [.listing 0, .flatten 0, .solve 0 0 plainAnswers]).2 =
      ((mixSession.buildAll 0 (mixColumns ++ mixRows)).1.run [.listing 0, .flatten 0, .solve 0 0 plainAnswers]).2 := by
  have alike := mixSession.build_order 0 (mixRows ++ mixColumns) (mixColumns ++ mixRows)
    List.perm_append_comm (Build.sameOrder_of_apart _ _ (by decide +kernel)) (by decide +kernel)
    (by decide +kernel)
  exact alike.2 _ (by decide)

end Mix

end LinearProgram
