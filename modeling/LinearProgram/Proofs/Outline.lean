import LinearProgram.Proofs.Prepared
import LinearProgram.Proofs.Reachable
import LinearProgram.Proofs.Slices
import Mathlib.Data.List.Basic

/-!
The formulation of a closed problem by keys alone. Numbers, triples, the search among them and the
shift by one between numbers and positions cancel out: each coefficient meets the variable of its
own column, and each expression its own row.
-/

namespace LinearProgram

section Positions

variable {α : Type}

theorem set_idxOf (keys : List String) (distinct : keys.Nodup) (place : String → α) (key : String)
    (item : α) :
    (keys.map place).set (keys.idxOf key) item =
      keys.map fun other => if other = key then item else place other := by
  refine List.ext_getElem (by simp) fun i inSet inMap => ?_
  have inside : i < keys.length := by simpa using inMap
  simp only [List.getElem_set, List.getElem_map]
  by_cases same : keys[i] = key
  · have position : keys.idxOf key = i := same ▸ distinct.idxOf_getElem i inside
    simp [position, same]
  · have elsewhere : keys.idxOf key ≠ i := by
      intro position
      subst position
      exact same (List.getElem_idxOf inside)
    simp [elsewhere, same]

-- An item at a key's position is found under the key's number.
theorem numbered_idxOf (keys : List String) (place : String → α) (key : String)
    (member : key ∈ keys) :
    numbered (keys.map place).toArray ((keys.idxOf key + 1 : Nat) : Int) = .ok (place key) := by
  have found : (keys.map place).toArray[keys.idxOf key]? = some (place key) := by
    have inside := List.idxOf_lt_length_of_mem member
    simp [List.getElem?_eq_getElem inside]
  show numbered _ (.ofNat (keys.idxOf key + 1)) = _
  simp only [numbered, found]

theorem pairwise_idxOf (keys : List String) (distinct : keys.Nodup) :
    keys.Pairwise fun first second => keys.idxOf first < keys.idxOf second := by
  refine List.pairwise_iff_getElem.mpr fun i j insideFirst insideSecond before => ?_
  rw [distinct.idxOf_getElem i insideFirst, distinct.idxOf_getElem j insideSecond]
  exact before

-- Blocks whose items carry the block's own mark: the items with a mark are its block.
theorem filter_flatMap_block {γ : Type} (entries : List (String × α))
    (distinct : (entries.map (·.1)).Nodup) (block : String × α → List γ) (mark : γ → Int)
    (number : String → Int) (marked : ∀ entry ∈ entries, ∀ item ∈ block entry, mark item = number entry.1)
    (separate : ∀ key ∈ entries.map (·.1), ∀ other ∈ entries.map (·.1),
      number key = number other → key = other)
    (entry : String × α) (member : entry ∈ entries) :
    (entries.flatMap block).filter (fun item => mark item == number entry.1) = block entry := by
  induction entries with
  | nil => cases member
  | cons first rest ih =>
      have fresh := List.nodup_cons.mp distinct
      have others : ∀ other ∈ first :: rest, other.1 ≠ entry.1 →
          (block other).filter (fun item => mark item == number entry.1) = [] := by
        intro other inside apart
        refine List.filter_eq_nil_iff.mpr fun item there same => apart ?_
        refine separate other.1 (List.mem_map_of_mem inside) entry.1 (List.mem_map_of_mem member) ?_
        rw [← marked other inside item there]
        simpa using same
      rw [List.flatMap_cons, List.filter_append]
      rcases List.mem_cons.mp member with same | inRest
      · subst same
        have whole : (block entry).filter (fun item => mark item == number entry.1) = block entry := by
          refine List.filter_eq_self.mpr fun item there => ?_
          simp [marked entry (by simp) item there]
        have nothing : (rest.flatMap block).filter (fun item => mark item == number entry.1) = [] := by
          rw [List.filter_flatMap, List.flatMap_eq_nil_iff]
          intro other inRest
          refine others other (List.mem_cons_of_mem _ inRest) fun same => fresh.1 ?_
          exact List.mem_map.mpr ⟨other, inRest, same⟩
        rw [whole, nothing, List.append_nil]
      · have apart : first.1 ≠ entry.1 := by
          intro same
          exact fresh.1 (List.mem_map.mpr ⟨entry, inRest, same.symm⟩)
        rw [others first (by simp) apart, List.nil_append]
        exact ih fresh.2 (fun other inside => marked other (List.mem_cons_of_mem _ inside))
          (fun key inKeys other inOthers => separate key (List.mem_cons_of_mem _ inKeys) other
            (List.mem_cons_of_mem _ inOthers)) inRest

def placeCost (costs : Array Binary64) (pair : Value × Binary64) : Except Fault (Array Binary64) := do
  match ← pair.1.toWhole with
  | .ofNat (n + 1) =>
      if n < costs.size then pure (costs.setIfInBounds n pair.2) else .error .indexOutOfRange
  | _ => .error .indexOutOfRange

-- Costs placed by number are the coefficients by key, zero where there is none.
theorem placeCosts_by_key (keys : List String) (distinct : keys.Nodup)
    (entries : List (String × Binary64)) (once : (entries.map (·.1)).Nodup)
    (registered : ∀ entry ∈ entries, entry.1 ∈ keys) :
    placeCosts keys.length
        (entries.map fun entry => (Value.int ((keys.idxOf entry.1 + 1 : Nat) : Int), entry.2)) =
      .ok (keys.map fun key => (entries.lookup key).getD .zero).toArray := by
  have start : Array.replicate keys.length Binary64.zero =
      (keys.map fun _ => Binary64.zero).toArray := by
    rw [List.map_const', List.toArray_replicate]
  have filled : ∀ place : String → Binary64,
      (entries.map fun entry => (Value.int ((keys.idxOf entry.1 + 1 : Nat) : Int), entry.2)).foldlM
        placeCost (keys.map place).toArray =
      .ok (keys.map fun key => (entries.lookup key).getD (place key)).toArray := by
    induction entries with
    | nil => intro place; rfl
    | cons first rest ih =>
        intro place
        obtain ⟨key, x⟩ := first
        have fresh := List.nodup_cons.mp once
        have inside := List.idxOf_lt_length_of_mem (registered (key, x) (by simp))
        have placed : placeCost (keys.map place).toArray
            (Value.int ((keys.idxOf key + 1 : Nat) : Int), x) =
            .ok (keys.map fun other => if other = key then x else place other).toArray := by
          show (if keys.idxOf key < (keys.map place).toArray.size then
            Except.ok ((keys.map place).toArray.setIfInBounds (keys.idxOf key) x)
            else .error Fault.indexOutOfRange) = _
          rw [if_pos (by simpa using inside), List.setIfInBounds_toArray, set_idxOf keys distinct]
        rw [List.map_cons, List.foldlM_cons, placed]
        refine (ih fresh.2 (fun entry member => registered entry (List.mem_cons_of_mem _ member))
          _).trans ?_
        refine congrArg (fun costs => Except.ok (List.toArray costs)) (List.map_congr_left ?_)
        intro other _
        rw [lookup_entry]
        by_cases same : other = key
        · subst same
          simp [lookup_of_fresh rest other fresh.1]
        · simp [same]
  rw [placeCosts, start]
  exact filled _

end Positions

namespace Row

def expression (row : Row) : Expression := row.cells.entries.map fun (column, x) => (x, column)

end Row

namespace Problem

variable (problem : Problem)

def cost (key : String) : Binary64 :=
  ((problem.objective?.bind fun (_, row) => row.cells.get? key)).getD .zero

/-- What an engine should get of a problem, written down without numbers. -/
def outline : Formulation :=
  { name := if problem.name.isTruthy then problem.name else .text ""
    columnKeys := problem.columns.keys
    columns := problem.columns.entries.map fun (key, column) =>
      { key, lower := column.engineBounds.1, upper := column.engineBounds.2
        cost := problem.cost key, type := column.variableType }
    direction := problem.direction?
    rowKeys := problem.constraints.map (·.1)
    constraints := problem.constraints.map fun (key, row) =>
      { key, expression := row.expression, lower := row.lower, upper := row.upper } }

/-- The sizes of containers are signed words of 64 bits. -/
structure Fits : Prop where
  columns : problem.columns.size < Value.wordEnd
  rows : problem.rows.size < Value.wordEnd

instance : Decidable problem.Fits :=
  decidable_of_iff (problem.columns.size < Value.wordEnd ∧ problem.rows.size < Value.wordEnd)
    ⟨fun ⟨columns, rows⟩ => ⟨columns, rows⟩, fun fits => ⟨fits.columns, fits.rows⟩⟩

def TextObjective : Prop := problem.beside? = none

instance : Decidable problem.TextObjective :=
  decidable_of_iff (problem.beside?.isNone = true) Option.isNone_iff_eq_none

theorem inOrder_of_textObjective (named : problem.TextObjective) : problem.orderFault? = none := by
  unfold TextObjective beside? at named
  unfold orderFault?
  split at named
  · cases named
  · rfl

def block (entry : String × Row) : List Triple :=
  entry.2.cells.entries.map fun (column, x) =>
    ⟨problem.constraintNumber entry.1, problem.columnNumber column, x⟩

theorem row_of_block (entry : String × Row) (triple : Triple) (inside : triple ∈ problem.block entry) :
    triple.row = problem.constraintNumber entry.1 := by
  obtain ⟨cell, -, rfl⟩ := List.mem_map.mp inside
  rfl

def outlineTriples : Triples :=
  { entries := (problem.constraints.flatMap problem.block).toArray
    objective := (problem.objective?.map fun (_, row) =>
      row.cells.entries.map fun (column, x) =>
        (Value.int (problem.columnNumber column), x)).getD [] }

theorem constraints_keys_nodup : (problem.constraints.map (·.1)).Nodup := by
  rw [keys_constraints]
  exact (ascending_keys_nodup _ problem.rows.ascending).filter _

/-- Items that are marked with the numbers of their constraints are in order, constraint after constraint, if
those of each constraint are. -/
theorem pairwise_flatMap_constraints {γ : Type} (items : String × Row → List γ) (mark : γ → Int)
    (order : γ → γ → Prop) (lower : ∀ first second, mark first < mark second → order first second)
    (marked : ∀ entry ∈ problem.constraints, ∀ item ∈ items entry, mark item = problem.constraintNumber entry.1)
    (each : ∀ entry ∈ problem.constraints, (items entry).Pairwise order) :
    (problem.constraints.flatMap items).Pairwise order := by
  apply List.pairwise_flatMap.mpr
  constructor
  · exact each
  · have numbers := List.pairwise_map.mp (pairwise_idxOf _ problem.constraints_keys_nodup)
    refine numbers.imp_of_mem fun {first second} isFirst isSecond below one inFirst other inSecond => ?_
    apply lower
    rw [marked first isFirst one inFirst, marked second isSecond other inSecond]
    exact Int.ofNat_lt.mpr (Nat.succ_lt_succ below)

theorem columnNumber_le (key : String) (registered : problem.columns.contains key = true) :
    problem.columnNumber key ≤ problem.columns.size := by
  have inside := List.idxOf_lt_length_of_mem ((Catalog.mem_keys_iff _ key).mpr registered)
  simpa [columnNumber, Catalog.keys, Catalog.size, Nat.succ_le_iff] using inside

theorem constraintNumber_le (key : String) (member : key ∈ problem.constraints.map (·.1)) :
    problem.constraintNumber key ≤ problem.rows.size := by
  have inside := List.idxOf_lt_length_of_mem member
  have fewer : problem.constraints.length ≤ problem.rows.entries.length := List.length_filter_le _ _
  rw [List.length_map] at inside
  simp only [constraintNumber, Catalog.size]
  omega

theorem mem_constraints_iff (key : String) (row : Row) : (key, row) ∈ problem.constraints ↔
    problem.rows.get? key = some row ∧ problem.isObjective key = false := by
  simp [constraints, List.mem_filter, Catalog.mem_entries_iff]

theorem row?_of_constraint (entry : String × Row) (member : entry ∈ problem.constraints) :
    problem.row? (.text entry.1) = some entry.2 :=
  (Catalog.mem_entries_iff _ _ _).mp (List.mem_filter.mp member).1

theorem row?_of_objective (key : Value) (row : Row) (aimed : problem.objective? = some (key, row)) :
    problem.row? key = some row := by
  obtain ⟨aim, isAim, aimed⟩ := Option.bind_eq_some_iff.mp aimed
  obtain ⟨found, there, same⟩ := Option.bind_eq_some_iff.mp aimed
  cases same
  exact there

theorem registered_of_cell (closed : problem.Closed) (key : Value) (row : Row)
    (found : problem.row? key = some row) (cell : String × Binary64) (member : cell ∈ row.cells.entries) :
    problem.columns.contains cell.1 = true :=
  closed key row cell.1 cell.2 found ((Catalog.mem_entries_iff _ _ _).mp member)

theorem typed_of_accepted (accepted : problem.columnRejection? = none) (entry : String × Column)
    (member : entry ∈ problem.columns.entries) : ∃ type, entry.2.type = .columnType type := by
  have passes := List.findSome?_eq_none_iff.mp accepted entry member
  dsimp only at passes
  split at passes
  next type isType => exact ⟨type, isType⟩
  next => cases passes
  next => cases passes

theorem toWord_int (n : Int) (atLeast : 0 ≤ n) (below : n < Value.wordEnd) :
    (Value.int n).toWord = .ok n := by
  have positive : 0 < Value.wordEnd := by decide
  show (if -Value.wordEnd ≤ n ∧ n < Value.wordEnd then Except.ok n else .error Fault.wordTooSmall) = _
  rw [if_pos]
  omega

section Numbered

theorem objective?_assignNumbers : ∃ number : Row → Value,
    problem.assignNumbers.objective? =
      problem.objective?.map fun (key, row) => (key, { row with number := number row }) := by
  unfold objective?
  cases aimed : problem.objective with
  | none => exact ⟨fun row => row.number, by simp [assignNumbers, aimed]⟩
  | some aim =>
      obtain ⟨number, found⟩ := row?_assignNumbers problem aim.key
      refine ⟨number, ?_⟩
      have same : problem.assignNumbers.objective = some aim := aimed
      simp only [same, Option.bind_eq_bind, Option.bind_some, found]
      cases problem.row? aim.key <;> rfl

theorem orderFault?_assignNumbers :
    problem.assignNumbers.orderFault? = problem.orderFault? := by
  have size : problem.assignNumbers.rows.size = problem.rows.size := by
    by_cases fault : problem.orderFault?.isSome = true
    · simp [assignNumbers, fault]
    · simp [assignNumbers, fault, Catalog.size, Catalog.entries_number]
  have aim : problem.assignNumbers.objective = problem.objective := rfl
  unfold orderFault?
  rw [aim, size]

theorem rejection?_assignNumbers : problem.assignNumbers.rejection? = problem.rejection? := by
  have columns : problem.assignNumbers.columnRejection? = problem.columnRejection? := by
    unfold columnRejection?
    rw [columns_assignNumbers, List.findSome?_map]
    rfl
  have direction : problem.assignNumbers.directionRejection? = problem.directionRejection? := by
    obtain ⟨number, found⟩ := objective?_assignNumbers problem
    unfold directionRejection?
    rw [found]
    cases problem.objective? <;> rfl
  simp only [rejection?, columns, direction]

theorem direction?_assignNumbers : problem.assignNumbers.direction? = problem.direction? := by
  obtain ⟨number, found⟩ := objective?_assignNumbers problem
  unfold direction?
  rw [found]
  cases problem.objective? <;> rfl

-- No coefficient of a closed row is lost, and each gets the number of its column.
theorem numberedCells_assignNumbers (row : Row)
    (registered : ∀ cell ∈ row.cells.entries, problem.columns.contains cell.1 = true) :
    problem.assignNumbers.numberedCells row =
      row.cells.entries.map fun cell => (Value.int (problem.columnNumber cell.1), cell.2) := by
  refine List.filterMap_eq_map_iff_forall_eq_some.mpr fun cell member => ?_
  obtain ⟨column, found⟩ := Option.isSome_iff_exists.mp (registered cell member)
  simp [get?_columns_assignNumbers, found]

variable (closed : problem.Closed)

include closed

theorem numberedEntries_assignNumbers (inOrder : problem.orderFault? = none) :
    problem.assignNumbers.numberedEntries =
      (problem.constraints.flatMap problem.block).map fun triple =>
        (Value.int triple.row, Value.int triple.column, triple.value) := by
  unfold numberedEntries
  rw [constraints_assignNumbers problem inOrder, List.flatMap_map, List.map_flatMap]
  refine List.flatMap_congr fun entry member => ?_
  have registered := registered_of_cell problem closed _ entry.2
    (row?_of_constraint problem entry member)
  have cells := numberedCells_assignNumbers problem
    { entry.2 with number := .int (problem.constraintNumber entry.1) } registered
  dsimp only at cells ⊢
  rw [cells]
  simp [block, Function.comp_def]

theorem objectiveEntries_assignNumbers :
    problem.assignNumbers.objectiveEntries = problem.outlineTriples.objective := by
  obtain ⟨number, found⟩ := objective?_assignNumbers problem
  unfold objectiveEntries outlineTriples
  rw [found]
  cases aimed : problem.objective? with
  | none => rfl
  | some aim =>
      obtain ⟨key, row⟩ := aim
      have there := row?_of_objective problem key row aimed
      exact numberedCells_assignNumbers problem _ (registered_of_cell problem closed key row there)

/-- Flattening a numbered problem lists its coefficients by the keys of rows and columns. -/
theorem flatten_assignNumbers (inOrder : problem.orderFault? = none) (fits : problem.Fits) :
    problem.assignNumbers.flatten = .ok problem.outlineTriples := by
  have ordered : problem.assignNumbers.checkOrder = .ok () := by
    simp [checkOrder, orderFault?_assignNumbers, inOrder]
  have bounds : ∀ triple ∈ problem.constraints.flatMap problem.block,
      (0 ≤ triple.row ∧ triple.row < Value.wordEnd) ∧ 0 ≤ triple.column ∧ triple.column < Value.wordEnd := by
    intro triple member
    obtain ⟨entry, inConstraints, inBlock⟩ := List.mem_flatMap.mp member
    obtain ⟨cell, inCells, rfl⟩ := List.mem_map.mp inBlock
    have registered := registered_of_cell problem closed _ entry.2
      (row?_of_constraint problem entry inConstraints) cell inCells
    have below := problem.columnNumber_le cell.1 registered
    have belowRows := problem.constraintNumber_le entry.1 (List.mem_map_of_mem inConstraints)
    have columns := fits.columns
    have rows := fits.rows
    dsimp only
    omega
  have rows : (problem.assignNumbers.numberedEntries).mapM (fun cell => cell.1.toWord) =
      .ok ((problem.constraints.flatMap problem.block).map Triple.row) := by
    rw [numberedEntries_assignNumbers problem closed inOrder, List.mapM_map]
    exact mapM_ok _ _ _ fun triple member =>
      toWord_int triple.row (bounds triple member).1.1 (bounds triple member).1.2
  have columns : (problem.assignNumbers.numberedEntries).mapM (fun cell => cell.2.1.toWord) =
      .ok ((problem.constraints.flatMap problem.block).map Triple.column) := by
    rw [numberedEntries_assignNumbers problem closed inOrder, List.mapM_map]
    exact mapM_ok _ _ _ fun triple member =>
      toWord_int triple.column (bounds triple member).2.1 (bounds triple member).2.2
  simp only [flatten, ordered, rows, columns, objectiveEntries_assignNumbers problem closed]
  rw [numberedEntries_assignNumbers problem closed inOrder]
  show Except.ok (Triples.mk _ _) = _
  rw [List.zip_map', List.zip_map', List.map_map]
  simp [outlineTriples, Function.comp_def]

omit closed in
theorem rows_ascend :
    problem.outlineTriples.entries.toList.Pairwise fun first second => first.row ≤ second.row := by
  apply problem.pairwise_flatMap_constraints problem.block Triple.row
  · exact fun _ _ below => Int.le_of_lt below
  · exact fun entry _ triple inside => problem.row_of_block entry triple inside
  · exact fun _ _ => List.pairwise_map.mpr (List.pairwise_of_forall fun _ _ => Int.le_refl _)

omit closed in
-- A row's number finds the row's own coefficients.
theorem rowEntries_outlineTriples (fits : problem.Fits) (entry : String × Row)
    (member : entry ∈ problem.constraints) :
    problem.outlineTriples.rowEntries .binary (problem.constraintNumber entry.1) = problem.block entry := by
  have small : ((problem.constraintNumber entry.1 : Nat) : Int) < Value.wordEnd := by
    have below := problem.constraintNumber_le entry.1 (List.mem_map_of_mem member)
    have rows := fits.rows
    omega
  have ascending := List.pairwise_map.mpr problem.rows_ascend
  have finds : Search.binary.FindsIn (problem.outlineTriples.entries.map Triple.row)
      (problem.constraintNumber entry.1) :=
    Search.binary_findsIn _ _ (by simpa using ascending) fun n _ => compareRow_of_small n _ small
  unfold Triples.rowEntries
  rw [finds.slice]
  refine filter_flatMap_block problem.constraints problem.constraints_keys_nodup problem.block
    Triple.row (fun key => problem.constraintNumber key) ?_ ?_ entry member
  · exact fun other _ triple inBlock => problem.row_of_block other triple inBlock
  · intro key inKeys other _ same
    refine (List.idxOf_inj inKeys).mp ?_
    simp only [constraintNumber] at same
    omega

omit closed in
theorem variableOf_assignNumbers (accepted : problem.columnRejection? = none)
    (entry : String × Column) (member : entry ∈ problem.columns.entries) :
    variableOf (problem.columns.keys.map problem.cost).toArray
        (entry.1, { entry.2 with number := .int (problem.columnNumber entry.1) }) =
      .ok { key := entry.1, lower := entry.2.engineBounds.1, upper := entry.2.engineBounds.2
            cost := problem.cost entry.1, type := entry.2.variableType } := by
  obtain ⟨type, isType⟩ := typed_of_accepted problem accepted entry member
  have cost := numbered_idxOf problem.columns.keys problem.cost entry.1
    (List.mem_map_of_mem member)
  have number : (Value.int ((problem.columnNumber entry.1 : Nat) : Int)).toWhole =
      .ok ((problem.columns.keys.idxOf entry.1 + 1 : Nat) : Int) := rfl
  simp only [variableOf, number, Column.variableType, isType, ok_bind, cost]
  rw [← isType]
  rfl

theorem constraintOf_assignNumbers (fits : problem.Fits) (entry : String × Row)
    (member : entry ∈ problem.constraints) :
    constraintOf problem.outlineTriples problem.columns.keys.toArray
        (entry.1, { entry.2 with number := .int (problem.constraintNumber entry.1) }) =
      .ok { key := entry.1, expression := entry.2.expression, lower := entry.2.lower
            upper := entry.2.upper } := by
  have number : (Value.int ((problem.constraintNumber entry.1 : Nat) : Int)).toWhole =
      .ok ((problem.constraintNumber entry.1 : Nat) : Int) := rfl
  have terms : (problem.block entry).mapM (fun triple => do
      pure (triple.value, ← numbered problem.columns.keys.toArray triple.column)) =
      Except.ok entry.2.expression := by
    rw [block, List.mapM_map]
    refine mapM_ok _ (fun (column, x) => (x, column)) entry.2.cells.entries fun cell inCells => ?_
    have registered := registered_of_cell problem closed _ entry.2
      (row?_of_constraint problem entry member) cell inCells
    have name := numbered_idxOf problem.columns.keys id cell.1
      ((Catalog.mem_keys_iff _ _).mpr registered)
    rw [List.map_id] at name
    simp only [Function.comp_apply, columnNumber, name, id_eq, ok_bind]
    rfl
  simp only [constraintOf, number, ok_bind, rowEntries_outlineTriples problem fits entry member, terms]
  rfl

theorem placeCosts_outlineTriples :
    placeCosts problem.columns.keys.length problem.outlineTriples.objective =
      .ok (problem.columns.keys.map problem.cost).toArray := by
  have distinct := ascending_keys_nodup _ problem.columns.ascending
  unfold cost outlineTriples
  cases aimed : problem.objective? with
  | none => exact placeCosts_by_key problem.columns.keys distinct [] (by simp) (by simp)
  | some aim =>
      obtain ⟨key, row⟩ := aim
      have found := row?_of_objective problem key row aimed
      refine placeCosts_by_key problem.columns.keys distinct row.cells.entries
        (ascending_keys_nodup _ row.cells.ascending) fun cell member => ?_
      exact (Catalog.mem_keys_iff _ _).mpr (registered_of_cell problem closed key row found cell member)

-- A numbered problem is formulated by its keys.
theorem formulate_assignNumbers (inOrder : problem.orderFault? = none) (fits : problem.Fits)
    (accepted : problem.columnRejection? = none) :
    problem.assignNumbers.formulate problem.outlineTriples = .ok problem.outline := by
  have size : problem.assignNumbers.columns.size = problem.columns.keys.length := by
    simp [Catalog.size, Catalog.keys, columns_assignNumbers]
  have columns : problem.assignNumbers.columns.entries.mapM
      (variableOf (problem.columns.keys.map problem.cost).toArray) = .ok problem.outline.columns := by
    rw [columns_assignNumbers, List.mapM_map]
    exact mapM_ok _ _ _ fun entry member => variableOf_assignNumbers problem accepted entry member
  have names : (problem.outline.columns.map (·.key)).toArray = problem.columns.keys.toArray := by
    simp [outline, Catalog.keys, Function.comp_def]
  have constraints : problem.assignNumbers.constraints.mapM
      (constraintOf problem.outlineTriples problem.columns.keys.toArray) =
        .ok problem.outline.constraints := by
    rw [constraints_assignNumbers problem inOrder, List.mapM_map]
    exact mapM_ok _ _ _ fun entry member => constraintOf_assignNumbers problem closed fits entry member
  have columnKeys : problem.assignNumbers.columns.keys = problem.columns.keys := by
    simp [Catalog.keys, columns_assignNumbers]
  have rowKeys : problem.assignNumbers.constraints.map (·.1) = problem.constraints.map (·.1) := by
    simp [constraints_assignNumbers problem inOrder]
  simp only [formulate, size, placeCosts_outlineTriples problem closed, ok_bind, columns, names,
    constraints, direction?_assignNumbers, columnKeys, rowKeys]
  rfl

-- Variables and constraints are named after the columns and rows that results go to.
omit closed in
theorem aligned_outline : problem.outline.Aligned := by
  constructor <;> simp [outline, Catalog.keys]

-- A closed problem that is accepted and has a title goes to the engine as its outline.
theorem prepare_assignNumbers (inOrder : problem.orderFault? = none) (fits : problem.Fits)
    (accepted : problem.rejection? = none) (title : String) (titled : problem.title = .ok title) :
    Solver.prepare problem.assignNumbers = .ok (.ok ⟨title, problem.outlineTriples, problem.outline⟩) := by
  have ordered : problem.assignNumbers.checkOrder = .ok () := by
    simp [checkOrder, orderFault?_assignNumbers, inOrder]
  have name : problem.assignNumbers.title = .ok title := titled
  have columns : problem.columnRejection? = none := (Option.or_eq_none_iff.mp accepted).1
  simp only [Solver.prepare, ordered, ok_bind, rejection?_assignNumbers, accepted, name,
    flatten_assignNumbers problem closed inOrder fits,
    formulate_assignNumbers problem closed inOrder fits columns]
  rfl

end Numbered

end Problem

namespace Solver

variable (solver : Solver) (problem : Problem) (engine : Engine)

/-- A problem that an engine accepts is solved by its outline. -/
theorem solve_accepted (closed : problem.Closed) (inOrder : problem.orderFault? = none)
    (fits : problem.Fits) (accepted : problem.rejection? = none) (title : String)
    (titled : problem.title = .ok title) :
    ∃ notice, solver.solve problem engine =
      { solver.run problem.assignNumbers title problem.outline engine with
        notices := notice :: (solver.run problem.assignNumbers title problem.outline engine).notices } := by
  have prepared := problem.prepare_assignNumbers closed inOrder fits accepted title titled
  obtain ⟨notice, solved⟩ := solver.solve_of_prepared problem engine _ prepared
  exact ⟨notice, solved⟩

/-- A name that is a text, or none, can be written out. -/
theorem titled_of_text (named : problem.name = .null ∨ ∃ name, problem.name = .text name) :
    ∃ title, problem.title = .ok title := by
  unfold Problem.title
  split
  · rcases named with null | ⟨name, text⟩
    · exact ⟨_, by rw [null]; rfl⟩
    · exact ⟨_, by rw [text]; rfl⟩
  · exact ⟨_, rfl⟩

/-- A problem whose name cannot be written out fails before the engine is called. -/
theorem solve_untitled (closed : problem.Closed) (inOrder : problem.orderFault? = none)
    (fits : problem.Fits) (accepted : problem.rejection? = none) (fault : Fault) (untitled : problem.title = .error fault) :
    solver.solve problem engine =
      { problem := problem.assignNumbers, solver, outcome := .error fault, calls := []
        messages := [], notices := [] } := by
  have ordered : problem.assignNumbers.checkOrder = .ok () := by
    simp [Problem.checkOrder, Problem.orderFault?_assignNumbers, inOrder]
  have name : problem.assignNumbers.title = .error fault := untitled
  have stopped : prepare problem.assignNumbers = .error fault := by
    simp only [prepare, ordered, ok_bind, Problem.rejection?_assignNumbers, accepted,
      problem.flatten_assignNumbers closed inOrder fits, name]
    rfl
  exact solver.solve_of_fault problem engine fault stopped

end Solver

end LinearProgram
