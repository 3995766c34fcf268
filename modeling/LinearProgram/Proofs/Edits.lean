import LinearProgram.Proofs.Reachable
import Mathlib.Logic.Relation

/-!
Edits of a problem. Whatever a step does to a problem, a coefficient apart, is made of a few elementary
edits. An edit never takes an entity away, never puts another one in its place, and writes no
coefficient.
-/

namespace LinearProgram

section Declared

def Attributes.declared (attributes : Attributes) : Attributes :=
  { lower := attributes.lower, upper := attributes.upper }

def Column.declared (column : Column) : Column :=
  { column with toAttributes := column.toAttributes.declared }

def Row.declared (row : Row) : Row :=
  { row with toAttributes := row.toAttributes.declared, cells := .empty }

def EntityView.declared : EntityView → EntityView
  | .column key found => .column key found.declared
  | .row key found => .row key found.declared

end Declared

section Keys

theorem EntityKind.eq_column (kind : EntityKind) (isColumn : kind.isRow = false) : kind = .column := by
  cases kind with
  | column => rfl
  | row | objective => cases isColumn

theorem Value.sameKey_self (key : Value) : key.sameKey key = true := by
  cases key <;> simp [Value.sameKey]

theorem Value.sameKey_comm (key other : Value) : key.sameKey other = other.sameKey key := by
  cases key with
  | text name =>
      cases other with
      | text another => simp only [Value.sameKey, Bool.beq_comm]
      | _ => rfl
  | _ => cases other <;> rfl

-- Keys that are one key lead to one row.
theorem Problem.row?_sameKey (problem : Problem) (key other : Value) (same : key.sameKey other = true) :
    problem.row? key = problem.row? other := by
  cases key with
  | text name =>
      cases other with
      | text another =>
          simp only [Value.sameKey, beq_iff_eq] at same
          rw [same]
      | _ => cases same
  | _ =>
      cases other with
      | text another => cases same
      | _ => rfl

end Keys

/-- A declaration of one entity, whichever reference leads to it. -/
def Covers (declares : EntityKind → Value → Prop) (kind : EntityKind) (key : Value) : Prop :=
  ∀ other otherKey, Problem.sameEntity other kind otherKey key = true → declares other otherKey

/-- An elementary edit of a problem. It gives no names but those it may give, and only the entities that it
declares get other bounds, another type or another direction. New entities and objectives come only where
something is built. -/
inductive Edit (builds : Prop) (names : Value → Prop) (declares : EntityKind → Value → Prop) :
    Problem → Problem → Prop where
  | rename (problem : Problem) (name : Value) : names name →
      Edit builds names declares problem { problem with name }
  | column (problem : Problem) (key : String) : builds → ¬ problem.columns.contains key = true →
      Edit builds names declares problem { problem with columns := problem.columns.insert key {} }
  | row (problem : Problem) (key : String) (direction : Option Value) : builds →
      ¬ problem.rows.contains key = true → Edit builds names declares problem (problem.addRow key { direction })
  | aim (problem : Problem) (key : String) (row : Row) : builds → problem.objective = none →
      problem.rows.get? key = some row → row.kind = .objective →
        Edit builds names declares problem { problem with objective := some (.row key) }
  | aside (problem : Problem) (name direction : Value) : builds → problem.objective = none → names name →
      name ≠ .null → (∀ key, name ≠ .text key) →
        Edit builds names declares problem
          { problem with
            objective := some (.beside name { direction := some direction } problem.arrivals.toList) }
  | changeColumn (problem : Problem) (key : String) (change : Column → Column) :
      Covers declares .column (.text key) ∨ (∀ column, (change column).declared = column.declared) →
        Edit builds names declares problem (problem.changeColumn key change)
  | changeRow (problem : Problem) (key : Value) (change : Row → Row) :
      (∀ row, (change row).cells = row.cells) →
      (∀ row, problem.row? key = some row → (change row).kind = row.kind) →
      Covers declares .row key ∨ (∀ row, (change row).declared = row.declared) →
        Edit builds names declares problem (problem.changeRow key change)
  | number (problem : Problem) : Edit builds names declares problem problem.assignNumbers

abbrev Edits (builds : Prop) (names : Value → Prop) (declares : EntityKind → Value → Prop) :
    Problem → Problem → Prop :=
  Relation.ReflTransGen (Edit builds names declares)

namespace Problem

def cell? (problem : Problem) (row : Value) (column : String) : Option Binary64 :=
  (problem.row? row).bind (·.cells.get? column)

/-- What a later problem has kept of an earlier one: every entity, as it was declared if nothing declared it
anew, and the objective. -/
structure Keeps (declares : EntityKind → Value → Prop) (before after : Problem) : Prop where
  column : ∀ key column, before.columns.get? key = some column →
    ∃ kept, after.columns.get? key = some kept ∧
      (¬ declares .column (.text key) → kept.declared = column.declared)
  row : ∀ key row, before.row? key = some row → ∃ kept, after.row? key = some kept ∧
    kept.kind = row.kind ∧
      ∀ kind, kind.isRow = true → ¬ declares kind key → kept.declared = row.declared
  aim : ∀ aim, before.objective = some aim → ∃ kept, after.objective = some kept ∧ kept.key = aim.key

section Keeping

variable {declares : EntityKind → Value → Prop}

theorem keeps_refl (problem : Problem) : Keeps declares problem problem :=
  ⟨fun _ column found => ⟨column, found, fun _ => rfl⟩,
    fun _ row found => ⟨row, found, rfl, fun _ _ _ => rfl⟩, fun aim aimed => ⟨aim, aimed, rfl⟩⟩

theorem Keeps.mono {more : EntityKind → Value → Prop} {before after : Problem}
    (keeps : Keeps declares before after) (allowed : ∀ kind key, declares kind key → more kind key) :
    Keeps more before after := by
  refine ⟨fun key column found => ?_, fun key row found => ?_, keeps.aim⟩
  · obtain ⟨kept, there, same⟩ := keeps.column key column found
    exact ⟨kept, there, fun spared => same (mt (allowed _ _) spared)⟩
  · obtain ⟨kept, there, kind, same⟩ := keeps.row key row found
    exact ⟨kept, there, kind, fun kind isRow spared => same kind isRow (mt (allowed _ _) spared)⟩

theorem Keeps.trans {first second third : Problem} (keeps : Keeps declares first second)
    (keepsOn : Keeps declares second third) : Keeps declares first third := by
  refine ⟨?_, ?_, ?_⟩
  · intro key column found
    obtain ⟨kept, there, same⟩ := keeps.column key column found
    obtain ⟨last, isLast, still⟩ := keepsOn.column key kept there
    exact ⟨last, isLast, fun spared => (still spared).trans (same spared)⟩
  · intro key row found
    obtain ⟨kept, there, kind, same⟩ := keeps.row key row found
    obtain ⟨last, isLast, lastKind, still⟩ := keepsOn.row key kept there
    exact ⟨last, isLast, lastKind.trans kind, fun kind isRow spared =>
      (still kind isRow spared).trans (same kind isRow spared)⟩
  · intro aim aimed
    obtain ⟨kept, there, same⟩ := keeps.aim aim aimed
    obtain ⟨last, isLast, still⟩ := keepsOn.aim kept there
    exact ⟨last, isLast, still.trans same⟩

/-- Whatever a reference shows, it goes on to show. -/
theorem Keeps.view {before after : Problem} (keeps : Keeps declares before after) (kind : EntityKind)
    (key : Value) (view : EntityView) (shown : before.view? kind key = some view) :
    ∃ kept, after.view? kind key = some kept ∧ kept.kind = view.kind ∧
      (¬ declares kind key → kept.declared = view.declared) := by
  cases kind with
  | column =>
      cases key with
      | text key =>
          obtain ⟨column, found, rfl⟩ := Option.map_eq_some_iff.mp shown
          obtain ⟨kept, there, same⟩ := keeps.column key column found
          refine ⟨.column key kept, by simp [view?, there], rfl, fun spared => ?_⟩
          exact congrArg (EntityView.column key) (same spared)
      | _ => cases shown
  | row | objective =>
      obtain ⟨row, found, rfl⟩ := Option.map_eq_some_iff.mp shown
      obtain ⟨kept, there, rowKind, same⟩ := keeps.row key row found
      refine ⟨.row key kept, by simp [view?, there], rowKind, fun spared => ?_⟩
      exact congrArg (EntityView.row key) (same _ rfl spared)

-- A change of the columns alone.
theorem keeps_of_columns {before after : Problem} (rows : after.row? = before.row?)
    (aims : after.objective = before.objective)
    (columns : ∀ key column, before.columns.get? key = some column →
      ∃ kept, after.columns.get? key = some kept ∧
        (¬ declares .column (.text key) → kept.declared = column.declared)) :
    Keeps declares before after :=
  ⟨columns, fun key row found => ⟨row, by rw [rows, found], rfl, fun _ _ _ => rfl⟩,
    fun aim aimed => ⟨aim, by rw [aims, aimed], rfl⟩⟩

theorem keeps_changeColumn (problem : Problem) (key : String) (change : Column → Column)
    (allowed : Covers declares .column (.text key) ∨
      ∀ column, (change column).declared = column.declared) :
    Keeps declares problem (problem.changeColumn key change) := by
  refine keeps_of_columns rfl rfl fun other column found => ?_
  simp only [changeColumn, Catalog.get?_modify]
  by_cases same : other = key
  · subst same
    refine ⟨change column, by simp [found], fun spared => ?_⟩
    rcases allowed with covered | kept
    · exact absurd (covered .column (.text other) (by simp [sameEntity, Value.sameKey])) spared
    · exact kept column
  · exact ⟨column, by simp [same, found], fun _ => rfl⟩

theorem keeps_changeRow (problem : Problem) (key : Value) (change : Row → Row)
    (kinds : ∀ row, problem.row? key = some row → (change row).kind = row.kind)
    (allowed : Covers declares .row key ∨ ∀ row, (change row).declared = row.declared) :
    Keeps declares problem (problem.changeRow key change) := by
  constructor
  case column =>
    intro other column found
    exact ⟨column, by simpa using found, fun _ => rfl⟩
  case row =>
    intro other row found
    rw [row?_changeRow, found]
    by_cases same : other.sameKey key = true
    · rw [if_pos same]
      have kind : (change row).kind = row.kind := kinds row (problem.row?_sameKey other key same ▸ found)
      refine ⟨change row, rfl, kind, fun kind isRow spared => ?_⟩
      rcases allowed with covered | kept
      · exact absurd (covered kind other (by rw [sameEntity, isRow, same]; rfl)) spared
      · exact kept row
    · rw [if_neg same]
      exact ⟨row, rfl, rfl, fun _ _ _ => rfl⟩
  case aim =>
    intro aim aimed
    unfold changeRow
    split
    · exact ⟨aim, aimed, rfl⟩
    · split
      next name row earlier isAim =>
        rw [isAim] at aimed
        cases aimed
        exact ⟨_, rfl, rfl⟩
      next => exact ⟨aim, aimed, rfl⟩

theorem keeps_assignNumbers (problem : Problem) : Keeps declares problem problem.assignNumbers := by
  constructor
  case column =>
    intro key column found
    refine ⟨{ column with number := .int (problem.columnNumber key) }, ?_, fun _ => rfl⟩
    rw [get?_columns_assignNumbers, found, Option.map_some]
  case row =>
    intro key row found
    obtain ⟨number, numbered⟩ := problem.row?_assignNumbers key
    refine ⟨{ row with number := number row }, ?_, rfl, fun _ _ _ => rfl⟩
    rw [numbered, found, Option.map_some]
  case aim => exact fun aim aimed => ⟨aim, aimed, rfl⟩

end Keeping

structure GainsRows (before after : Problem) : Prop where
  rows : ∀ key row, before.row? key = some row → after.row? key = some row
  bare : ∀ key row, before.row? key = none → after.row? key = some row → row.cells = .empty

section GainingRows

theorem gainsRows_addRow (problem : Problem) (key : String) (row : Row) (bare : row.cells = .empty)
    (fresh : ¬ problem.rows.contains key = true) : GainsRows problem (problem.addRow key row) := by
  have absent := Catalog.get?_of_not_contains problem.rows key fresh
  refine ⟨fun other found there => ?_, fun other found missing there => ?_⟩
  · rw [row?_addRow]
    split
    next same =>
      rw [problem.row?_sameKey other (.text key) same, row?_text, absent] at there
      cases there
    next => exact there
  · rw [row?_addRow] at there
    split at there
    · cases there
      exact bare
    · rw [missing] at there
      cases there

-- An objective may come to a problem that has none.
theorem gainsRows_aim (problem : Problem) (unaimed : problem.objective = none) (aim : Aim)
    (bare : ∀ name row earlier, aim = .beside name row earlier → row.cells = .empty) :
    GainsRows problem { problem with objective := some aim } := by
  refine ⟨fun key row there => ?_, fun key row missing there => ?_⟩
  · cases key with
    | text name => exact there
    | _ => simp [row?, beside?, unaimed] at there
  · cases key with
    | text name =>
        rw [row?_text] at there missing
        rw [missing] at there
        cases there
    | _ =>
        cases aim with
        | row name => simp [row?, beside?] at there
        | beside name aimed earlier =>
            simp only [row?, beside?, Option.map_some, Option.some.injEq] at there
            rw [← there]
            exact bare name aimed earlier rfl

theorem GainsRows.keeps {declares : EntityKind → Value → Prop} {before after : Problem}
    (gains : GainsRows before after) (columns : after.columns = before.columns)
    (aims : ∀ aim, before.objective = some aim → after.objective = some aim) :
    Keeps declares before after :=
  ⟨fun key column found => ⟨column, by rw [columns, found], fun _ => rfl⟩,
    fun key row found => ⟨row, gains.rows key row found, rfl, fun _ _ _ => rfl⟩,
    fun aim aimed => ⟨aim, aims aim aimed, rfl⟩⟩

theorem GainsRows.cell? {before after : Problem} (gains : GainsRows before after) (row : Value)
    (column : String) : after.cell? row column = before.cell? row column := by
  unfold Problem.cell?
  cases found : before.row? row with
  | some old => rw [gains.rows row old found]
  | none =>
      cases there : after.row? row with
      | none => rfl
      | some new => simp [gains.bare row new found there]

end GainingRows

theorem cell?_changeRow (problem : Problem) (key : Value) (change : Row → Row)
    (cells : ∀ row, (change row).cells = row.cells) (row : Value) (column : String) :
    (problem.changeRow key change).cell? row column = problem.cell? row column := by
  unfold cell?
  rw [row?_changeRow]
  split
  · cases problem.row? row with
    | none => rfl
    | some old => simp [cells]
  · rfl

theorem cell?_assignNumbers (problem : Problem) (row : Value) (column : String) :
    problem.assignNumbers.cell? row column = problem.cell? row column := by
  obtain ⟨number, numbered⟩ := problem.row?_assignNumbers row
  unfold cell?
  rw [numbered]
  cases problem.row? row <;> rfl

end Problem

section Keeping

variable {builds : Prop} {names : Value → Prop} {declares : EntityKind → Value → Prop} {before after : Problem}

theorem Edit.keeps (edit : Edit builds names declares before after) : before.Keeps declares after := by
  cases edit with
  | rename name _ =>
      exact Problem.keeps_of_columns rfl rfl fun _ column found => ⟨column, found, fun _ => rfl⟩
  | column key _ fresh =>
      refine Problem.keeps_of_columns rfl rfl fun other column found => ?_
      have apart : other ≠ key := by
        rintro rfl
        exact fresh (Catalog.contains_of_get? _ _ column found)
      exact ⟨column, by rw [Catalog.get?_insert, if_neg apart, found], fun _ => rfl⟩
  | row key direction _ fresh =>
      exact (before.gainsRows_addRow key _ rfl fresh).keeps rfl fun _ aimed => aimed
  | aim key row _ unaimed _ _ =>
      exact (before.gainsRows_aim unaimed (.row key) fun _ _ _ same => by cases same).keeps rfl
        fun aim aimed => by rw [unaimed] at aimed; cases aimed
  | aside name direction _ unaimed _ _ _ =>
      exact (before.gainsRows_aim unaimed _ fun _ _ _ same => by cases same; rfl).keeps rfl
        fun aim aimed => by rw [unaimed] at aimed; cases aimed
  | changeColumn key change allowed => exact before.keeps_changeColumn key change allowed
  | changeRow key change _ kinds allowed => exact before.keeps_changeRow key change kinds allowed
  | number => exact before.keeps_assignNumbers

theorem Edits.keeps (edits : Edits builds names declares before after) : before.Keeps declares after := by
  induction edits with
  | refl => exact Problem.keeps_refl before
  | tail _ edit ih => exact ih.trans edit.keeps

theorem Edit.cell? (edit : Edit builds names declares before after) (row : Value) (column : String) :
    after.cell? row column = before.cell? row column := by
  cases edit with
  | row key direction _ fresh => exact (before.gainsRows_addRow key _ rfl fresh).cell? row column
  | aim key _ _ unaimed _ _ =>
      exact (before.gainsRows_aim unaimed (.row key) fun _ _ _ same => by cases same).cell? row column
  | aside name direction _ unaimed _ _ _ =>
      exact (before.gainsRows_aim unaimed _ fun _ _ _ same => by cases same; rfl).cell? row column
  | changeRow key change cells _ _ => exact before.cell?_changeRow key change cells row column
  | number => exact before.cell?_assignNumbers row column
  | _ => rfl

theorem Edits.cell? (edits : Edits builds names declares before after) (row : Value) (column : String) :
    after.cell? row column = before.cell? row column := by
  induction edits with
  | refl => rfl
  | tail _ edit ih => exact (edit.cell? row column).trans ih

end Keeping

end LinearProgram
