import LinearProgram.Proofs.Creations
import LinearProgram.Proofs.LastWrite
import LinearProgram.Proofs.Registered
import Mathlib.Data.List.Nodup
import Mathlib.Data.List.Pairwise

/-!
Problems and the tables behind them. While no key is assigned, the columns, rows, objective and coefficients of a
problem are those that its tables hold: what a step does to a problem, the action that it is does to the tables.
-/

namespace LinearProgram

section Keys

theorem Value.sameKey_iff (key other : Value) :
    key.sameKey other = true ↔ ∀ name, key = .text name ↔ other = .text name := by
  cases key with
  | text one =>
      cases other with
      | text two =>
          simp only [sameKey, beq_iff_eq, Value.text.injEq]
          exact ⟨fun same name => by rw [same], fun both => ((both one).mp rfl).symm⟩
      | _ => simp [sameKey]
  | _ => cases other <;> simp [sameKey]

theorem Value.sameKey_congr (one key other : Value) (same : key.sameKey other = true) :
    one.sameKey key = one.sameKey other := by
  rw [Bool.eq_iff_iff, sameKey_iff, sameKey_iff]
  exact forall_congr' fun name => by rw [(sameKey_iff key other).mp same name]

theorem Value.eq_text_of_sameKey (key : Value) (name : String) (same : key.sameKey (.text name) = true) :
    key = .text name :=
  ((sameKey_iff key (.text name)).mp same name).mpr rfl

end Keys

namespace Problem

theorem SameFrame.trans {first second third : Problem} (same : SameFrame first second)
    (further : SameFrame second third) : SameFrame first third :=
  ⟨further.arrivals.trans same.arrivals, fun key => (further.rows key).trans (same.rows key),
    further.aim.trans same.aim⟩

theorem SameFrame.symm {before after : Problem} (same : SameFrame before after) : SameFrame after before :=
  ⟨same.arrivals.symm, fun key => (same.rows key).symm, same.aim.symm⟩

/-- A row of some kind that stands under a key in a problem. -/
def HasRow (problem : Problem) (key : Value) (kind : EntityKind) : Prop :=
  ∃ row, (key, row) ∈ problem.allRows ∧ row.kind = kind

theorem SameFrame.hasRow {before after : Problem} (same : SameFrame before after) (ordered : before.Ordered)
    (kinds : ∀ key row kept, before.row? key = some row → after.row? key = some kept → kept.kind = row.kind)
    (key : Value) (kind : EntityKind) (has : before.HasRow key kind) : after.HasRow key kind := by
  obtain ⟨row, inside, rfl⟩ := has
  have found := ordered.row?_of_mem key row inside
  rcases (before.mem_allRows_iff key row).mp inside with ⟨name, rfl, there⟩ | aside
  · have registered := (same.rows name).trans (Catalog.contains_of_get? _ name row there)
    obtain ⟨kept, isKept⟩ := Option.isSome_iff_exists.mp registered
    exact ⟨kept, (after.mem_allRows_iff _ kept).mpr (Or.inl ⟨name, rfl, isKept⟩),
      kinds (.text name) row kept there isKept⟩
  · obtain ⟨earlier, aimed⟩ := (before.beside?_eq_some_iff key row).mp aside
    have bare := same.aim
    rw [aimed, Option.map_some, Option.map_eq_some_iff] at bare
    obtain ⟨aim, isAim, sameBare⟩ := bare
    cases aim with
    | row other => cases sameBare
    | beside name kept others =>
        cases sameBare
        have isAside := (after.beside?_eq_some_iff key kept).mpr ⟨_, isAim⟩
        have isKept : after.row? key = some kept := by
          rw [after.row?_of_notText key (ordered.beside_notText key row aside), isAside]
          rfl
        exact ⟨kept, (after.mem_allRows_iff key kept).mpr (Or.inr isAside), kinds key row kept found isKept⟩

theorem SameFrame.hasRow_iff {declares : EntityKind → Value → Prop} {before after : Problem}
    (same : SameFrame before after) (keeps : before.Keeps declares after) (ordered : before.Ordered) (key : Value)
    (kind : EntityKind) : after.HasRow key kind ↔ before.HasRow key kind := by
  have kinds (key : Value) (row kept : Row) (found : before.row? key = some row)
      (isKept : after.row? key = some kept) : kept.kind = row.kind := by
    obtain ⟨other, isOther, sameKind, -⟩ := keeps.row key row found
    cases isKept.symm.trans isOther
    exact sameKind
  exact ⟨same.symm.hasRow (same.ordered keeps ordered)
      (fun key kept row isKept found => (kinds key row kept found isKept).symm) key kind,
    same.hasRow ordered kinds key kind⟩

theorem SameFrame.aimKey {before after : Problem} (same : SameFrame before after) :
    after.objective.map Aim.key = before.objective.map Aim.key := by
  have bare (aim : Aim) : aim.bare.key = aim.key := by cases aim <;> rfl
  have keys := congrArg (Option.map Aim.key) same.aim
  simpa only [Option.map_map, Function.comp_def, bare] using keys

theorem ordered_ensure (problem : Problem) (kind : EntityKind) (key : String) (ordered : problem.Ordered) :
    (problem.ensure kind key).Ordered := by
  have edits : Edits True (fun _ => False) (fun _ _ => False) problem (problem.ensure kind key) := by
    unfold ensure
    split
    · exact problem.edits_ensureRow key trivial
    · exact problem.edits_ensureColumn key trivial
  exact edits.ordered ordered

theorem createObjective_aside (problem : Problem) (unaimed : problem.objective = none) (name direction : Value)
    (notText : ∀ text, name ≠ .text text) :
    problem.createObjective name direction =
      if name.isKey then
        .ok { problem with objective := some (.beside name { direction := some direction } problem.arrivals.toList) }
      else .error (.notHashable name.kindName) := by
  simp only [createObjective, unaimed]

end Problem

section Quiet

variable {names : Value → Prop} {declares : EntityKind → Value → Prop} {before after : Problem}

theorem Edit.quiet (edit : Edit False names declares before after) :
    Problem.SameFrame before after ∧ ∀ name, after.columns.contains name = before.columns.contains name := by
  cases edit with
  | rename name _ => exact ⟨before.sameFrame_columns name before.columns, fun _ => rfl⟩
  | changeColumn key change _ =>
      refine ⟨before.sameFrame_columns before.name _, fun name => ?_⟩
      simp only [Problem.changeColumn, Catalog.contains, Catalog.get?_modify]
      split
      next same => rw [same, Option.isSome_map]
      next => rfl
  | changeRow key change _ _ _ => exact ⟨before.sameFrame_changeRow key change, fun name => by simp⟩
  | number =>
      refine ⟨before.sameFrame_assignNumbers, fun name => ?_⟩
      rw [Catalog.contains, Problem.get?_columns_assignNumbers, Option.isSome_map]
      rfl
  | column _ builds _ | row _ _ builds _ | aim _ _ builds _ _ _ | aside _ _ builds _ _ _ _ => exact builds.elim

theorem Edits.quiet (edits : Edits False names declares before after) :
    Problem.SameFrame before after ∧ ∀ name, after.columns.contains name = before.columns.contains name := by
  induction edits with
  | refl => exact ⟨⟨rfl, fun _ => rfl, rfl⟩, fun _ => rfl⟩
  | tail _ edit ih =>
      exact ⟨ih.1.trans edit.quiet.1, fun name => (edit.quiet.2 name).trans (ih.2 name)⟩

end Quiet

namespace Tables

variable {loose : Nat → Prop} {tables : Tables} {entities others : List Entity} {index : Nat} {problem : Problem}

/-- The same columns and rows under the same keys, rows of the same kinds, the same objective and the same
coefficients. -/
structure Shows (tables : Tables) (entities : List Entity) (problem : Problem) : Prop where
  columns : ∀ key, (∃ entity, (key, entity) ∈ tables.columns) ↔
    ∃ name, key = .text name ∧ problem.columns.contains name = true
  rows : ∀ key kind, (∃ entity held, (key, entity) ∈ tables.rows ∧ entities[entity]? = some held ∧
    held.kind = kind) ↔ problem.HasRow key kind
  objective : ∀ key entity, (key, entity) ∈ tables.rows →
    (tables.objective = some entity ↔ problem.objective.map Aim.key = some key)
  cells : ∀ key row name column, (key, row) ∈ tables.rows → (.text name, column) ∈ tables.columns →
    tables.cell? row column = problem.cell? key name

theorem shows_empty (name : Value) : Shows {} entities { name } where
  columns key := by simp [Catalog.contains]
  rows key kind := by
    constructor
    · rintro ⟨entity, held, member, -⟩
      cases member
    · rintro ⟨row, inside, -⟩
      cases inside
  objective key entity member := by cases member
  cells key row name column member := by cases member

theorem Sound.same_iff (sound : tables.Sound loose entities index) (isRow : Bool) {key other : Value}
    {entity another : Nat} (one : (key, entity) ∈ tables.table isRow)
    (two : (other, another) ∈ tables.table isRow) : entity = another ↔ key.sameKey other = true := by
  constructor
  · rintro rfl
    cases List.inj_on_of_nodup_map (sound.once isRow) one two rfl
    exact key.sameKey_self
  · intro same
    by_contra apart
    have symmetric : Std.Symm fun one other : Value × Nat => one.1.sameKey other.1 = false :=
      ⟨fun first second distinct => by rw [Value.sameKey_comm, distinct]⟩
    have strange := (sound.keys isRow).forall one two (by simp [apart])
    rw [same] at strange
    cases strange

theorem Sound.find?_eq_some_iff (sound : tables.Sound loose entities index) (isRow : Bool) (key : Value)
    (entity : Nat) : tables.find? isRow key = some entity ↔
      ∃ own, (own, entity) ∈ tables.table isRow ∧ own.sameKey key = true := by
  refine ⟨mem_of_find? isRow key entity, fun ⟨own, member, same⟩ => ?_⟩
  cases found : tables.find? isRow key with
  | none =>
      have absent := (find?_eq_none_iff isRow key).mp found (own, entity) member
      rw [same] at absent
      cases absent
  | some other =>
      obtain ⟨its, isIn, alike⟩ := mem_of_find? isRow key other found
      rw [(sound.same_iff isRow isIn member).mpr (by rw [Value.sameKey_congr its own key same, alike])]

theorem cell?_enter (tables : Tables) (isRow : Bool) (key : Value) (entity row column : Nat) :
    (tables.enter isRow key entity).cell? row column = tables.cell? row column := by
  unfold cell?
  rw [matrix_enter, List.lookup_append]
  cases tables.matrix.lookup row with
  | some cells => rfl
  | none =>
      cases isRow with
      | false => rfl
      | true => by_cases same : row = entity <;> simp [lookup_entry, same]

theorem Sound.distinctRows (sound : tables.Sound loose entities index) : (tables.matrix.map (·.1)).Nodup :=
  sound.matrix ▸ sound.once true

theorem Sound.lookup_matrix_isSome_iff (sound : tables.Sound loose entities index) (row : Nat) :
    (tables.matrix.lookup row).isSome = true ↔ ∃ key, (key, row) ∈ tables.rows := by
  have listed : row ∈ tables.matrix.map (·.1) ↔ ∃ key, (key, row) ∈ tables.rows := by simp [sound.matrix]
  rw [← listed, Option.isSome_iff_exists]
  simp only [← mem_iff_lookup_of_nodup tables.matrix sound.distinctRows]
  simp

theorem Sound.of_cell (sound : tables.Sound loose entities index) (row column : Nat) (x : Binary64)
    (stored : tables.cell? row column = some x) :
    (∃ key, (key, row) ∈ tables.rows) ∧ ∃ key, (key, column) ∈ tables.columns := by
  obtain ⟨cells, isRow, isCell⟩ := Option.bind_eq_some_iff.mp stored
  refine ⟨(sound.lookup_matrix_isSome_iff row).mp (Option.isSome_iff_exists.mpr ⟨cells, isRow⟩), ?_⟩
  obtain ⟨distinct, registered⟩ :=
    sound.cells row cells ((mem_iff_lookup_of_nodup tables.matrix sound.distinctRows row cells).mpr isRow)
  exact registered column x ((mem_iff_lookup_of_nodup cells distinct column x).mpr isCell)

theorem Sound.cell?_put (sound : tables.Sound loose entities index) (key : Value) (row column : Nat)
    (member : (key, row) ∈ tables.rows) (x : Binary64) (other another : Nat) :
    (tables.put row column x).cell? other another =
      if other = row ∧ another = column then some x else tables.cell? other another := by
  obtain ⟨cells, isRow⟩ :=
    Option.isSome_iff_exists.mp ((sound.lookup_matrix_isSome_iff row).mpr ⟨key, member⟩)
  unfold Tables.put cell?
  rw [lookup_changeEntry]
  by_cases same : other = row
  · subst same
    by_cases alike : another = column <;> simp [isRow, lookup_setEntry, alike]
  · simp [same]

theorem Shows.hasRow (shows : tables.Shows others problem) (sound : tables.Sound loose entities index)
    (grown : ∀ (entity : Nat) (held : Entity), entities[entity]? = some held → others[entity]? = some held)
    (key : Value) (entity : Nat) (member : (key, entity) ∈ tables.rows) : ∃ kind, problem.HasRow key kind := by
  obtain ⟨held, found, -⟩ := sound.entry true key entity member
  exact ⟨held.kind, (shows.rows key held.kind).mp ⟨entity, held, member, grown entity held found, rfl⟩⟩

theorem Shows.unaimed_iff (shows : tables.Shows entities problem) (sound : tables.Sound loose entities index)
    (ordered : problem.Ordered) : tables.objective = none ↔ problem.objective = none := by
  constructor
  · intro unaimed
    by_contra there
    obtain ⟨aim, aimed⟩ := Option.ne_none_iff_exists'.mp there
    obtain ⟨row, inside, -⟩ := ordered.objective_mem aim aimed
    obtain ⟨entity, _, member, -⟩ := (shows.rows aim.key row.kind).mpr ⟨row, inside, rfl⟩
    have isAimed := (shows.objective aim.key entity member).mpr (by rw [aimed]; rfl)
    cases unaimed.symm.trans isAimed
  · intro unaimed
    by_contra there
    obtain ⟨entity, aimed⟩ := Option.ne_none_iff_exists'.mp there
    obtain ⟨key, _, member, -⟩ := sound.objective entity aimed
    have isAimed := (shows.objective key entity member).mp aimed
    rw [unaimed] at isAimed
    cases isAimed

theorem Shows.find?_isSome_iff (shows : tables.Shows entities problem) (sound : tables.Sound loose entities index)
    (ordered : problem.Ordered) (kind : EntityKind) (key : Value) :
    (tables.find? kind.isRow key).isSome = true ↔ problem.Has kind key := by
  rw [Option.isSome_iff_exists]
  simp only [sound.find?_eq_some_iff]
  cases isRow : kind.isRow with
  | true =>
      rw [problem.has_row_iff kind isRow]
      constructor
      · rintro ⟨entity, own, member, same⟩
        obtain ⟨_, row, inside, -⟩ := shows.hasRow sound (fun _ _ found => found) own entity member
        exact ⟨row, problem.row?_sameKey own key same ▸ ordered.row?_of_mem own row inside⟩
      · rintro ⟨row, found⟩
        obtain ⟨own, inside, same⟩ := problem.mem_of_row? key row found ordered
        obtain ⟨entity, held, member, -, -⟩ := (shows.rows own row.kind).mpr ⟨row, inside, rfl⟩
        exact ⟨entity, own, member, same⟩
  | false =>
      rw [problem.has_column_iff kind isRow]
      constructor
      · rintro ⟨entity, own, member, same⟩
        obtain ⟨name, rfl, registered⟩ := (shows.columns own).mp ⟨entity, member⟩
        obtain ⟨column, there⟩ := Option.isSome_iff_exists.mp registered
        exact ⟨name, column, Value.eq_text_of_sameKey key name (Value.sameKey_comm _ _ ▸ same), there⟩
      · rintro ⟨name, column, rfl, there⟩
        obtain ⟨entity, member⟩ :=
          (shows.columns (.text name)).mpr ⟨name, rfl, Catalog.contains_of_get? _ name column there⟩
        exact ⟨entity, .text name, member, Value.sameKey_self _⟩

-- Entities that come later do not matter.
theorem Shows.grow (shows : tables.Shows entities problem) (sound : tables.Sound loose entities index)
    (grown : ∀ (entity : Nat) (held : Entity), entities[entity]? = some held → others[entity]? = some held) :
    tables.Shows others problem where
  columns := shows.columns
  rows key kind := by
    rw [← shows.rows key kind]
    refine exists_congr fun entity => ⟨?_, ?_⟩
    · rintro ⟨held, member, found, same⟩
      obtain ⟨old, isOld, -⟩ := sound.entry true key entity member
      cases found.symm.trans (grown entity old isOld)
      exact ⟨held, member, isOld, same⟩
    · rintro ⟨held, member, found, same⟩
      exact ⟨held, member, grown entity held found, same⟩
  objective := shows.objective
  cells := shows.cells

theorem Shows.frame {declares : EntityKind → Value → Prop} {after : Problem}
    (shows : tables.Shows entities problem) (ordered : problem.Ordered) (same : Problem.SameFrame problem after)
    (keeps : problem.Keeps declares after)
    (columns : ∀ name, after.columns.contains name = problem.columns.contains name)
    (cells : ∀ row column, after.cell? row column = problem.cell? row column) : tables.Shows entities after where
  columns key := by simp only [shows.columns, columns]
  rows key kind := by rw [shows.rows, same.hasRow_iff keeps ordered]
  objective key entity member := by rw [shows.objective key entity member, same.aimKey]
  cells key row name column member isColumn := by rw [shows.cells key row name column member isColumn, cells]

section Registering

variable (shows : tables.Shows others problem) (sound : tables.Sound loose entities index) (entity : Nat)
  (unseen : entities[entity]? = none)

theorem Sound.not_mem (sound : tables.Sound loose entities index) (entity : Nat)
    (unseen : entities[entity]? = none) (isRow : Bool) (key : Value) : (key, entity) ∉ tables.table isRow := by
  intro member
  obtain ⟨held, found, -⟩ := sound.entry isRow key entity member
  cases unseen.symm.trans found

theorem Sound.cell?_new (sound : tables.Sound loose entities index) (entity : Nat)
    (unseen : entities[entity]? = none) (key : Value) (missing : problem.row? key = none) (column : Nat)
    (name : String) : tables.cell? entity column = problem.cell? key name := by
  have bare : tables.cell? entity column = none := by
    by_contra there
    obtain ⟨x, stored⟩ := Option.ne_none_iff_exists'.mp there
    obtain ⟨⟨own, registered⟩, -⟩ := sound.of_cell entity column x stored
    exact sound.not_mem entity unseen true own registered
  rw [bare, Problem.cell?, missing]
  rfl

include shows sound unseen

theorem Shows.column (closed : problem.Closed) (name : String)
    (fresh : ¬ problem.columns.contains name = true) :
    (tables.enter false (.text name) entity).Shows others
      { problem with columns := problem.columns.insert name {} } := by
  have listed (key : Value) (other : Nat) :
      (key, other) ∈ (tables.enter false (.text name) entity).columns ↔
        (key, other) ∈ tables.columns ∨ key = .text name ∧ other = entity := by simp [enter]
  constructor
  case columns =>
    intro key
    simp only [listed, exists_or, shows.columns, Catalog.contains_insert, Bool.or_eq_true, decide_eq_true_eq]
    constructor
    · rintro (⟨other, rfl, there⟩ | ⟨_, rfl, -⟩)
      · exact ⟨other, rfl, Or.inr there⟩
      · exact ⟨name, rfl, Or.inl rfl⟩
    · rintro ⟨other, rfl, rfl | there⟩
      · exact Or.inr ⟨entity, rfl, rfl⟩
      · exact Or.inl ⟨other, rfl, there⟩
  case rows => exact shows.rows
  case objective => exact shows.objective
  case cells =>
    intro key row other column member isColumn
    rcases (listed _ column).mp isColumn with old | ⟨isNew, rfl⟩
    · exact shows.cells key row other column member old
    · obtain rfl : other = name := Value.text.inj isNew
      -- The new column has no coefficients yet, on either side.
      have bare : tables.cell? row column = none := by
        by_contra there
        obtain ⟨x, stored⟩ := Option.ne_none_iff_exists'.mp there
        obtain ⟨-, own, registered⟩ := sound.of_cell row column x stored
        exact sound.not_mem column unseen false own registered
      have unwritten : problem.cell? key other = none := by
        by_contra there
        obtain ⟨x, stored⟩ := Option.ne_none_iff_exists'.mp there
        obtain ⟨found, isRow, isCell⟩ := Option.bind_eq_some_iff.mp stored
        exact fresh (closed key found other x isRow isCell)
      exact bare.trans unwritten.symm

-- A new row without coefficients, whatever becomes of the objective.
theorem Shows.gain {after : Problem} (gains : problem.GainsRows after) (columns : after.columns = problem.columns)
    (name : Value) (new : Row) (missing : problem.row? name = none)
    (rows : ∀ key row, (key, row) ∈ after.allRows ↔ (key, row) ∈ problem.allRows ∨ key = name ∧ row = new)
    (held : Entity) (there : others[entity]? = some held) (kind : held.kind = new.kind) (aimed : Option Nat)
    (objective : ∀ key other, (key, other) ∈ tables.rows ∨ key = name ∧ other = entity →
      (aimed = some other ↔ after.objective.map Aim.key = some key)) :
    Shows { tables.enter true name entity with objective := aimed } others after := by
  have listed (key : Value) (other : Nat) : (key, other) ∈ (tables.enter true name entity).rows ↔
      (key, other) ∈ tables.rows ∨ key = name ∧ other = entity := by simp [enter]
  constructor
  case columns => rw [columns]; exact shows.columns
  case rows =>
    intro key as
    simp only [Problem.HasRow, rows, listed, or_and_right, exists_or]
    refine or_congr (shows.rows key as) ⟨?_, ?_⟩
    · rintro ⟨_, _, ⟨rfl, rfl⟩, found, rfl⟩
      cases there.symm.trans found
      exact ⟨_, ⟨rfl, rfl⟩, kind.symm⟩
    · rintro ⟨_, ⟨rfl, rfl⟩, rfl⟩
      exact ⟨entity, held, ⟨rfl, rfl⟩, there, kind⟩
  case objective => exact fun key other member => objective key other ((listed key other).mp member)
  case cells =>
    intro key row other column member isColumn
    rw [gains.cell?]
    refine (cell?_enter tables true name entity row column).trans ?_
    rcases (listed key row).mp member with old | ⟨rfl, rfl⟩
    · exact shows.cells key row other column old isColumn
    · exact sound.cell?_new row unseen _ missing column other

theorem Shows.row (ordered : problem.Ordered) (name : String) (fresh : ¬ problem.rows.contains name = true)
    (direction : Option Value) (held : Entity) (there : others[entity]? = some held)
    (kind : held.kind = Row.kind { direction }) :
    (tables.enter true (.text name) entity).Shows others (problem.addRow name { direction }) := by
  have missing : problem.row? (.text name) = none := Catalog.get?_of_not_contains problem.rows name fresh
  refine shows.gain sound entity unseen (problem.gainsRows_addRow name { direction } rfl fresh) rfl _ _ missing
    (problem.mem_allRows_addRow name _ fresh) held there kind tables.objective fun key other member => ?_
  rcases member with old | ⟨rfl, rfl⟩
  · exact shows.objective key other old
  · refine iff_of_false (fun aimed => ?_) fun aimed => ?_
    · obtain ⟨own, _, registered, -⟩ := sound.objective other aimed
      exact sound.not_mem other unseen true own registered
    · obtain ⟨aim, isAim, same⟩ := Option.map_eq_some_iff.mp aimed
      obtain ⟨row, inside, -⟩ := ordered.objective_mem aim isAim
      rw [same] at inside
      cases missing.symm.trans (ordered.row?_of_mem _ row inside)

/-- An objective whose name is no text. -/
theorem Shows.aside (unaimed : problem.objective = none) (name direction : Value)
    (notText : ∀ text, name ≠ .text text) (held : Entity) (there : others[entity]? = some held)
    (kind : held.kind = .objective)
    (grown : ∀ (entity : Nat) (held : Entity), entities[entity]? = some held → others[entity]? = some held) :
    Shows { tables.enter true name entity with objective := some entity } others
      { problem with
        objective := some (.beside name { direction := some direction } problem.arrivals.toList) } := by
  have noneBeside : problem.beside? = none := by rw [Problem.beside?, unaimed]
  have missing : problem.row? name = none := by rw [problem.row?_of_notText name notText, noneBeside]; rfl
  have gains := problem.gainsRows_aim unaimed
    (.beside name { direction := some direction } problem.arrivals.toList) fun _ _ _ same => by cases same; rfl
  refine shows.gain sound entity unseen gains rfl name { direction := some direction } missing
    (fun key row => ?_) held there kind (some entity) fun key other member => ?_
  · rw [Problem.allRows, Problem.allRows, noneBeside]
    simp [Problem.beside?]
  · simp only [Option.map_some, Option.some.injEq]
    rcases member with old | ⟨rfl, rfl⟩
    · refine iff_of_false (fun same => sound.not_mem entity unseen true key (same ▸ old)) fun same => ?_
      obtain ⟨_, row, inside, -⟩ := shows.hasRow sound grown key other old
      rcases (problem.mem_allRows_iff key row).mp inside with ⟨text, isText, -⟩ | aside
      · exact notText text (same.trans isText)
      · cases noneBeside.symm.trans aside
    · exact iff_of_true rfl rfl

end Registering

section Changing

variable (shows : tables.Shows others problem) (sound : tables.Sound loose entities index)

include shows sound

theorem Shows.aim (unaimed : problem.objective = none) (name : String) (entity : Nat)
    (member : (.text name, entity) ∈ tables.rows) :
    Shows { tables with objective := some entity } others { problem with objective := some (.row name) } := by
  have gains := problem.gainsRows_aim unaimed (.row name) fun _ _ _ same => by cases same
  have rows : ({ problem with objective := some (.row name) } : Problem).allRows = problem.allRows := by
    simp [Problem.allRows, Problem.beside?, unaimed]
  constructor
  case columns => exact shows.columns
  case rows => intro key kind; rw [Problem.HasRow, rows]; exact shows.rows key kind
  case objective =>
    intro key other isRow
    simp only [Option.map_some, Option.some.injEq, Aim.key]
    rw [sound.same_iff true member isRow, Value.sameKey_comm]
    exact ⟨fun same => (Value.eq_text_of_sameKey key name same).symm, fun same => same ▸ Value.sameKey_self _⟩
  case cells =>
    intro key row other column isRow isColumn
    rw [gains.cell?]
    exact shows.cells key row other column isRow isColumn

theorem Shows.put (ordered : problem.Ordered) (own key : Value) (name : String) (row column : Nat)
    (x : Binary64) (member : (own, row) ∈ tables.rows) (same : own.sameKey key = true)
    (isColumn : (.text name, column) ∈ tables.columns) (there : ∃ found, problem.row? key = some found) :
    (tables.put row column x).Shows others (problem.setCoefficient key name x) := by
  have frame : Problem.SameFrame problem (problem.setCoefficient key name x) :=
    problem.sameFrame_changeRow key fun r => { r with cells := r.cells.insert name x }
  have keeps : problem.Keeps (fun _ _ => False) (problem.setCoefficient key name x) :=
    problem.keeps_changeRow key _ (fun _ _ => rfl) (Or.inr fun _ => rfl)
  constructor
  case columns => rw [Problem.setCoefficient, Problem.columns_changeRow]; exact shows.columns
  case rows => intro other kind; rw [frame.hasRow_iff keeps ordered]; exact shows.rows other kind
  case objective => intro other entity isRow; rw [frame.aimKey]; exact shows.objective other entity isRow
  case cells =>
    intro other entity another its isRow isIts
    rw [sound.cell?_put own row column member, problem.cell?_setCoefficient key name x other another there,
      shows.cells other entity another its isRow isIts]
    have rows : entity = row ↔ other.sameKey key = true := by
      rw [sound.same_iff true isRow member, Value.sameKey_congr other own key same]
    have columns : its = column ↔ (another == name) = true := by
      rw [sound.same_iff false isIts isColumn]
      rfl
    simp only [rows, columns, Bool.and_eq_true]

end Changing

end Tables

end LinearProgram
