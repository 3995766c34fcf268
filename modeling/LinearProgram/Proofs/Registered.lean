import LinearProgram.Catalog.Lemmas
import LinearProgram.Session.Registry
import Mathlib.Logic.Relation

/-!
What a registry keeps. Whatever programs do to it is made of a few effects. Each of them keeps the tables of
every problem sound, takes no entry out of them and gives no problem another objective. Only the key that an
entity holds may come to differ from the key under which it is registered, and only where it was assigned.
-/

namespace LinearProgram

section Entries

variable {α : Type}

theorem mem_changeEntry {κ : Type} [DecidableEq κ] (key : κ) (change : α → α) (entries : List (κ × α))
    (entry : κ × α) (member : entry ∈ changeEntry key change entries) :
    ∃ item, (entry.1, item) ∈ entries ∧ entry.2 = if entry.1 = key then change item else item := by
  obtain ⟨⟨name, item⟩, inside, rfl⟩ := List.mem_map.mp member
  by_cases same : name = key
  · subst same
    exact ⟨item, by simpa using inside, by simp⟩
  · exact ⟨item, by simpa [same] using inside, by simp [same]⟩

theorem getElem?_concat (items : List α) (item : α) (i : Nat) :
    (items ++ [item])[i]? = if i = items.length then some item else items[i]? := by
  by_cases last : i = items.length
  · simp [last]
  · rw [if_neg last]
    rcases Nat.lt_or_gt_of_ne last with inside | beyond
    · exact List.getElem?_append_left inside
    · rw [List.getElem?_eq_none (by simp; omega), List.getElem?_eq_none (by omega)]

theorem getElem?_concat_of_some (items : List α) (last item : α) (i : Nat) (found : items[i]? = some item) :
    (items ++ [last])[i]? = some item := by
  obtain ⟨inside, -⟩ := List.getElem?_eq_some_iff.mp found
  rw [getElem?_concat, if_neg (Nat.ne_of_lt inside), found]

theorem getElem?_set_of_some (items : List α) (old item : α) (i j : Nat) (found : items[i]? = some old) :
    (items.set i item)[j]? = if j = i then some item else items[j]? := by
  obtain ⟨inside, -⟩ := List.getElem?_eq_some_iff.mp found
  rw [List.getElem?_set]
  by_cases same : i = j
  · subst same
    simp [inside]
  · simp [same, Ne.symm same]

end Entries

section Sound

variable (loose : Nat → Prop)

/-- The tables of the problem with number `index`. Both name spaces list exactly the entities of the problem,
once each and under keys of their own; an entity holds the key under which it is listed, unless its key may
have been assigned. The matrix has exactly the rows, with one coefficient at most for each column of the
problem, and the objective is among the rows. -/
structure Tables.Sound (tables : Tables) (entities : List Entity) (index : Nat) : Prop where
  entry : ∀ isRow key entity, (key, entity) ∈ tables.table isRow → ∃ held, entities[entity]? = some held ∧
    held.problem = index ∧ held.kind.isRow = isRow ∧ (¬ loose entity → held.key = key)
  complete : ∀ entity held, entities[entity]? = some held → held.problem = index →
    ∃ key, (key, entity) ∈ tables.table held.kind.isRow
  keys : ∀ isRow, (tables.table isRow).Pairwise fun one other => one.1.sameKey other.1 = false
  once : ∀ isRow, ((tables.table isRow).map (·.2)).Nodup
  matrix : tables.matrix.map (·.1) = tables.rows.map (·.2)
  cells : ∀ row cells, (row, cells) ∈ tables.matrix → (cells.map (·.1)).Nodup ∧
    ∀ column x, (column, x) ∈ cells → ∃ key, (key, column) ∈ tables.columns
  objective : ∀ entity, tables.objective = some entity → ∃ key held, (key, entity) ∈ tables.rows ∧
    entities[entity]? = some held ∧ held.kind = .objective

structure Registry.Sound (registry : Registry) : Prop where
  tables : ∀ (index : Nat) (tables : Tables), registry.tables[index]? = some tables →
    tables.Sound loose registry.entities index
  owners : ∀ (entity : Nat) (held : Entity), registry.entities[entity]? = some held →
    held.problem < registry.tables.length

/-- Later tables of a problem list what earlier ones did, in the same places, and have the same objective. -/
structure Tables.Continue (before after : Tables) : Prop where
  columns : before.columns <+: after.columns
  rows : before.rows <+: after.rows
  objective : ∀ entity, before.objective = some entity → after.objective = some entity

def Registry.Continues (before after : Registry) : Prop :=
  ∀ (index : Nat) (tables : Tables), before.tables[index]? = some tables →
    ∃ later, after.tables[index]? = some later ∧ tables.Continue later

end Sound

namespace Tables

variable {loose : Nat → Prop} {tables : Tables} {entities : List Entity} {index : Nat}

theorem table_enter (tables : Tables) (isRow side : Bool) (key : Value) (entity : Nat) :
    (tables.enter isRow key entity).table side =
      tables.table side ++ if side = isRow then [(key, entity)] else [] := by
  cases isRow <;> cases side <;> simp [enter, table]

theorem mem_table_enter (tables : Tables) (isRow side : Bool) (key own : Value) (entity other : Nat) :
    (own, other) ∈ (tables.enter isRow key entity).table side ↔
      (own, other) ∈ tables.table side ∨ side = isRow ∧ own = key ∧ other = entity := by
  rw [table_enter, List.mem_append, List.mem_ite_nil_right, List.mem_singleton, Prod.mk.injEq]

theorem matrix_enter (tables : Tables) (isRow : Bool) (key : Value) (entity : Nat) :
    (tables.enter isRow key entity).matrix = tables.matrix ++ if isRow then [(entity, [])] else [] := by
  cases isRow <;> simp [enter]

theorem objective_enter (tables : Tables) (isRow : Bool) (key : Value) (entity : Nat) :
    (tables.enter isRow key entity).objective = tables.objective := by
  cases isRow <;> rfl

theorem find?_eq_none_iff (isRow : Bool) (key : Value) :
    tables.find? isRow key = none ↔ ∀ entry ∈ tables.table isRow, entry.1.sameKey key = false := by
  simp [find?]

theorem mem_of_find? (isRow : Bool) (key : Value) (entity : Nat) (found : tables.find? isRow key = some entity) :
    ∃ own, (own, entity) ∈ tables.table isRow ∧ own.sameKey key = true := by
  obtain ⟨⟨own, other⟩, isFound, rfl⟩ := Option.map_eq_some_iff.mp found
  exact ⟨own, List.mem_of_find?_eq_some isFound, by simpa using List.find?_some isFound⟩

theorem sound_empty (strange : ∀ (entity : Nat) (held : Entity), entities[entity]? = some held → held.problem ≠ index) :
    Sound loose {} entities index where
  entry isRow key entity member := by cases isRow <;> cases member
  complete entity held found here := absurd here (strange entity held found)
  keys isRow := by cases isRow <;> exact List.Pairwise.nil
  once isRow := by cases isRow <;> exact List.nodup_nil
  matrix := rfl
  cells row cells member := by cases member
  objective entity aimed := by cases aimed

-- Entities may come for other problems, and keys that are loose may change.
theorem Sound.mono (sound : tables.Sound loose entities index) (others : List Entity)
    (kept : ∀ (entity : Nat) (held : Entity), entities[entity]? = some held → ∃ after, others[entity]? = some after ∧
      after.problem = held.problem ∧ after.kind = held.kind ∧ (¬ loose entity → after.key = held.key))
    (known : ∀ (entity : Nat) (after : Entity), others[entity]? = some after → after.problem = index →
      ∃ held, entities[entity]? = some held) :
    tables.Sound loose others index where
  entry isRow key entity member := by
    obtain ⟨held, found, owner, kind, own⟩ := sound.entry isRow key entity member
    obtain ⟨after, there, sameOwner, sameKind, sameKey⟩ := kept entity held found
    exact ⟨after, there, sameOwner.trans owner, by rw [sameKind, kind],
      fun fixed => (sameKey fixed).trans (own fixed)⟩
  complete entity after there here := by
    obtain ⟨held, found⟩ := known entity after there here
    obtain ⟨same, isThere, owner, kind, -⟩ := kept entity held found
    rw [there] at isThere
    cases isThere
    rw [kind]
    exact sound.complete entity held found (owner.symm.trans here)
  keys := sound.keys
  once := sound.once
  matrix := sound.matrix
  cells := sound.cells
  objective entity aimed := by
    obtain ⟨key, held, member, found, kind⟩ := sound.objective entity aimed
    obtain ⟨after, there, -, sameKind, -⟩ := kept entity held found
    exact ⟨key, after, member, there, sameKind.trans kind⟩

theorem Sound.enter (sound : tables.Sound loose entities index) (kind : EntityKind) (key : Value)
    (fresh : tables.find? kind.isRow key = none) :
    (tables.enter kind.isRow key entities.length).Sound loose (entities ++ [⟨index, kind, key⟩]) index := by
  have unseen (isRow : Bool) (own : Value) (entity : Nat) (member : (own, entity) ∈ tables.table isRow) :
      entity < entities.length := by
    obtain ⟨held, found, -⟩ := sound.entry isRow own entity member
    exact (List.getElem?_eq_some_iff.mp found).1
  have enters := tables.mem_table_enter kind.isRow
  constructor
  case entry =>
    intro isRow own entity member
    rcases (enters isRow key own _ entity).mp member with old | ⟨rfl, rfl, rfl⟩
    · obtain ⟨held, found, rest⟩ := sound.entry isRow own entity old
      exact ⟨held, getElem?_concat_of_some _ _ held entity found, rest⟩
    · exact ⟨⟨index, kind, own⟩, by simp, rfl, rfl, fun _ => rfl⟩
  case complete =>
    intro entity held found here
    rw [getElem?_concat] at found
    split at found
    next last =>
      cases found
      exact ⟨key, (enters _ key key _ entity).mpr (Or.inr ⟨rfl, rfl, last⟩)⟩
    next =>
      obtain ⟨own, member⟩ := sound.complete entity held found here
      exact ⟨own, (enters _ key own _ entity).mpr (Or.inl member)⟩
  case keys =>
    intro isRow
    rw [table_enter]
    refine List.pairwise_append.mpr ⟨sound.keys isRow, ?_, fun one old other new => ?_⟩
    · split <;> simp
    · obtain ⟨rfl, isNew⟩ := List.mem_ite_nil_right.mp new
      cases List.mem_singleton.mp isNew
      exact (find?_eq_none_iff _ key).mp fresh one old
  case once =>
    intro isRow
    rw [table_enter, List.map_append]
    refine List.nodup_append.mpr ⟨sound.once isRow, ?_, fun one old other new => ?_⟩
    · split <;> simp
    · obtain ⟨entry, member, rfl⟩ := List.mem_map.mp old
      have inside := unseen isRow entry.1 entry.2 member
      obtain ⟨last, isNew, rfl⟩ := List.mem_map.mp new
      cases List.mem_singleton.mp (List.mem_ite_nil_right.mp isNew).2
      exact Nat.ne_of_lt inside
  case matrix =>
    have rows := table_enter tables kind.isRow true key entities.length
    rw [show (tables.enter kind.isRow key entities.length).rows =
      (tables.enter kind.isRow key entities.length).table true from rfl, rows, matrix_enter]
    cases kind.isRow <;> simp [sound.matrix, table]
  case cells =>
    intro row cells member
    rw [matrix_enter, List.mem_append, List.mem_ite_nil_right, List.mem_singleton, Prod.mk.injEq] at member
    rcases member with old | ⟨-, rfl, rfl⟩
    · obtain ⟨distinct, registered⟩ := sound.cells row cells old
      refine ⟨distinct, fun column x cell => ?_⟩
      obtain ⟨own, isColumn⟩ := registered column x cell
      exact ⟨own, (enters false key own _ column).mpr (Or.inl isColumn)⟩
    · exact ⟨List.nodup_nil, fun _ _ cell => by cases cell⟩
  case objective =>
    intro entity aimed
    rw [objective_enter] at aimed
    obtain ⟨own, held, member, found, isObjective⟩ := sound.objective entity aimed
    exact ⟨own, held, (enters true key own _ entity).mpr (Or.inl member),
      getElem?_concat_of_some _ _ held entity found, isObjective⟩

theorem Sound.designate (sound : tables.Sound loose entities index) (entity : Nat) (held : Entity)
    (found : entities[entity]? = some held) (here : held.problem = index) (kind : held.kind = .objective) :
    Sound loose { tables with objective := some entity } entities index where
  entry := sound.entry
  complete := sound.complete
  keys := sound.keys
  once := sound.once
  matrix := sound.matrix
  cells := sound.cells
  objective other aimed := by
    cases aimed
    obtain ⟨key, member⟩ := sound.complete entity held found here
    rw [kind] at member
    exact ⟨key, held, member, found, kind⟩

theorem Sound.put (sound : tables.Sound loose entities index) (row column : Nat) (x : Binary64) (other : Entity)
    (found : entities[column]? = some other) (here : other.problem = index)
    (isColumn : other.kind.isRow = false) : (tables.put row column x).Sound loose entities index where
  entry := sound.entry
  complete := sound.complete
  keys := sound.keys
  once := sound.once
  matrix := (keys_changeEntry _ _ _).trans sound.matrix
  cells changed cells member := by
    obtain ⟨old, inside, same⟩ := mem_changeEntry row _ tables.matrix (changed, cells) member
    obtain ⟨distinct, registered⟩ := sound.cells changed old inside
    dsimp only at same
    split at same
    · subst same
      refine ⟨nodup_setEntry column x old distinct, fun held y cell => ?_⟩
      rcases (mem_keys_setEntry column held x old).mp (List.mem_map_of_mem (f := (·.1)) cell) with rfl | there
      · have joined := sound.complete held other found here
        rw [isColumn] at joined
        exact joined
      · obtain ⟨⟨_, z⟩, isThere, rfl⟩ := List.mem_map.mp there
        exact registered _ z isThere
    · subst same
      exact ⟨distinct, registered⟩
  objective := sound.objective

theorem continue_refl (tables : Tables) : tables.Continue tables :=
  ⟨List.prefix_refl _, List.prefix_refl _, fun _ aimed => aimed⟩

theorem continue_enter (tables : Tables) (isRow : Bool) (key : Value) (entity : Nat) :
    tables.Continue (tables.enter isRow key entity) := by
  cases isRow with
  | true => exact ⟨List.prefix_refl _, List.prefix_append _ _, fun _ aimed => aimed⟩
  | false => exact ⟨List.prefix_append _ _, List.prefix_refl _, fun _ aimed => aimed⟩

theorem Continue.trans {first second third : Tables} (on : first.Continue second) (further : second.Continue third) :
    first.Continue third :=
  ⟨on.columns.trans further.columns, on.rows.trans further.rows,
    fun entity aimed => further.objective entity (on.objective entity aimed)⟩

end Tables

namespace Registry

/-- What happens to a registry at one time. -/
inductive Effect (loose : Nat → Prop) : Registry → Registry → Prop where
  | problem (registry : Registry) : Effect loose registry { registry with tables := registry.tables ++ [{}] }
  | enter (registry : Registry) (index : Nat) (tables : Tables) (kind : EntityKind) (key : Value) :
      registry.tables[index]? = some tables → tables.find? kind.isRow key = none →
        Effect loose registry (registry.enter index tables kind key)
  | designate (registry : Registry) (index : Nat) (tables : Tables) (entity : Nat) (held : Entity) :
      registry.tables[index]? = some tables → tables.objective = none →
        registry.entities[entity]? = some held → held.problem = index → held.kind = .objective →
          Effect loose registry (registry.setTables index { tables with objective := some entity })
  | put (registry : Registry) (index : Nat) (tables : Tables) (row column : Nat) (one other : Entity)
      (x : Binary64) : registry.tables[index]? = some tables →
        registry.entities[row]? = some one → one.problem = index → one.kind.isRow = true →
          registry.entities[column]? = some other → other.problem = index → other.kind.isRow = false →
            Effect loose registry (registry.setTables index (tables.put row column x))
  | assignKey (registry : Registry) (entity : Nat) (key : Value) : loose entity →
      Effect loose registry
        { registry with entities := registry.entities.modify entity fun held => { held with key } }

abbrev Effects (loose : Nat → Prop) : Registry → Registry → Prop :=
  Relation.ReflTransGen (Effect loose)

variable {loose : Nat → Prop} {registry after : Registry}

theorem sound_empty : Sound loose {} :=
  ⟨fun index tables found => by simp at found, fun entity held found => by simp at found⟩

-- Tables change for one problem at a time.
theorem Sound.setTables (sound : registry.Sound loose) (index : Nat) (old tables : Tables)
    (found : registry.tables[index]? = some old) (changed : tables.Sound loose registry.entities index) :
    (registry.setTables index tables).Sound loose := by
  constructor
  case tables =>
    intro other others there
    rw [Registry.setTables, getElem?_set_of_some _ old tables index other found] at there
    split at there
    next same =>
      cases there
      exact same ▸ changed
    next => exact sound.tables other others there
  case owners =>
    intro entity held isThere
    have below := sound.owners entity held isThere
    simpa [Registry.setTables] using below

theorem Sound.enter (sound : registry.Sound loose) (index : Nat) (tables : Tables) (kind : EntityKind) (key : Value)
    (found : registry.tables[index]? = some tables) (fresh : tables.find? kind.isRow key = none) :
    (registry.enter index tables kind key).Sound loose := by
  have inside : index < registry.tables.length := (List.getElem?_eq_some_iff.mp found).1
  constructor
  case tables =>
    intro other others there
    rw [Registry.enter, getElem?_set_of_some _ tables _ index other found] at there
    split at there
    next same =>
      cases there
      exact same ▸ (sound.tables index tables found).enter kind key fresh
    next apart =>
      refine (sound.tables other others there).mono _ (fun entity held isThere => ?_) fun entity held isThere here => ?_
      · exact ⟨held, getElem?_concat_of_some _ _ held entity isThere, rfl, rfl, fun _ => rfl⟩
      · rw [Registry.enter, getElem?_concat] at isThere
        split at isThere
        · cases isThere
          exact absurd here.symm apart
        · exact ⟨held, isThere⟩
  case owners =>
    intro entity held isThere
    rw [Registry.enter, getElem?_concat] at isThere
    split at isThere
    · cases isThere
      simpa [Registry.enter] using inside
    · have below := sound.owners entity held isThere
      simpa [Registry.enter] using below

theorem Sound.assignKey (sound : registry.Sound loose) (entity : Nat) (key : Value) (mayBe : loose entity) :
    Sound loose
      { registry with entities := registry.entities.modify entity fun held => { held with key } } := by
  have looked (other : Nat) : (registry.entities.modify entity fun held => { held with key })[other]? =
      if other = entity then registry.entities[other]?.map fun held => { held with key }
      else registry.entities[other]? := by
    rw [List.getElem?_modify]
    by_cases same : entity = other
    · simp [same]
    · simp [same, Ne.symm same]
  constructor
  case tables =>
    intro index tables found
    refine (sound.tables index tables found).mono _ (fun other held isThere => ?_) fun other held isThere _ => ?_
    · rw [looked]
      split
      next same => exact ⟨{ held with key }, by rw [isThere]; rfl, rfl, rfl, fun fixed => absurd (same ▸ mayBe) fixed⟩
      next => exact ⟨held, isThere, rfl, rfl, fun _ => rfl⟩
    · rw [looked] at isThere
      split at isThere
      · obtain ⟨old, wasThere, -⟩ := Option.map_eq_some_iff.mp isThere
        exact ⟨old, wasThere⟩
      · exact ⟨held, isThere⟩
  case owners =>
    intro other held isThere
    rw [looked] at isThere
    split at isThere
    · obtain ⟨old, wasThere, rfl⟩ := Option.map_eq_some_iff.mp isThere
      exact sound.owners other old wasThere
    · exact sound.owners other held isThere

theorem Effect.sound (effect : Effect loose registry after) (sound : registry.Sound loose) : after.Sound loose := by
  cases effect with
  | problem =>
      constructor
      case tables =>
        intro index tables found
        rw [getElem?_concat] at found
        split at found
        next last =>
          cases found
          refine Tables.sound_empty fun entity held isThere here => ?_
          have below := sound.owners entity held isThere
          omega
        next => exact sound.tables index tables found
      case owners =>
        intro entity held found
        have below := sound.owners entity held found
        simp only [List.length_append, List.length_singleton]
        omega
  | enter index tables kind key found fresh => exact sound.enter index tables kind key found fresh
  | designate index tables entity held found _ isThere here kind =>
      exact sound.setTables index tables _ found
        ((sound.tables index tables found).designate entity held isThere here kind)
  | put index tables row column one other x found _ _ _ isThere here kind =>
      exact sound.setTables index tables _ found
        ((sound.tables index tables found).put row column x other isThere here kind)
  | assignKey entity key mayBe => exact sound.assignKey entity key mayBe

theorem continues_setTables (index : Nat) (old tables : Tables) (found : registry.tables[index]? = some old)
    (on : old.Continue tables) (entities : List Entity) :
    Continues registry { entities, tables := registry.tables.set index tables } := by
  intro other others there
  dsimp only
  rw [getElem?_set_of_some _ old tables index other found]
  split
  next same =>
    subst same
    cases found.symm.trans there
    exact ⟨tables, rfl, on⟩
  next => exact ⟨others, there, others.continue_refl⟩

theorem Effect.continues (effect : Effect loose registry after) : registry.Continues after := by
  cases effect with
  | problem =>
      intro index tables found
      exact ⟨tables, getElem?_concat_of_some _ _ tables index found, tables.continue_refl⟩
  | enter index tables kind key found _ =>
      exact continues_setTables index tables _ found (tables.continue_enter _ _ _) _
  | designate index tables entity held found unaimed _ _ _ =>
      refine continues_setTables index tables { tables with objective := some entity } found
        ⟨List.prefix_refl _, List.prefix_refl _, ?_⟩ _
      intro other aimed
      rw [unaimed] at aimed
      cases aimed
  | put index tables row column one other x found _ _ _ _ _ _ =>
      exact continues_setTables index tables (tables.put row column x) found
        ⟨List.prefix_refl _, List.prefix_refl _, fun _ aimed => aimed⟩ _
  | assignKey entity key _ => exact fun index tables found => ⟨tables, found, tables.continue_refl⟩

theorem Effects.sound (effects : Effects loose registry after) (sound : registry.Sound loose) : after.Sound loose := by
  induction effects with
  | refl => exact sound
  | tail _ effect ih => exact effect.sound ih

theorem Effects.continues (effects : Effects loose registry after) : registry.Continues after := by
  induction effects with
  | refl => exact fun index tables found => ⟨tables, found, tables.continue_refl⟩
  | tail _ effect ih =>
      intro index tables found
      obtain ⟨later, there, on⟩ := ih index tables found
      obtain ⟨last, isLast, further⟩ := effect.continues index later there
      exact ⟨last, isLast, on.trans further⟩

section Steps

def Retains (before after : Registry) : Prop :=
  ∀ (entity : Nat) (held : Entity), before.entities[entity]? = some held → after.entities[entity]? = some held

theorem tablesAt_eq_ok_iff (registry : Registry) (index : Nat) (tables : Tables) :
    registry.tablesAt index = .ok tables ↔ registry.tables[index]? = some tables := by
  unfold tablesAt
  split
  next found => simp [found]
  next missing => simp [missing]

theorem register_ok (index : Nat) (kind : EntityKind) (key : Value) (entity : Nat)
    (registers : registry.register index kind key = .ok (after, entity)) :
    ∃ tables, registry.tables[index]? = some tables ∧ tables.find? kind.isRow key = none ∧
      after = registry.enter index tables kind key ∧ entity = registry.entities.length := by
  obtain ⟨tables, found, registered⟩ := bind_ok registers
  split at registered
  · cases registered
  next fresh =>
    cases registered
    exact ⟨tables, (tablesAt_eq_ok_iff registry index tables).mp found, fresh, rfl, rfl⟩

theorem refer_ok (sound : registry.Sound loose) (index : Nat) (isRow : Bool) (key : Except Fault String)
    (entity : Nat) (refers : registry.refer index isRow key = .ok (after, entity)) :
    Effects loose registry after ∧ registry.Retains after ∧
      ∃ held, after.entities[entity]? = some held ∧ held.problem = index ∧ held.kind.isRow = isRow := by
  obtain ⟨tables, at_, referred⟩ := bind_ok refers
  have found := (tablesAt_eq_ok_iff registry index tables).mp at_
  obtain ⟨name, -, looked⟩ := bind_ok referred
  split at looked
  next there =>
    cases looked
    obtain ⟨own, member, -⟩ := Tables.mem_of_find? isRow _ entity there
    obtain ⟨held, isHeld, owner, kind, -⟩ := (sound.tables index tables found).entry isRow own entity member
    exact ⟨.refl, fun _ _ isThere => isThere, held, isHeld, owner, kind⟩
  next =>
    obtain ⟨tables, found, fresh, rfl, rfl⟩ := register_ok _ _ _ _ looked
    refine ⟨.single (.enter registry index tables _ _ found fresh), fun other held isThere => ?_, ?_⟩
    · exact getElem?_concat_of_some _ _ held other isThere
    · refine ⟨⟨index, if isRow then .row else .column, .text name⟩, by simp [enter], rfl, ?_⟩
      cases isRow <;> rfl

theorem aim_ok (index : Nat) (name : Value) (entity : Option Nat)
    (aims : registry.aim index name = .ok (after, entity)) : Effects loose registry after := by
  obtain ⟨tables, at_, aimed⟩ := bind_ok aims
  split at aimed
  · cases aimed
    exact .refl
  · obtain ⟨_, -, raises⟩ := bind_ok aimed
    cases raises
  next name _ _ _ unaimed =>
    split at aimed
    · obtain ⟨⟨entered, created⟩, registers, designates⟩ := bind_ok aimed
      obtain ⟨old, found, fresh, rfl, rfl⟩ := register_ok _ _ _ _ registers
      obtain ⟨entries, isAt, changed⟩ := bind_ok designates
      cases changed
      have there := (tablesAt_eq_ok_iff _ index entries).mp isAt
      rw [enter, getElem?_set_of_some _ old _ index index found, if_pos rfl] at there
      cases there
      cases found.symm.trans ((tablesAt_eq_ok_iff registry index tables).mp at_)
      refine .tail (.single (.enter registry index tables .objective name found fresh)) ?_
      refine .designate _ index _ registry.entities.length ⟨index, .objective, name⟩ ?_ ?_ ?_ rfl rfl
      · rw [enter, getElem?_set_of_some _ tables _ index index found, if_pos rfl]
      · rw [Tables.objective_enter, unaimed]
      · simp [enter]
    · cases aimed

theorem counterpart_ok (sound : registry.Sound loose) (mine : Entity) (target : Target) (other : Nat)
    (found : registry.counterpart mine target = .ok (after, other)) :
    Effects loose registry after ∧ registry.Retains after ∧
      ∃ held, after.entities[other]? = some held ∧ held.kind.isRow = !mine.kind.isRow := by
  have named (key : Except Fault String)
      (refers : registry.refer mine.problem (!mine.kind.isRow) key = .ok (after, other)) :
      Effects loose registry after ∧ registry.Retains after ∧
        ∃ held, after.entities[other]? = some held ∧ held.kind.isRow = !mine.kind.isRow := by
    obtain ⟨effects, kept, held, isThere, -, side⟩ := refer_ok sound _ _ key other refers
    exact ⟨effects, kept, held, isThere, side⟩
  cases target with
  | named key => exact named key found
  | entity target indices =>
      simp only [counterpart] at found
      split at found
      · cases found
      next its isIts =>
        split at found
        next opposite =>
          cases found
          refine ⟨.refl, fun _ _ isThere => isThere, its, isIts, ?_⟩
          exact Bool.eq_not_of_ne (by simpa using opposite)
        · exact named _ found

theorem setCoefficient_ok (index row column : Nat) (coefficient : Except Fault Binary64) (one other : Entity)
    (isRow : one.kind.isRow = true) (isColumn : other.kind.isRow = false)
    (rowThere : registry.entities[row]? = some one) (columnThere : registry.entities[column]? = some other)
    (sets : registry.setCoefficient index row column coefficient = .ok after) : Effects loose registry after := by
  simp only [setCoefficient, rowThere, columnThere] at sets
  split at sets
  next here =>
    obtain ⟨x, -, converted⟩ := bind_ok sets
    obtain ⟨tables, at_, changed⟩ := bind_ok converted
    cases changed
    exact .single (.put registry index tables row column one other x
      ((tablesAt_eq_ok_iff registry index tables).mp at_) rowThere here.1 isRow columnThere here.2 isColumn)
  · obtain ⟨_, -, raises⟩ := bind_ok sets
    obtain ⟨_, -, raised⟩ := bind_ok raises
    cases raised

theorem effects_add (sound : registry.Sound loose) (entity : Nat) (target : Target)
    (coefficient : Except Fault Binary64) :
    Effects loose registry (registry.add entity target coefficient).1 := by
  unfold add
  split
  · exact .refl
  next mine isMine =>
    split
    · exact .refl
    next named other found =>
      obtain ⟨effects, kept, held, isThere, side⟩ := counterpart_ok sound mine target other found
      have still := kept entity mine isMine
      dsimp only
      split
      · exact effects
      next written sets =>
        refine effects.trans ?_
        cases isRow : mine.kind.isRow with
        | true =>
            rw [isRow] at sets side
            exact setCoefficient_ok _ _ _ coefficient mine held isRow side still isThere sets
        | false =>
            rw [isRow] at sets side
            exact setCoefficient_ok _ _ _ coefficient held mine side isRow isThere still sets

theorem effects_orStay (outcome : Except Fault (Registry × Option Nat))
    (effects : ∀ after entity, outcome = .ok (after, entity) → Effects loose registry after) :
    Effects loose registry (registry.orStay outcome).1 := by
  cases outcome with
  | error fault => exact .refl
  | ok made => exact effects made.1 made.2 rfl

/-- Whatever an action does, also when it fails, is made of effects. -/
theorem step_effects (sound : registry.Sound loose) (action : Action)
    (assigned : ∀ entity key, action = .assignKey entity key → loose entity) :
    Effects loose registry (registry.step action).1 := by
  cases action with
  | problem => exact .single (.problem registry)
  | refer index isRow key =>
      refine effects_orStay _ fun after entity refers => ?_
      obtain ⟨⟨_, made⟩, isMade, same⟩ := map_ok refers
      cases same
      exact (refer_ok sound index isRow key made isMade).1
  | create index kind key =>
      refine effects_orStay _ fun after entity creates => ?_
      obtain ⟨⟨_, made⟩, isMade, same⟩ := map_ok creates
      cases same
      obtain ⟨tables, found, fresh, rfl, -⟩ := register_ok _ _ _ _ isMade
      exact .single (.enter registry index tables kind _ found fresh)
  | aim index name => exact effects_orStay _ fun after entity aims => aim_ok index name entity aims
  | add entity target coefficient => exact effects_add sound entity target coefficient
  | assignKey entity key => exact .single (.assignKey registry entity key (assigned entity key rfl))
  | elsewhere outcome => exact .refl

theorem run_effects (sound : registry.Sound loose) (program : List Action)
    (assigned : ∀ entity key, .assignKey entity key ∈ program → loose entity) :
    Effects loose registry (registry.run program) := by
  induction program generalizing registry with
  | nil => exact .refl
  | cons first rest ih =>
      have head := registry.step_effects sound first fun entity key same =>
        assigned entity key (same ▸ List.mem_cons_self)
      exact head.trans (ih (head.sound sound) fun entity key member =>
        assigned entity key (List.mem_cons_of_mem _ member))

theorem run_append (registry : Registry) (program more : List Action) :
    registry.run (program ++ more) = (registry.run program).run more := by
  induction program generalizing registry with
  | nil => rfl
  | cons first rest ih => exact ih _

/-- The entities whose key a program assigns. -/
def Assigned (program : List Action) (entity : Nat) : Prop := ∃ key, .assignKey entity key ∈ program

theorem run_sound (program : List Action) : (run {} program).Sound (Assigned program) :=
  (run_effects sound_empty program fun _ key member => ⟨key, member⟩).sound sound_empty

theorem run_continues (program more : List Action) : (run {} program).Continues (run {} (program ++ more)) := by
  rw [run_append]
  have sound : (run {} program).Sound fun _ => True :=
    (run_effects sound_empty program fun _ _ _ => trivial).sound sound_empty
  exact (run_effects sound more fun _ _ _ => trivial).continues

end Steps

end Registry

end LinearProgram
