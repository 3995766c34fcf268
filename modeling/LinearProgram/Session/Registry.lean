import LinearProgram.Session.Basic

/-!
The registry behind the catalogues of problems. Columns and rows are objects that hold their key as an
attribute, which may be assigned like any other. The tables of a problem lead from keys to objects, and from
rows to columns to coefficients, in the order in which the entries came; nothing is ever taken out of them.
Bounds, types, directions, numbers and results are left out: the tables do not depend on them.
-/

namespace LinearProgram

/-- A column or row of the problem with number `problem`, with the key that it holds. -/
structure Entity where
  problem : Nat
  kind : EntityKind
  key : Value

/-- The tables of a problem. Entities are known by their places in the registry. -/
structure Tables where
  columns : List (Value × Nat) := []
  rows : List (Value × Nat) := []
  matrix : List (Nat × List (Nat × Binary64)) := []
  objective : Option Nat := none

structure Registry where
  entities : List Entity := []
  tables : List Tables := []

namespace Tables

def table (tables : Tables) (isRow : Bool) : List (Value × Nat) :=
  if isRow then tables.rows else tables.columns

def find? (tables : Tables) (isRow : Bool) (key : Value) : Option Nat :=
  ((tables.table isRow).find? fun entry => entry.1.sameKey key).map (·.2)

def enter (tables : Tables) (isRow : Bool) (key : Value) (entity : Nat) : Tables :=
  if isRow then
    { tables with rows := tables.rows ++ [(key, entity)], matrix := tables.matrix ++ [(entity, [])] }
  else { tables with columns := tables.columns ++ [(key, entity)] }

def put (tables : Tables) (row column : Nat) (x : Binary64) : Tables :=
  { tables with matrix := changeEntry row (setEntry column x) tables.matrix }

def cell? (tables : Tables) (row column : Nat) : Option Binary64 :=
  (tables.matrix.lookup row).bind (·.lookup column)

end Tables

namespace Registry

def tablesAt (registry : Registry) (index : Nat) : Except Fault Tables :=
  match registry.tables[index]? with
  | some tables => .ok tables
  | none => .error .indexOutOfRange

def setTables (registry : Registry) (index : Nat) (tables : Tables) : Registry :=
  { registry with tables := registry.tables.set index tables }

/-- The registry with a new entity in the tables of a problem. -/
def enter (registry : Registry) (index : Nat) (tables : Tables) (kind : EntityKind) (key : Value) : Registry :=
  { entities := registry.entities ++ [⟨index, kind, key⟩]
    tables := registry.tables.set index (tables.enter kind.isRow key registry.entities.length) }

def register (registry : Registry) (index : Nat) (kind : EntityKind) (key : Value) :
    Except Fault (Registry × Nat) := do
  let tables ← registry.tablesAt index
  match tables.find? kind.isRow key with
  | some _ => .error (.keyTaken (if kind.isRow then "Row" else "Column") key.display)
  | none => pure (registry.enter index tables kind key, registry.entities.length)

/-- The column or row under a key, a new one if there was none. -/
def refer (registry : Registry) (index : Nat) (isRow : Bool) (key : Except Fault String) :
    Except Fault (Registry × Nat) := do
  let tables ← registry.tablesAt index
  let key ← key
  match tables.find? isRow (.text key) with
  | some entity => pure (registry, entity)
  | none => registry.register index (if isRow then .row else .column) (.text key)

def keyOf (registry : Registry) (entity : Nat) : Value :=
  ((registry.entities[entity]?).map Entity.key).getD .null

/-- A new objective under a name, or the one that there is when no name is given. -/
def aim (registry : Registry) (index : Nat) (name : Value) : Except Fault (Registry × Option Nat) := do
  let tables ← registry.tablesAt index
  match name, tables.objective with
  | .null, objective => pure (registry, objective)
  | _, some objective => throw (.objectiveDefined (← (registry.keyOf objective).written))
  | name, none =>
      if name.isKey then do
        let (entered, entity) ← registry.register index .objective name
        let tables ← entered.tablesAt index
        pure (entered.setTables index { tables with objective := some entity }, some entity)
      else throw (.notHashable name.kindName)

/-- The other side of a coefficient: an entity with indices, or a name with its indices as the key that they
make. -/
inductive Target where
  | entity (entity : Nat) (indices : List Value)
  | named (key : Except Fault String)

/-- An entity of the same kind stands for a name, like anything else that is not of the opposite kind. -/
def counterpart (registry : Registry) (mine : Entity) : Target → Except Fault (Registry × Nat)
  | .named key => registry.refer mine.problem (!mine.kind.isRow) key
  | .entity other indices =>
      match registry.entities[other]? with
      | none => .error .indexOutOfRange
      | some its =>
          if its.kind.isRow != mine.kind.isRow then .ok (registry, other)
          else
            registry.refer mine.problem (!mine.kind.isRow)
              (Key.ofValues (.entity its.problem its.kind its.key) indices)

def setCoefficient (registry : Registry) (index row column : Nat) (coefficient : Except Fault Binary64) :
    Except Fault Registry := do
  match registry.entities[row]?, registry.entities[column]? with
  | some one, some other =>
      if one.problem = index ∧ other.problem = index then do
        let x ← coefficient
        let tables ← registry.tablesAt index
        pure (registry.setTables index (tables.put row column x))
      else throw (.foreignEntity (← one.key.written) (← other.key.written))
  | _, _ => throw .indexOutOfRange

/-- What programs do to a registry. A coefficient is given with what comes of its conversion. Everything else,
such as other attributes that are assigned, snapshots, listings and solves, does nothing to the registry, whatever
comes of it. -/
inductive Action where
  | problem
  | refer (problem : Nat) (isRow : Bool) (key : Except Fault String)
  | create (problem : Nat) (kind : EntityKind) (key : String)
  | aim (problem : Nat) (name : Value)
  | add (entity : Nat) (target : Target) (coefficient : Except Fault Binary64)
  | assignKey (entity : Nat) (key : Value)
  | elsewhere (outcome : Except Fault (Option Nat))

abbrev Outcome := Registry × Except Fault (Option Nat)

/-- What was made stays even when the coefficient cannot be set. -/
def add (registry : Registry) (entity : Nat) (target : Target) (coefficient : Except Fault Binary64) : Outcome :=
  match registry.entities[entity]? with
  | none => (registry, .error .indexOutOfRange)
  | some mine =>
      match registry.counterpart mine target with
      | .error fault => (registry, .error fault)
      | .ok (named, other) =>
          let (row, column) := if mine.kind.isRow then (entity, other) else (other, entity)
          match named.setCoefficient mine.problem row column coefficient with
          | .error fault => (named, .error fault)
          | .ok written => (written, .ok (some entity))

def orStay (registry : Registry) : Except Fault (Registry × Option Nat) → Outcome
  | .error fault => (registry, .error fault)
  | .ok (after, entity) => (after, .ok entity)

def step (registry : Registry) : Action → Outcome
  | .problem => ({ registry with tables := registry.tables ++ [{}] }, .ok none)
  | .refer index isRow key => registry.orStay ((registry.refer index isRow key).map fun (r, e) => (r, some e))
  | .create index kind key =>
      registry.orStay ((registry.register index kind (.text key)).map fun (r, e) => (r, some e))
  | .aim index name => registry.orStay (registry.aim index name)
  | .add entity target coefficient => registry.add entity target coefficient
  | .assignKey entity key =>
      ({ registry with entities := registry.entities.modify entity fun held => { held with key } },
        .ok (some entity))
  | .elsewhere outcome => (registry, outcome)

def run (registry : Registry) : List Action → Registry
  | [] => registry
  | first :: rest => (registry.step first).1.run rest

/-- The entity that a reference leads to. -/
def entityOf (registry : Registry) (ref : EntityRef) : Nat :=
  ((registry.tables[ref.problem]?).bind (·.find? ref.kind.isRow ref.key)).getD 0

def targetOf (registry : Registry) (target : Value) (indices : List Value) : Target :=
  match target with
  | .entity index kind key => .entity (registry.entityOf ⟨index, kind, key⟩) indices
  | _ => .named (Key.ofValues target indices)

/-- What a step is to the registry. -/
def actionOf (registry : Registry) : Step → Action
  | .problem _ => .problem
  | .column index name indices => .refer index false (Key.ofValues name indices)
  | .row index name indices => .refer index true (Key.ofValues name indices)
  | .newColumn index key => .create index .column key
  | .newRow index key => .create index .row key
  | .newObjective index key _ => .create index .objective key
  | .objective index name _ => .aim index name
  | .add (some ref) coefficient target indices =>
      .add (registry.entityOf ref) (registry.targetOf target indices) coefficient.toBinary64
  | _ => .elsewhere (.ok none)

def follow (registry : Registry) (step : Step) : Registry := (registry.step (registry.actionOf step)).1

def actions (registry : Registry) : List Step → List Action
  | [] => []
  | first :: rest => registry.actionOf first :: (registry.follow first).actions rest

/-- The key that an entity holds, which is the one under which it is registered unless it was assigned. -/
def ownKey (registry : Registry) (ref : EntityRef) : Value := registry.keyOf (registry.entityOf ref)

def assignKey (registry : Registry) (ref : EntityRef) (key : Value) : Registry :=
  (registry.step (.assignKey (registry.entityOf ref) key)).1

end Registry

end LinearProgram
