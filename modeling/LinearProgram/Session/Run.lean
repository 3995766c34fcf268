import LinearProgram.Session.Basic

/-!
Taking steps. A reference leads to the entity under its key in its own problem; a handle that holds
nothing has no member to work on. Adding a coefficient joins a row and a column; the other side is an
entity of the opposite kind, or a name under which one is found or made in the same problem.
-/

namespace LinearProgram

namespace Session

def problemAt (session : Session) (index : Nat) : Except Fault Problem :=
  match session.problems[index]? with
  | some problem => .ok problem
  | none => .error .indexOutOfRange

def setProblem (session : Session) (index : Nat) (problem : Problem) : Session :=
  { session with problems := session.problems.set index problem }

def solverAt (session : Session) (index : Nat) : Except Fault Solver :=
  match session.solvers[index]? with
  | some solver => .ok solver
  | none => .error .indexOutOfRange

def setSolver (session : Session) (index : Nat) (solver : Solver) : Session :=
  { session with solvers := session.solvers.set index solver }

def fail (session : Session) (fault : Fault) : Session × Reply := (session, { answer := .error fault })

def answer (session : Session) (answer : Answer) : Session × Reply :=
  (session, { answer := .ok answer })

def inspect (session : Session) (index : Nat) (look : Problem → Except Fault Answer) :
    Session × Reply :=
  (session, { answer := session.problemAt index >>= look })

def present (session : Session) (ref : EntityRef) : Session × Reply :=
  session.inspect ref.problem fun problem =>
    match problem.view? ref.kind ref.key with
    | some view => .ok (.entity ref view)
    | none => .error .indexOutOfRange

def store (session : Session) (index : Nat) (changed : Except Fault Problem) (kind : EntityKind)
    (key : Value) : Session × Reply :=
  match changed with
  | .error fault => session.fail fault
  | .ok problem =>
      let kind := if kind.isRow then ((problem.row? key).map Row.kind).getD kind else kind
      (session.setProblem index problem).present ⟨index, kind, key⟩

def on (session : Session) (handle : Handle) (member : String)
    (act : EntityRef → Session × Reply) : Session × Reply :=
  match handle with
  | some ref => act ref
  | none => session.fail (.noSuchMember Value.null.kindName member)

def setName (session : Session) (index : Nat) (name : Value) : Session × Reply :=
  match session.problemAt index with
  | .error fault => session.fail fault
  | .ok problem => (session.setProblem index { problem with name }).answer (.value name)

/-- Numbers the columns and constraints of a problem and shows their numbers. Columns are numbered
even when the rows cannot be ordered. -/
def assignNumbers (session : Session) (index : Nat) : Session × Reply :=
  match session.problemAt index with
  | .error fault => session.fail fault
  | .ok problem =>
      let numbered := problem.assignNumbers
      let session := session.setProblem index numbered
      match numbered.checkOrder with
      | .error fault => session.fail fault
      | .ok _ =>
          session.answer
            (.numbers (numbered.columns.entries.map fun (key, column) => (key, column.number))
              (numbered.constraints.map fun (key, row) => (key, row.number)))

def ensure (session : Session) (index : Nat) (kind : EntityKind) (name : Value)
    (indices : List Value) : Session × Reply :=
  match session.problemAt index with
  | .error fault => session.fail fault
  | .ok problem =>
      match Key.ofValues name indices with
      | .error fault => session.fail fault
      | .ok key =>
          let ensured := if kind.isRow then problem.ensureRow key else problem.ensureColumn key
          session.store index (.ok ensured) kind (.text key)

def changeColumn (session : Session) (ref : EntityRef) (member : String)
    (change : Column → Column) : Session × Reply :=
  match ref.kind, ref.key with
  | .column, .text key =>
      session.store ref.problem ((session.problemAt ref.problem).map (·.changeColumn key change))
        .column ref.key
  | kind, _ => session.fail (.noSuchMember kind.name member)

def objective (session : Session) (index : Nat) (name direction : Value) : Session × Reply :=
  match name with
  | .null =>
      match session.problemAt index with
      | .error fault => session.fail fault
      | .ok problem =>
          match problem.objective with
          | none => session.answer .none
          | some aim => session.present ⟨index, .objective, aim.key⟩
  | name =>
      session.store index (session.problemAt index >>= (·.createObjective name direction))
        .objective name

/-- The other side of a coefficient: an entity of the opposite kind as it is, anything else as a
name. The second component is the problem in which a name was looked up. -/
def counterpart (problem : Problem) (ref : EntityRef) (target : Value) (indices : List Value) :
    Except Fault (EntityRef × Problem) :=
  let named : Except Fault (EntityRef × Problem) := do
    let key ← Key.ofValues target indices
    if ref.kind.isRow then pure (⟨ref.problem, .column, .text key⟩, problem.ensureColumn key)
    else pure (⟨ref.problem, .row, .text key⟩, problem.ensureRow key)
  match target with
  | .entity index kind key =>
      if kind.isRow != ref.kind.isRow then .ok (⟨index, kind, key⟩, problem) else named
  | _ => named

def foreign (row column : EntityRef) : Fault :=
  match row.key.written, column.key.written with
  | .ok row, .ok column => .foreignEntity row column
  | .error fault, _ | _, .error fault => fault

/-- Sets the coefficient of two entities. Entities of other problems are refused before the
coefficient is converted; a name that was made stays even when the conversion fails. -/
def add (session : Session) (ref : EntityRef) (coefficient target : Value) (indices : List Value) :
    Session × Reply :=
  match session.problemAt ref.problem >>= fun problem => counterpart problem ref target indices with
  | .error fault => session.fail fault
  | .ok (other, named) =>
      let (row, column) := if ref.kind.isRow then (ref, other) else (other, ref)
      let session := session.setProblem ref.problem named
      if other.problem != ref.problem then session.fail (foreign row column)
      else match coefficient.toBinary64 with
        | .error fault => session.fail fault
        | .ok x =>
            (session.setProblem ref.problem
              (named.setCoefficient row.key column.key.display x)).answer (.value ref.key)

def setDirection (session : Session) (ref : EntityRef) (direction : Value) : Session × Reply :=
  match ref.kind with
  | .objective =>
      session.store ref.problem
        ((session.problemAt ref.problem).map
          (·.changeRow ref.key fun row => { row with direction := some direction }))
        .objective ref.key
  | kind => session.fail (.noSuchMember kind.name "set_direction")

def assign (session : Session) (ref : EntityRef) (field : Field) (value : Value) :
    Session × Reply :=
  let change (problem : Problem) : Problem :=
    let common := problem.changeAttributes ref.kind ref.key
    match field with
    | .value => common fun attributes => { attributes with value }
    | .dual => common fun attributes => { attributes with dual := value }
    | .number => common fun attributes => { attributes with number := value }
    | .lower => common fun attributes => { attributes with lower := value }
    | .upper => common fun attributes => { attributes with upper := value }
    | .type => problem.changeRow ref.key fun row => { row with type := some value }
  if field = .type && !ref.kind.isRow then
    session.changeColumn ref field.name fun column => { column with type := value }
  else session.store ref.problem ((session.problemAt ref.problem).map change) ref.kind ref.key

def setBounds (session : Session) (ref : EntityRef) (lower upper : Value) : Session × Reply :=
  match session.problemAt ref.problem with
  | .error fault => session.fail fault
  | .ok problem =>
      let (bounded, outcome) := problem.setBounds ref.kind ref.key lower upper
      let session := session.setProblem ref.problem bounded
      match outcome with
      | .ok _ => session.present ref
      | .error fault => session.fail fault

def coefficient (session : Session) (index : Nat) (row column : Handle) : Session × Reply :=
  session.inspect index fun problem =>
    match row, column with
    | some row, some ⟨owner, .column, .text key⟩ =>
        .ok (.value (.float (if row.kind.isRow ∧ row.problem = index ∧ owner = index then
          problem.coefficient row.key key else .zero)))
    | _, _ => .ok (.value (.float .zero))

def describe (session : Session) (ref : EntityRef)
    (column : String → Column → Except Fault Answer)
    (row : Problem → Value → Row → Except Fault Answer) : Session × Reply :=
  session.inspect ref.problem fun problem =>
    match problem.view? ref.kind ref.key with
    | some (.column key attributes) => column key attributes
    | some (.row key attributes) => row problem key attributes
    | none => .error .indexOutOfRange

/-- The row as a column, which it is only when it was given a type. -/
def asColumn (row : Row) : Except Fault Column :=
  match row.asColumn? with
  | some column => .ok column
  | none => .error (.noSuchMember row.kind.name Field.type.name)

def columnText (session : Session) (ref : EntityRef) : Session × Reply :=
  session.describe ref (fun key column => (Listing.columnText key column).map .text)
    fun _ key row => do
      let name ← key.written
      (Listing.columnText name (← asColumn row)).map .text

def rowText (session : Session) (ref : EntityRef) : Session × Reply :=
  session.describe ref (fun _ _ => .error (.noSuchRow ref.value)) fun problem key row => do
    problem.checkOrder
    pure (.text (← Listing.rowText key row))

def engineBounds (session : Session) (ref : EntityRef) : Session × Reply :=
  let bounds (column : Column) : Answer := .bounds column.engineBounds.1 column.engineBounds.2
  session.describe ref (fun _ column => .ok (bounds column)) fun _ _ row => (asColumn row).map bounds

/-- What stands for a direction in a listing: an entity stands for its value. A value that has no text
stays as it is. -/
def shownDirection (session : Session) : Value → Value
  | .entity index kind key =>
      match (session.problems[index]?).bind (·.attributes? kind key) with
      | none => .entity index kind key
      | some attributes =>
          match attributes.value.written with
          | .ok text => .text text
          | .error _ => attributes.value
  | direction => direction

def listing (session : Session) (index : Nat) : Session × Reply :=
  session.inspect index fun problem =>
    let shown := match problem.objective with
      | none => problem
      | some aim =>
          problem.changeRow aim.key fun row =>
            { row with direction := row.direction.map session.shownDirection }
    shown.listing.map .text

def inspectRows (session : Session) (index : Nat) (look : Problem → Answer) : Session × Reply :=
  session.inspect index fun problem => problem.checkOrder.map fun _ => look problem

def rowAnswer (search : Search) (number : Int) (problem : Problem) : Except Fault Answer :=
  if problem.hasNestedNumbers then do
    pure (.nestedEntries (← (← problem.flattenNested).rowEntries search number))
  else problem.flatten.map fun triples => .entries (triples.rowEntries search number)

def configValues : ConfigChoice → Except Fault SolverConfig
  | .values config => .ok config
  | .source source => do pure (← (← source.load).settings).toConfig

def tune (session : Session) (index : Nat) (step : Settings → Tuned) : Session × Reply :=
  match session.solverAt index with
  | .error fault => session.fail fault
  | .ok solver =>
      let tuned := step solver.settings
      (session.setSolver index { solver with settings := tuned.settings },
        { answer := tuned.accepted.map .flag, notices := tuned.notices })

def addSolver (session : Session) (config : Except Fault SolverConfig) : Session × Reply :=
  match config with
  | .error fault => session.fail fault
  | .ok config =>
      let tuned := Settings.configure {} config
      match tuned.accepted with
      | .error fault => (session, { answer := .error fault, notices := tuned.notices })
      | .ok _ =>
          ({ session with solvers := session.solvers ++ [{ settings := tuned.settings }] },
            { answer := .ok (.settings tuned.settings), notices := tuned.notices })

def setListening (session : Session) (index : Nat) (listens : Bool) : Session × Reply :=
  match session.solverAt index with
  | .error fault => session.fail fault
  | .ok solver => (session.setSolver index { solver with listens }).answer .none

def configure (session : Session) (index : Nat) (config : Except Fault SolverConfig) :
    Session × Reply :=
  match session.solverAt index, config with
  | .ok _, .ok config => session.tune index fun settings => settings.configure config
  | .error fault, _ | .ok _, .error fault => session.fail fault

def inspectSolver (session : Session) (index : Nat) (look : Solver → Answer) : Session × Reply :=
  (session, { answer := (session.solverAt index).map look })

def solve (session : Session) (solver problem : Nat) (engine : Engine) : Session × Reply :=
  match session.solverAt solver, session.problemAt problem with
  | .ok given, .ok model =>
      let solved := given.solve model engine
      ((session.setProblem problem solved.problem).setSolver solver solved.solver,
        { answer := solved.outcome.map .flag, notices := solved.notices, calls := solved.calls
          messages := solved.messages })
  | .error fault, _ | _, .error fault => session.fail fault

def step (session : Session) : Step → Session × Reply
  | .problem name =>
      let problem : Problem := { name }
      ({ session with problems := session.problems ++ [problem] },
        { answer := problem.summary.map .text })
  | .setName index name => session.setName index name
  | .column index name indices => session.ensure index .column name indices
  | .row index name indices => session.ensure index .row name indices
  | .objective index name direction => session.objective index name direction
  | .newColumn index key =>
      session.store index (session.problemAt index >>= (·.createColumn key)) .column (.text key)
  | .newRow index key =>
      session.store index (session.problemAt index >>= (·.createRow key none)) .row (.text key)
  | .newObjective index key direction =>
      session.store index (session.problemAt index >>= (·.createRow key (some direction)))
        .objective (.text key)
  | .coefficient index row column => session.coefficient index row column
  | .columns index =>
      session.inspect index fun problem => .ok (.keys (problem.columns.keys.map .text))
  | .rows index => session.inspectRows index fun problem => .keys (problem.allRows.map (·.1))
  | .matrix index => session.inspectRows index fun problem => .matrix problem.matrixView
  | .listing index => session.listing index
  | .summary index => session.inspect index fun problem => problem.summary.map .text
  | .display handle => (session, { answer := (handleValue handle).written.map .text })
  | .quote handle => (session, { answer := (handleValue handle).shown.map .text })
  | .dump index => session.inspectRows index .problem
  | .setType handle type =>
      session.on handle "type" fun ref =>
        session.changeColumn ref "type" fun column => { column with type }
  | .setBounds handle lower upper =>
      session.on handle "bounds" fun ref => session.setBounds ref lower upper
  | .add handle coefficient target indices =>
      session.on handle "add" fun ref => session.add ref coefficient target indices
  | .setDirection handle direction =>
      session.on handle "set_direction" fun ref => session.setDirection ref direction
  | .assign handle field value =>
      session.on handle field.name fun ref => session.assign ref field value
  | .get handle =>
      match handle with
      | some ref => session.present ref
      | none => session.answer .none
  | .less a b =>
      (session, { answer := ((handleValue a).before (handleValue b)).map .flag })
  | .same a b => session.answer (.flag ((handleValue a).equals (handleValue b)))
  | .columnText handle => session.on handle "key" session.columnText
  | .rowText handle => session.on handle "problem" session.rowText
  | .engineBounds handle => session.on handle "lower_bound" session.engineBounds
  | .assignNumbers index => session.assignNumbers index
  | .flatten index =>
      session.inspect index fun problem =>
        if problem.hasNestedNumbers then problem.flattenNested.map .nestedTriples
        else problem.flatten.map .triples
  | .rowEntries index number => session.inspect index (rowAnswer .binary number)
  | .solver listens =>
      { session with solvers := session.solvers ++ [({ listens } : Solver)] }.answer (.settings {})
  | .solverFromConfig config => session.addSolver (configValues config)
  | .configure index config => session.configure index (configValues config)
  | .setPresolve index value => session.tune index fun settings => settings.setPresolve value
  | .setGap index value => session.tune index fun settings => settings.setGap value
  | .setTimeLimit index value => session.tune index fun settings => settings.setTimeLimit value
  | .setCallback index listens => session.setListening index listens
  | .settings index => session.inspectSolver index fun solver => .settings solver.settings
  | .state index => session.inspectSolver index fun solver => .state solver.state
  | .solve solver problem engine => session.solve solver problem engine

def run (session : Session) : List Step → Session × List Reply
  | [] => (session, [])
  | first :: rest =>
      let (next, reply) := session.step first
      let (last, replies) := run next rest
      (last, reply :: replies)

end Session

end LinearProgram
