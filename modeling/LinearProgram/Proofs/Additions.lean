import LinearProgram.Proofs.Creations
import LinearProgram.Proofs.LastWrite

/-!
Adding coefficients. The other side is looked for first, the problems are compared next, and only then the
coefficient is converted. An addition that fails leaves behind at most the entity that its target named; one that
succeeds writes one coefficient besides.
-/

namespace LinearProgram

namespace EntityRef

/-- The target is an entity of the opposite kind. Any other target is a name, also an entity of the same kind. -/
def Faces (ref : EntityRef) (target : Value) (other : EntityRef) : Prop :=
  target.handle = some other ∧ other.kind.isRow ≠ ref.kind.isRow

def counterKind (ref : EntityRef) : EntityKind := if ref.kind.isRow then .column else .row

def foreignFault (ref other : EntityRef) : Fault :=
  if ref.kind.isRow then Session.foreign ref other else Session.foreign other ref

/-- What is wrong with an addition: the other side is of another problem, it is a name that cannot be written, or
the coefficient is no number. The last only counts for two sides of one problem. -/
inductive Refuses (ref : EntityRef) (amount target : Value) (indices : List Value) : Fault → Prop where
  | foreign (other : EntityRef) : ref.Faces target other → other.problem ≠ ref.problem →
      Refuses ref amount target indices (ref.foreignFault other)
  | unwritten (fault : Fault) : (∀ other, ¬ ref.Faces target other) →
      Key.ofValues target indices = .error fault → Refuses ref amount target indices fault
  | unconverted (other : EntityRef) (fault : Fault) : ref.opposite target indices = .ok other →
      other.problem = ref.problem → amount.toBinary64 = .error fault → Refuses ref amount target indices fault

end EntityRef

/-- A session in which the other side of a coefficient was looked for. Only a name may bring an entity into being,
in the problem of the reference. -/
inductive Session.Met (session : Session) (ref : EntityRef) (target : Value) (indices : List Value) :
    Session → Prop where
  | faced (other : EntityRef) : ref.Faces target other → Met session ref target indices session
  | unwritten (fault : Fault) : (∀ other, ¬ ref.Faces target other) →
      Key.ofValues target indices = .error fault → Met session ref target indices session
  | named (key : String) (problem named : Problem) : (∀ other, ¬ ref.Faces target other) →
      Key.ofValues target indices = .ok key → session.problems[ref.problem]? = some problem →
      problem.Gains ref.counterKind key named →
      Met session ref target indices (session.setProblem ref.problem named)

structure Problem.Retains (before after : Problem) : Prop where
  view : ∀ kind key view, before.view? kind key = some view → after.view? kind key = some view
  objective : after.objective = before.objective
  name : after.name = before.name

structure Session.Retains (before after : Session) : Prop where
  problem : ∀ (index : Nat) (problem : Problem), before.problems[index]? = some problem →
    ∃ later, after.problems[index]? = some later ∧ problem.Retains later
  count : after.problems.length = before.problems.length
  solvers : after.solvers = before.solvers

structure Problem.Writes (index : Nat) (write : CellWrite) (before after : Problem) : Prop where
  joins : before.Joins index write
  cell : ∀ row column, after.cell? row column =
    if write.isFor ⟨index, .row, row⟩ ⟨index, .column, .text column⟩ then some write.x
    else before.cell? row column
  row : ∀ row, before.row? write.row.key = some row → after.row? write.row.key =
    some { row with cells := row.cells.insert write.column.key.display write.x }
  others : ∀ kind key, Problem.sameEntity kind write.row.kind key write.row.key = false →
    after.view? kind key = before.view? kind key
  aim : after.objective.map Aim.key = before.objective.map Aim.key
  name : after.name = before.name

namespace EntityRef

variable (ref : EntityRef) (target : Value) (indices : List Value)

theorem opposite_of_faces (other : EntityRef) (faces : ref.Faces target other) :
    ref.opposite target indices = .ok other := by
  simp [opposite, faces.1, faces.2]

theorem kind_of_names (names : ∀ other, ¬ ref.Faces target other) (other : EntityRef)
    (held : target.handle = some other) : other.kind.isRow = ref.kind.isRow := by
  by_contra apart
  exact names other ⟨held, apart⟩

-- A target that is no entity of the opposite kind is a name.
theorem opposite_of_names (names : ∀ other, ¬ ref.Faces target other) :
    ref.opposite target indices =
      (Key.ofValues target indices).map fun key => ⟨ref.problem, ref.counterKind, .text key⟩ := by
  unfold opposite
  cases held : target.handle with
  | none => rfl
  | some other => simp [ref.kind_of_names target names other held, counterKind]

theorem foreignFault_written (other : EntityRef) (own theirs : String) (written : ref.key.written = .ok own)
    (otherWritten : other.key.written = .ok theirs) :
    ref.foreignFault other =
      if ref.kind.isRow then .foreignEntity own theirs else .foreignEntity theirs own := by
  simp only [foreignFault, Session.foreign, written, otherWritten]

theorem faces_of_foreign (other : EntityRef) (found : ref.opposite target indices = .ok other)
    (apart : other.problem ≠ ref.problem) : ref.Faces target other := by
  by_cases faced : ∃ other, ref.Faces target other
  · obtain ⟨another, faces⟩ := faced
    cases (ref.opposite_of_faces target indices another faces).symm.trans found
    exact faces
  · rw [ref.opposite_of_names target indices (not_exists.mp faced)] at found
    obtain ⟨key, -, rfl⟩ := map_ok found
    exact absurd rfl apart

theorem opposite_error_iff (fault : Fault) :
    ref.opposite target indices = .error fault ↔
      (∀ other, ¬ ref.Faces target other) ∧ Key.ofValues target indices = .error fault := by
  by_cases faced : ∃ other, ref.Faces target other
  · obtain ⟨other, faces⟩ := faced
    rw [ref.opposite_of_faces target indices other faces]
    exact iff_of_false (fun fails => by cases fails) fun ⟨names, _⟩ => names other faces
  · rw [ref.opposite_of_names target indices (not_exists.mp faced)]
    refine Iff.trans ?_ (and_iff_right (not_exists.mp faced)).symm
    cases Key.ofValues target indices <;> simp [Except.map]

-- What is wrong comes in the order in which it is found.
theorem refuses_iff_opposite (amount : Value) (fault : Fault) :
    ref.Refuses amount target indices fault ↔
      match ref.opposite target indices with
      | .error unwritten => fault = unwritten
      | .ok other =>
          if other.problem = ref.problem then amount.toBinary64 = .error fault
          else fault = ref.foreignFault other := by
  constructor
  · intro refuses
    cases refuses with
    | foreign other faces apart => simp [ref.opposite_of_faces target indices other faces, apart]
    | unwritten _ names unwritten =>
        simp [(ref.opposite_error_iff target indices fault).mpr ⟨names, unwritten⟩]
    | unconverted other _ found here unconverted => simpa [found, here] using unconverted
  · intro wrong
    split at wrong
    next unwritten found =>
      obtain ⟨names, isUnwritten⟩ := (ref.opposite_error_iff target indices unwritten).mp found
      exact .unwritten fault names (wrong ▸ isUnwritten)
    next other found =>
      split at wrong
      next here => exact .unconverted other fault found here wrong
      next apart =>
        rw [wrong]
        exact .foreign other (ref.faces_of_foreign target indices other found apart) apart

-- An addition fails in one of three ways.
theorem refuses_iff (amount : Value) :
    (∃ fault, ref.Refuses amount target indices fault) ↔
      (∃ other, ref.Faces target other ∧ other.problem ≠ ref.problem) ∨
      ((∀ other, ¬ ref.Faces target other) ∧ ∃ fault, Key.ofValues target indices = .error fault) ∨
      ∃ fault, amount.toBinary64 = .error fault := by
  constructor
  · rintro ⟨fault, refuses⟩
    cases refuses with
    | foreign other faces apart => exact Or.inl ⟨other, faces, apart⟩
    | unwritten _ names unwritten => exact Or.inr (Or.inl ⟨names, fault, unwritten⟩)
    | unconverted _ _ _ _ unconverted => exact Or.inr (Or.inr ⟨fault, unconverted⟩)
  · rintro (⟨other, faces, apart⟩ | ⟨names, fault, unwritten⟩ | ⟨fault, unconverted⟩)
    · exact ⟨_, .foreign other faces apart⟩
    · exact ⟨fault, .unwritten fault names unwritten⟩
    · cases found : ref.opposite target indices with
      | error unwritten =>
          exact ⟨unwritten, (ref.refuses_iff_opposite target indices amount unwritten).mpr (by rw [found])⟩
      | ok other =>
          by_cases here : other.problem = ref.problem
          · exact ⟨fault, .unconverted other fault found here unconverted⟩
          · exact ⟨_, .foreign other (ref.faces_of_foreign target indices other found here) here⟩

end EntityRef

namespace Problem

theorem retains_refl (problem : Problem) : problem.Retains problem :=
  ⟨fun _ _ _ shown => shown, rfl, rfl⟩

-- A new entity is found under no reference that led somewhere before.
theorem Gains.retains {kind : EntityKind} {key : String} {before after : Problem}
    (gains : before.Gains kind key after) : before.Retains after := by
  cases gains with
  | there => exact before.retains_refl
  | new _ registers sameAim =>
      refine ⟨fun other otherKey view shown => ?_, sameAim, registers.name⟩
      rw [registers.others other otherKey ?_, shown]
      by_contra same
      simp only [sameEntity, Bool.not_eq_false, Bool.and_eq_true, beq_iff_eq] at same
      have isKey : otherKey = .text key := by
        cases otherKey with
        | text name => rw [beq_iff_eq.mp same.2]
        | _ => cases same.2
      refine registers.absent (Option.isSome_iff_exists.mpr ⟨view, ?_⟩)
      rw [← before.view?_congr kind other same.1, ← isKey, shown]

theorem writes_setCoefficient (problem : Problem) (index : Nat) (write : CellWrite)
    (joins : problem.Joins index write) :
    problem.Writes index write (problem.setCoefficient write.row.key write.column.key.display write.x) where
  joins := joins
  cell := by
    intro row column
    have written := problem.cell?_withWrite index write joins row column
    rwa [withWrite, if_pos joins.here.1] at written
  row := by
    intro row found
    rw [setCoefficient, row?_changeRow, Value.sameKey_self, if_pos rfl, found]
    rfl
  others := by
    intro kind key apart
    cases otherIsRow : kind.isRow with
    | true =>
        have different : key.sameKey write.row.key = false := by
          simpa [sameEntity, joins.sides.1, otherIsRow] using apart
        refine problem.view?_row_congr _ kind otherIsRow key ?_
        rw [setCoefficient, row?_changeRow, different, if_neg Bool.false_ne_true]
    | false =>
        cases kind.eq_column otherIsRow
        refine problem.view?_column_congr _ key fun name _ => ?_
        rw [setCoefficient, columns_changeRow]
  aim := by
    have bare (aim : Aim) : aim.bare.key = aim.key := by cases aim <;> rfl
    have same := congrArg (Option.map Aim.key) (problem.sameFrame_changeRow write.row.key fun row =>
      { row with cells := row.cells.insert write.column.key.display write.x }).aim
    simp only [Option.map_map, Function.comp_def, bare] at same
    exact same
  name := by
    unfold setCoefficient changeRow
    split
    · rfl
    · split <;> rfl

end Problem

namespace Session

variable (session : Session)

theorem retains_setProblem (index : Nat) (before after : Problem)
    (found : session.problems[index]? = some before) (retains : before.Retains after) :
    session.Retains (session.setProblem index after) where
  problem := by
    intro other problem there
    rw [session.getElem?_setProblem index other before after found]
    by_cases same : other = index
    · subst same
      cases found.symm.trans there
      exact ⟨after, if_pos rfl, retains⟩
    · exact ⟨problem, (if_neg same).trans there, problem.retains_refl⟩
  count := List.length_set
  solvers := rfl

theorem Met.retains {session met : Session} {ref : EntityRef} {target : Value} {indices : List Value}
    (meets : session.Met ref target indices met) : session.Retains met := by
  cases meets with
  | faced | unwritten => exact ⟨fun _ problem found => ⟨problem, found, problem.retains_refl⟩, rfl, rfl⟩
  | named key problem named _ _ found gains =>
      exact session.retains_setProblem ref.problem problem named found gains.retains

theorem Met.of_faces {session met : Session} {ref : EntityRef} {target : Value} {indices : List Value}
    (meets : session.Met ref target indices met) (faced : ∃ other, ref.Faces target other) : met = session := by
  obtain ⟨other, faces⟩ := faced
  cases meets with
  | faced | unwritten => rfl
  | named _ _ _ names => exact absurd faces (names other)

variable (ref : EntityRef) (amount target : Value) (indices : List Value)

theorem counterpart_of_faces (problem : Problem) (other : EntityRef) (faces : ref.Faces target other) :
    counterpart problem ref target indices = .ok (other, problem) := by
  rw [counterpart_eq, faces.1]
  simp [faces.2]

theorem counterpart_of_names (problem : Problem) (names : ∀ other, ¬ ref.Faces target other) :
    counterpart problem ref target indices = (Key.ofValues target indices).map fun key =>
      (⟨ref.problem, ref.counterKind, .text key⟩, problem.ensure ref.counterKind key) := by
  have byName : counterpart problem ref target indices = namedCounterpart problem ref target indices := by
    rw [counterpart_eq]
    cases held : target.handle with
    | none => rfl
    | some other => simp [ref.kind_of_names target names other held]
  rw [byName, namedCounterpart]
  unfold EntityRef.counterKind
  cases ref.kind.isRow <;> rfl

-- The problems are compared before the coefficient is converted, and the entity that was named stays.
theorem add_of_counterpart (problem named : Problem) (other : EntityRef)
    (found : session.problems[ref.problem]? = some problem)
    (looked : counterpart problem ref target indices = .ok (other, named)) :
    session.add ref amount target indices =
      if other.problem = ref.problem then
        match amount.toBinary64 with
        | .error fault => (session.setProblem ref.problem named).fail fault
        | .ok x =>
            let write := CellWrite.between ref other x
            (session.setProblem ref.problem
              (named.setCoefficient write.row.key write.column.key.display write.x)).answer (.value ref.key)
      else (session.setProblem ref.problem named).fail (ref.foreignFault other) := by
  have there := (problemAt_ok session ref.problem problem).mpr found
  unfold add
  rw [there, ok_bind, looked]
  by_cases here : other.problem = ref.problem
  · cases amount.toBinary64 with
    | error fault => simp [here]
    | ok x => cases isRow : ref.kind.isRow <;> simp [here, isRow, CellWrite.between, setProblem_setProblem]
  · unfold EntityRef.foreignFault
    cases ref.kind.isRow <;> simp [here]

theorem counterpart_ways (problem : Problem) (found : session.problems[ref.problem]? = some problem) :
    (∃ fault, ref.opposite target indices = .error fault ∧
      counterpart problem ref target indices = .error fault ∧ session.Met ref target indices session) ∨
    ∃ other named, ref.opposite target indices = .ok other ∧
      counterpart problem ref target indices = .ok (other, named) ∧
      session.Met ref target indices (session.setProblem ref.problem named) := by
  by_cases faced : ∃ other, ref.Faces target other
  · obtain ⟨other, faces⟩ := faced
    have same := session.setProblem_self ref.problem problem ((problemAt_ok session _ problem).mpr found)
    exact Or.inr ⟨other, problem, ref.opposite_of_faces target indices other faces,
      counterpart_of_faces ref target indices problem other faces, by rw [same]; exact .faced other faces⟩
  · have names := not_exists.mp faced
    have looked := counterpart_of_names ref target indices problem names
    have opposite := ref.opposite_of_names target indices names
    cases composed : Key.ofValues target indices with
    | error fault =>
        rw [composed] at looked opposite
        exact Or.inl ⟨fault, opposite, looked, .unwritten fault names composed⟩
    | ok key =>
        rw [composed] at looked opposite
        exact Or.inr ⟨_, _, opposite, looked,
          .named key problem _ names composed found (problem.gains_ensure ref.counterKind key)⟩

/-- An addition fails after the other side was looked for, or it writes its coefficient. -/
theorem add_ways (isIn : ref.IsIn session)
    (targetIsIn : ∀ other, target.handle = some other → other.IsIn session) :
    (∃ met fault, session.Met ref target indices met ∧
      (∀ other, ref.Refuses amount target indices other ↔ other = fault) ∧
      session.add ref amount target indices = met.fail fault) ∨
    ∃ met named written other x, session.Met ref target indices met ∧
      (∀ fault, ¬ ref.Refuses amount target indices fault) ∧ ref.opposite target indices = .ok other ∧
      amount.toBinary64 = .ok x ∧ met.problems[ref.problem]? = some named ∧
      named.Writes ref.problem (.between ref other x) written ∧
      session.add ref amount target indices =
        (met.setProblem ref.problem written).answer (.value ref.key) := by
  obtain ⟨problem, view, found, shown, -⟩ := isIn
  have refuses := ref.refuses_iff_opposite target indices amount
  rcases session.counterpart_ways ref target indices problem found with
    ⟨fault, opposite, looked, meets⟩ | ⟨other, named, opposite, looked, meets⟩
  · rw [opposite] at refuses
    refine Or.inl ⟨session, fault, meets, refuses, ?_⟩
    rw [add, (problemAt_ok session ref.problem problem).mpr found, ok_bind, looked]
  · rw [opposite] at refuses
    have adds := session.add_of_counterpart ref amount target indices problem named other found looked
    have there : (session.setProblem ref.problem named).problems[ref.problem]? = some named :=
      (session.getElem?_setProblem ref.problem ref.problem problem named found).trans (if_pos rfl)
    by_cases here : other.problem = ref.problem
    · simp only [if_pos here] at refuses adds
      cases converts : amount.toBinary64 with
      | error fault =>
          simp only [converts] at refuses adds
          refine Or.inl ⟨_, fault, meets, fun another => ?_, adds⟩
          rw [refuses, Except.error.injEq, eq_comm]
      | ok x =>
          simp only [converts] at refuses adds
          obtain ⟨sides, theirs⟩ :=
            session.has_counterpart problem named ref other target indices found targetIsIn looked here
          have mine : named.Has ref.kind ref.key := by
            obtain ⟨later, now, retains⟩ := meets.retains.problem ref.problem problem found
            cases there.symm.trans now
            exact Option.isSome_iff_exists.mpr ⟨view, retains.view _ _ view shown⟩
          refine Or.inr ⟨_, named, _, other, x, meets, fun fault wrong => ?_, opposite, rfl, there,
            named.writes_setCoefficient _ _ (joins_between named ref other x here sides mine theirs), ?_⟩
          · cases (refuses fault).mp wrong
          · rw [adds, setProblem_setProblem]
    · simp only [if_neg here] at refuses adds
      exact Or.inl ⟨_, _, meets, refuses, adds⟩

/-- An addition writes one coefficient, or leaves at most the entity that its target named. It fails if and only if
its target is an entity of the opposite kind from another problem, which counts before the coefficient is converted,
or is a name that cannot be written, or the coefficient is no number. A failing one keeps everything that was there:
with an entity as its target nothing has changed at all, and with a name there may be a new entity, about which
nothing is declared, in the problem of the reference. One that does not fail writes the coefficient of the two
entities besides, and nothing else. -/
theorem addition_writes_or_keeps (sound : (Step.add (some ref) amount target indices).IsSound session) :
    let added := session.step (.add (some ref) amount target indices)
    (∀ fault, added.2.answer = .error fault ↔ ref.Refuses amount target indices fault) ∧
    ((∃ fault, added.2.answer = .error fault) ↔
      (∃ other, ref.Faces target other ∧ other.problem ≠ ref.problem) ∨
      ((∀ other, ¬ ref.Faces target other) ∧ ∃ fault, Key.ofValues target indices = .error fault) ∨
      ∃ fault, amount.toBinary64 = .error fault) ∧
    (∀ other own theirs, ref.Faces target other → other.problem ≠ ref.problem →
      ref.key.written = .ok own → other.key.written = .ok theirs → added = session.fail
        (if ref.kind.isRow then .foreignEntity own theirs else .foreignEntity theirs own)) ∧
    ((∃ fault, added.2.answer = .error fault) → session.Retains added.1 ∧
      session.Met ref target indices added.1 ∧ ((∃ other, ref.Faces target other) → added.1 = session)) ∧
    ((∀ fault, added.2.answer ≠ .error fault) → ∃ met named written other x,
      session.Met ref target indices met ∧ session.Retains met ∧ met.problems[ref.problem]? = some named ∧
      ref.opposite target indices = .ok other ∧ amount.toBinary64 = .ok x ∧
      named.Writes ref.problem (.between ref other x) written ∧
      added.1 = met.setProblem ref.problem written ∧ added.2.answer = .ok (.value ref.key)) := by
  intro added
  have targetIsIn (other : EntityRef) (held : target.handle = some other) : other.IsIn session :=
    sound other (by simp [Step.handles, held])
  rcases session.add_ways ref amount target indices (sound ref (by simp [Step.handles])) targetIsIn with
    ⟨met, fault, meets, refuses, adds⟩ |
      ⟨met, named, written, other, x, meets, clear, opposite, converts, there, writes, adds⟩
  · have isAdded : added = met.fail fault := adds
    have fails (other : Fault) : added.2.answer = .error other ↔ ref.Refuses amount target indices other := by
      rw [isAdded, refuses]
      simp [fail, eq_comm]
    have stays (faced : ∃ other, ref.Faces target other) : met = session := meets.of_faces faced
    refine ⟨fails, ?_, fun other own theirs faces apart isOwn isTheirs => ?_, fun _ => ?_, fun clear => ?_⟩
    · rw [← ref.refuses_iff target indices amount]
      exact exists_congr fails
    · rw [isAdded, stays ⟨other, faces⟩, ← (refuses _).mp (.foreign other faces apart),
        ref.foreignFault_written other own theirs isOwn isTheirs]
    · rw [isAdded]
      exact ⟨meets.retains, meets, stays⟩
    · exact absurd ((fails fault).mpr ((refuses fault).mpr rfl)) (clear fault)
  · have isAdded : added = _ := adds
    have fails (fault : Fault) : added.2.answer = .error fault ↔ ref.Refuses amount target indices fault :=
      iff_of_false (by rw [isAdded]; exact fun fails => by cases fails) (clear fault)
    refine ⟨fails, ?_, fun other _ _ faces apart => ?_, ?_, fun _ => ?_⟩
    · rw [← ref.refuses_iff target indices amount]
      exact exists_congr fails
    · exact absurd (.foreign other faces apart) (clear _)
    · rintro ⟨fault, failing⟩
      exact absurd ((fails fault).mp failing) (clear fault)
    · rw [isAdded]
      exact ⟨met, named, written, other, x, meets, meets.retains, there, opposite, converts, writes, rfl, rfl⟩

section Blend

def twinSteps : List Step := blendSteps ++ [.problem (.text "twin"), .column 1 (.text "oil") []]

theorem twin_additions :
    let session := (run {} twinSteps).1
    let stock : EntityRef := ⟨0, .row, .text "stock"⟩
    session.step (.add (some stock) (.text "much") (EntityRef.value ⟨1, .column, .text "oil"⟩) []) =
        session.fail (.foreignEntity "stock" "oil") ∧
      session.Retains (session.step (.add (some stock) (.text "much") (.text "lead") [])).1 ∧
      ∃ met written, (session.step (.add (some stock) (.int 4) (.text "lead") [])).1 =
        Session.setProblem met 0 written := by
  intro session stock
  have isIn : stock.IsIn session := by decide +kernel
  have foreignSound : (Step.add (some stock) (.text "much")
      (EntityRef.value ⟨1, .column, .text "oil"⟩) []).IsSound session := by decide +kernel
  have named (amount : Value) : (Step.add (some stock) amount (.text "lead") []).IsSound session := by
    intro ref held
    simp only [Step.handles, Value.handle, List.mem_cons, Option.some.injEq, reduceCtorEq, List.not_mem_nil,
      or_false] at held
    exact held ▸ isIn
  clear_value session
  have names (other : EntityRef) : ¬ stock.Faces (.text "lead") other := fun faces => by cases faces.1
  obtain ⟨-, -, foreign, -, -⟩ := session.addition_writes_or_keeps stock _ _ _ foreignSound
  obtain ⟨-, fails, -, keeps, -⟩ := session.addition_writes_or_keeps stock _ _ _ (named (.text "much"))
  obtain ⟨-, failsNot, -, -, writes⟩ := session.addition_writes_or_keeps stock _ _ _ (named (.int 4))
  obtain ⟨unread, isUnread⟩ : ∃ fault, Value.toBinary64 (.text "much") = .error fault :=
    ⟨.unreadableNumber "'much'", by rfl⟩
  obtain ⟨four, isFour⟩ := ok_of_isOk (Value.toBinary64 (.int 4)) (by decide +kernel)
  obtain ⟨met, -, written, -, -, -, -, -, -, -, -, after, -⟩ := writes fun fault failing => by
    rcases failsNot.mp ⟨fault, failing⟩ with
      ⟨other, faces, -⟩ | ⟨-, unwritten, fails⟩ | ⟨unconverted, fails⟩
    · exact names other faces
    · cases fails
    · cases isFour.symm.trans fails
  exact ⟨foreign _ "stock" "oil" ⟨rfl, by decide⟩ (by decide) rfl rfl,
    (keeps (fails.mpr (Or.inr (Or.inr ⟨unread, isUnread⟩)))).1, met, written, after⟩

def asideSteps : List Step :=
  [.problem (.text "aside"), .objective 0 (.int 5) (.direction .minimize), .row 0 (.text "r") []]

-- An entity of the same kind is a name, and this one cannot be written.
theorem unwritable_name_refused :
    let session := (run {} asideSteps).1
    let row : EntityRef := ⟨0, .row, .text "r"⟩
    let target := EntityRef.value ⟨0, .objective, .int 5⟩
    SoundRun {} (asideSteps ++ [.add (some row) (.int 1) target []]) ∧
      (∀ other, ¬ row.Faces target other) ∧ (∃ one, Value.toBinary64 (.int 1) = .ok one) ∧
      session.step (.add (some row) (.int 1) target []) = session.fail (.notText "int") := by
  intro session row target
  refine ⟨by decide +kernel, fun other faces => ?_, ok_of_isOk _ (by decide +kernel), rfl⟩
  obtain ⟨held, apart⟩ := faces
  cases held
  exact apart rfl

end Blend

end Session

end LinearProgram
