import LinearProgram.Proofs.BuildOrder
import LinearProgram.Proofs.Steps
import Mathlib.Data.List.TakeWhile

/-!
References. A key can be read back: it tells the name and the index texts that it was made of, as long as
these have no marks of their own. So two references lead to one entity only if they are the same, whenever
they are taken, and what is between them does not put another entity in its place.
-/

namespace LinearProgram

namespace Key

def Plain (text : String) : Prop := '(' ∉ text.toList ∧ ')' ∉ text.toList ∧ ',' ∉ text.toList

instance (text : String) : Decidable (Plain text) :=
  inferInstanceAs (Decidable ('(' ∉ text.toList ∧ ')' ∉ text.toList ∧ ',' ∉ text.toList))

def readName (key : String) : List Char := key.toList.takeWhile (· != '(')

def readIndices (key : String) : List (List Char) :=
  match key.toList.dropWhile (· != '(') with
  | [] => []
  | _ :: rest => rest.dropLast.splitOn ','

theorem compose_cons (name first : String) (rest : List String) :
    (compose name (first :: rest)).toList =
      name.toList ++ '(' :: ([','].intercalate ((first :: rest).map String.toList) ++ [')']) := by
  simp [compose, String.toList_append, String.toList_intercalate]

theorem ne_of_notMem (text : String) (mark : Char) (absent : mark ∉ text.toList) :
    ∀ letter ∈ text.toList, (letter != mark) = true := by
  intro letter inside
  rw [bne_iff_ne]
  rintro rfl
  exact absent inside

theorem readName_compose (name : String) (indices : List String) (open_ : '(' ∉ name.toList) :
    readName (compose name indices) = name.toList := by
  have spared := ne_of_notMem name '(' open_
  unfold readName
  cases indices with
  | nil => exact List.takeWhile_eq_self_iff.mpr spared
  | cons first rest =>
      rw [compose_cons, List.takeWhile_append_of_pos spared]
      simp

theorem readIndices_compose (name : String) (indices : List String) (open_ : '(' ∉ name.toList)
    (comma : ∀ index ∈ indices, ',' ∉ index.toList) :
    readIndices (compose name indices) = indices.map String.toList := by
  have spared := ne_of_notMem name '(' open_
  unfold readIndices
  cases indices with
  | nil => rw [compose, List.dropWhile_eq_nil_iff.mpr spared]; rfl
  | cons first rest =>
      rw [compose_cons, List.dropWhile_append_of_pos spared, List.dropWhile_cons_of_neg (by simp)]
      simp only [List.dropLast_concat]
      refine List.splitOn_intercalate ',' ?_ (by simp)
      intro text inside
      obtain ⟨index, isIndex, rfl⟩ := List.mem_map.mp inside
      exact comma index isIndex

/-- Keys tell references apart. -/
theorem compose_eq_iff (name other : String) (indices others : List String)
    (nameOpen : '(' ∉ name.toList) (otherOpen : '(' ∉ other.toList)
    (commas : ∀ index ∈ indices, ',' ∉ index.toList) (otherCommas : ∀ index ∈ others, ',' ∉ index.toList) :
    compose name indices = compose other others ↔ name = other ∧ indices = others := by
  refine ⟨fun same => ⟨?_, ?_⟩, fun ⟨sameName, sameIndices⟩ => by rw [sameName, sameIndices]⟩
  · refine String.toList_injective ?_
    rw [← readName_compose name indices nameOpen, same, readName_compose other others otherOpen]
  · refine List.map_injective_iff.mpr (fun _ _ => String.toList_injective) ?_
    rw [← readIndices_compose name indices nameOpen commas, same,
      readIndices_compose other others otherOpen otherCommas]

example : [compose "x" [], compose "x" [""], compose "x" ["", ""]] = ["x", "x()", "x(,)"] := by decide

end Key

def Step.lookUp (kind : EntityKind) (index : Nat) (name : Value) (indices : List Value) : Step :=
  if kind.isRow then .row index name indices else .column index name indices

namespace Problem

variable (problem : Problem) (kind : EntityKind) (key : String)

theorem has_ensure : (problem.ensure kind key).Has kind (.text key) := by
  cases kind with
  | column => exact problem.has_ensureColumn key
  | row | objective => exact problem.has_ensureRow key

theorem ensure_of_has (has : problem.Has kind (.text key)) : problem.ensure kind key = problem := by
  cases kind with
  | column =>
      obtain ⟨name, column, same, there⟩ := (problem.has_column_iff _ rfl _).mp has
      cases same
      exact if_pos (Catalog.contains_of_get? _ key column there)
  | row | objective =>
      obtain ⟨row, there⟩ := (problem.has_row_iff _ rfl _).mp has
      exact if_pos (Catalog.contains_of_get? _ key row there)

theorem view?_congr (other : EntityKind) (same : other.isRow = kind.isRow) (key : Value) :
    problem.view? other key = problem.view? kind key := by
  cases kind <;> cases other <;> first | rfl | cases same

end Problem

namespace Session

variable (session : Session)

-- What is stored with an entity that it has is answered with that entity, under the kind that it has.
theorem store_shows (index : Nat) (before after : Problem) (found : session.problems[index]? = some before)
    (kind : EntityKind) (key : Value) (has : after.Has kind key) :
    ∃ on view, session.store index (.ok after) kind key =
        (session.setProblem index after).answer (.entity ⟨index, on, key⟩ view) ∧
      on.isRow = kind.isRow ∧ after.view? on key = some view ∧ view.kind = on := by
  have there := (problemAt_ok _ index after).mpr
    ((session.getElem?_setProblem index index before after found).trans (if_pos rfl))
  have presents (on : EntityKind) (view : EntityView) (shown : after.view? on key = some view) :
      (session.setProblem index after).present ⟨index, on, key⟩ =
        (session.setProblem index after).answer (.entity ⟨index, on, key⟩ view) := by
    simp [present, inspect, answer, there, shown, bind, Except.bind]
  cases isRow : kind.isRow with
  | true =>
      obtain ⟨row, held⟩ := (after.has_row_iff kind isRow key).mp has
      have shown : after.view? row.kind key = some (.row key row) := by
        unfold Row.kind
        split <;> simp [Problem.view?, held]
      refine ⟨row.kind, .row key row, ?_, ?_, shown, rfl⟩
      · simpa [store, isRow, held] using presents row.kind _ shown
      · unfold Row.kind
        split <;> rfl
  | false =>
      cases kind.eq_column isRow
      obtain ⟨name, column, rfl, held⟩ := (after.has_column_iff .column rfl key).mp has
      have shown : after.view? .column (.text name) = some (.column name column) := by
        simp [Problem.view?, held]
      exact ⟨.column, _, presents .column _ shown, rfl, shown, rfl⟩

-- A look-up succeeds, and answers with the entity that is under the key then.
theorem lookUp_answers (index : Nat) (problem : Problem) (found : session.problems[index]? = some problem)
    (kind : EntityKind) (name : Value) (indices : List Value) (key : String)
    (composed : Key.ofValues name indices = .ok key) :
    ∃ on view, session.step (.lookUp kind index name indices) =
        (session.setProblem index (problem.ensure kind key)).answer (.entity ⟨index, on, .text key⟩ view) ∧
      on.isRow = kind.isRow ∧ (problem.ensure kind key).view? on (.text key) = some view ∧
        view.kind = on := by
  have looks (as : EntityKind) (same : as.isRow = kind.isRow)
      (steps : session.step (.lookUp kind index name indices) = session.ensure index as name indices) :
      session.step (.lookUp kind index name indices) =
        session.store index (.ok (problem.ensure kind key)) as (.text key) := by
    rw [steps, ensure, (problemAt_ok session index problem).mpr found]
    simp only [composed, same, Problem.ensure]
  have has := problem.has_ensure kind key
  cases kind with
  | column =>
      rw [looks .column rfl rfl]
      exact store_shows session index problem _ found _ _ has
  | row | objective =>
      rw [looks .row rfl rfl]
      exact store_shows session index problem _ found .row _ has

-- A look-up of an entity that is there changes nothing, and answers with it.
theorem lookUp_again (index : Nat) (problem : Problem) (found : session.problems[index]? = some problem)
    (kind : EntityKind) (name : Value) (indices : List Value) (key : String)
    (composed : Key.ofValues name indices = .ok key) (on : EntityKind) (view : EntityView)
    (isRow : on.isRow = kind.isRow) (shows : problem.view? on (.text key) = some view)
    (isKind : view.kind = on) :
    session.step (.lookUp kind index name indices) =
      session.answer (.entity ⟨index, on, .text key⟩ view) := by
  obtain ⟨asOn, shown, looked, asRow, nowShows, nowKind⟩ :=
    session.lookUp_answers index problem found kind name indices key composed
  have has : problem.Has kind (.text key) := by
    rw [Problem.Has, ← problem.view?_congr kind on isRow, shows]
    rfl
  rw [problem.ensure_of_has kind key has] at looked nowShows
  rw [problem.view?_congr on asOn (asRow.trans isRow.symm), shows] at nowShows
  cases nowShows
  cases nowKind.symm.trans isKind
  rw [looked, session.setProblem_self index problem ((problemAt_ok session index problem).mpr found)]

-- What a reference shows, it shows after any run; no step puts another entity in its place.
theorem shows_after_run (ref : EntityRef) (problem : Problem) (view : EntityView)
    (found : session.problems[ref.problem]? = some problem)
    (shows : problem.view? ref.kind ref.key = some view) (steps : List Step)
    (sound : session.SoundRun steps) :
    ∃ later kept, (session.run steps).1.problems[ref.problem]? = some later ∧
      later.view? ref.kind ref.key = some kept ∧ kept.kind = view.kind ∧
      ((∀ step ∈ steps, ¬ step.Declares ref) → kept.declared = view.declared) := by
  obtain ⟨later, there, keeps⟩ := session.run_keeps steps sound ref.problem problem found
  obtain ⟨kept, shown, kind, same⟩ := keeps.view ref.kind ref.key view shows
  refine ⟨later, kept, there, shown, kind, fun spared => same ?_⟩
  rintro ⟨step, inside, declares⟩
  exact spared step inside declares

/-- A reference names one entity for ever, and only one. Two references to a problem lead to one entity if and
only if they have the same name and the same indices, whatever happens between them. Then the second leads to
what the first led to: nothing was put in its place, and it is what it was declared to be, if no step in
between declared it anew. -/
theorem reference_names_one (index : Nat) (problem : Problem)
    (found : session.problems[index]? = some problem) (kind : EntityKind) (name other : Value)
    (indices others : List Value) (text otherText : String) (texts otherTexts : List String)
    (written : name.written = .ok text ∧ indices.mapM Value.written = .ok texts)
    (otherWritten : other.written = .ok otherText ∧ others.mapM Value.written = .ok otherTexts)
    (plain : ∀ part ∈ text :: texts, Key.Plain part)
    (otherPlain : ∀ part ∈ otherText :: otherTexts, Key.Plain part) (between : List Step)
    (sound : (session.step (.lookUp kind index name indices)).1.SoundRun between) :
    let met := session.step (.lookUp kind index name indices)
    let later := (met.1.run between).1
    let again := later.step (.lookUp kind index other others)
    ∃ one view another shown, met.2.answer = .ok (.entity one view) ∧
      again.2.answer = .ok (.entity another shown) ∧
      (one.same another = true ↔ text = otherText ∧ texts = otherTexts) ∧ one.IsIn again.1 ∧
      (one.same another = true → another = one ∧ again.1 = later ∧
        ((∀ step ∈ between, ¬ step.Declares one) → shown.declared = view.declared)) := by
  intro met later again
  have key : Key.ofValues name indices = .ok (Key.compose text texts) := by
    simp [Key.ofValues, written, bind, Except.bind, pure, Except.pure]
  have otherKey : Key.ofValues other others = .ok (Key.compose otherText otherTexts) := by
    simp [Key.ofValues, otherWritten, bind, Except.bind, pure, Except.pure]
  obtain ⟨on, view, looked, isRow, shows, isKind⟩ :=
    session.lookUp_answers index problem found kind name indices _ key
  obtain ⟨now, still, there, stillShows, sameKind, undeclared⟩ :=
    met.1.shows_after_run ⟨index, on, .text (Key.compose text texts)⟩ _ view
      (by rw [show met = _ from looked]
          exact (session.getElem?_setProblem index index problem _ found).trans (if_pos rfl))
      shows between sound
  obtain ⟨asOn, shown, lookedAgain, asRow, -, -⟩ :=
    later.lookUp_answers index now there kind other others _ otherKey
  have sameIff : EntityRef.same ⟨index, on, .text (Key.compose text texts)⟩
      ⟨index, asOn, .text (Key.compose otherText otherTexts)⟩ = true ↔
        text = otherText ∧ texts = otherTexts := by
    rw [← Key.compose_eq_iff text otherText texts otherTexts
      (plain text List.mem_cons_self).1 (otherPlain otherText List.mem_cons_self).1
      (fun part inside => (plain part (List.mem_cons_of_mem _ inside)).2.2)
      (fun part inside => (otherPlain part (List.mem_cons_of_mem _ inside)).2.2)]
    simp [EntityRef.same_eq, Problem.sameEntity, isRow, asRow, Value.sameKey]
  have isIn : EntityRef.IsIn ⟨index, on, .text (Key.compose text texts)⟩ later :=
    ⟨now, still, there, stillShows, sameKind.trans isKind⟩
  have soundAgain : (Step.lookUp kind index other others).IsSound later := by
    intro ref member
    cases kind <;> cases member
  have keptAgain := (later.step_moved _ soundAgain).keeps.isIn _ isIn
  refine ⟨_, view, _, shown, by rw [show met = _ from looked]; rfl,
    by rw [show again = _ from lookedAgain]; rfl, sameIff, keptAgain, fun same => ?_⟩
  obtain ⟨rfl, rfl⟩ := sameIff.mp same
  have unchanged := later.lookUp_again index now there kind other others _ otherKey on still isRow
    stillShows (sameKind.trans isKind)
  cases congrArg (fun result => result.2.answer) (lookedAgain.symm.trans unchanged)
  exact ⟨rfl, by rw [show again = _ from unchanged]; rfl, undeclared⟩

section Oil

def oilSession : Session := { problems := [{ name := .text "oils" }] }

def oilSteps : List Step :=
  let oil : Handle := some ⟨0, .column, .text "oil(1)"⟩
  [.setType oil (.columnType .integer), .add oil (.int 2) (.text "stock") [], .column 0 (.text "oil") [],
    .add oil (.text "many") (.text "stock") [], .newColumn 0 "oil(1)"]

theorem oil_names_one :
    oilSession.SoundRun (.lookUp .column 0 (.text "oil") [.int 1] :: oilSteps) ∧
      let met := oilSession.step (.lookUp .column 0 (.text "oil") [.int 1])
      let later := (met.1.run oilSteps).1
      ∃ one view shown, met.2.answer = .ok (.entity one view) ∧
        (later.step (.lookUp .column 0 (.text "oil") [.text "1"])).2.answer = .ok (.entity one shown) := by
  have sound : oilSession.SoundRun (.lookUp .column 0 (.text "oil") [.int 1] :: oilSteps) := by
    decide +kernel
  obtain ⟨one, view, another, shown, met, again, sameIff, -, kept⟩ :=
    oilSession.reference_names_one 0 _ rfl .column (.text "oil") (.text "oil") [.int 1] [.text "1"] "oil" "oil"
      ["1"] ["1"] ⟨rfl, rfl⟩ ⟨rfl, rfl⟩ (by decide +kernel) (by decide +kernel) oilSteps sound.2
  obtain ⟨rfl, -⟩ := kept (sameIff.mpr ⟨rfl, rfl⟩)
  exact ⟨sound, _, view, shown, met, again⟩

end Oil

end Session

end LinearProgram
