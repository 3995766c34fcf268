import LinearProgram.Proofs.KeptNumbers
import Mathlib.Data.List.Sort

/-!
How long numbers last. A problem that was numbered is numbered still after any steps that create nothing and
assign no number, and whatever they create its column numbers are counts or zero.
-/

namespace LinearProgram

section Between

variable {kind : EntityKind} {declares declaresNext : EntityKind → Value → Prop} {before middle after : Problem}

namespace Problem

/-- Nothing that numbering counts has come to a problem: no column, or neither row nor objective. -/
def GainsNone (kind : EntityKind) (before after : Problem) : Prop :=
  match kind with
  | .column => after.columns.keys = before.columns.keys
  | .row | .objective =>
      after.rows.keys = before.rows.keys ∧ after.objective.isSome = before.objective.isSome

instance (kind : EntityKind) (before after : Problem) : Decidable (GainsNone kind before after) :=
  match kind with
  | .column => inferInstanceAs (Decidable (after.columns.keys = before.columns.keys))
  | .row | .objective =>
      inferInstanceAs (Decidable (after.rows.keys = before.rows.keys ∧
        after.objective.isSome = before.objective.isSome))

theorem Keeps.columnKeys (keeps : before.Keeps declares after) : before.columns.keys ⊆ after.columns.keys := by
  intro key member
  rw [Catalog.mem_keys_iff] at member ⊢
  obtain ⟨column, found⟩ := Option.isSome_iff_exists.mp member
  obtain ⟨kept, there, -⟩ := keeps.column key column found
  exact after.columns.contains_of_get? key kept there

theorem Keeps.rowKeys (keeps : before.Keeps declares after) : before.rows.keys ⊆ after.rows.keys := by
  intro key member
  rw [Catalog.mem_keys_iff] at member ⊢
  obtain ⟨row, found⟩ := Option.isSome_iff_exists.mp member
  obtain ⟨kept, there, -, -⟩ := keeps.row (.text key) row found
  exact after.rows.contains_of_get? key kept there

theorem Keeps.aimed (keeps : before.Keeps declares after) (aimed : before.objective.isSome = true) :
    after.objective.isSome = true := by
  obtain ⟨aim, isAim⟩ := Option.isSome_iff_exists.mp aimed
  obtain ⟨kept, isKept, -⟩ := keeps.aim aim isAim
  exact Option.isSome_iff_exists.mpr ⟨kept, isKept⟩

-- What came in between would be there at the end.
theorem gainsNone_between (keeps : before.Keeps declares middle) (keepsOn : middle.Keeps declaresNext after)
    (same : GainsNone kind before after) : GainsNone kind before middle ∧ GainsNone kind middle after := by
  cases kind with
  | column =>
      have back : middle.columns.keys ⊆ before.columns.keys :=
        fun key member => same ▸ keepsOn.columnKeys member
      have keys : middle.columns.keys = before.columns.keys :=
        List.Subset.antisymm_of_pairwise middle.columns.keys_pairwise before.columns.keys_pairwise back
          keeps.columnKeys
      exact ⟨keys, Eq.trans same keys.symm⟩
  | row | objective =>
      have back : middle.rows.keys ⊆ before.rows.keys :=
        fun key member => same.1 ▸ keepsOn.rowKeys member
      have keys : middle.rows.keys = before.rows.keys :=
        List.Subset.antisymm_of_pairwise middle.rows.keys_pairwise before.rows.keys_pairwise back keeps.rowKeys
      have aims : middle.objective.isSome = before.objective.isSome := by
        rw [Bool.eq_iff_iff]
        exact ⟨fun aimed => same.2 ▸ keepsOn.aimed aimed, keeps.aimed⟩
      exact ⟨⟨keys, aims⟩, same.1.trans keys.symm, same.2.trans aims.symm⟩

-- An objective that is not named by a text stays one.
theorem textObjective_of_keeps (keeps : before.Keeps declares after) (ordered : before.Ordered)
    (named : after.TextObjective) : before.TextObjective := by
  unfold TextObjective
  cases aside : before.beside? with
  | none => rfl
  | some entry =>
      obtain ⟨earlier, aimed⟩ := (before.beside?_eq_some_iff entry.1 entry.2).mp aside
      obtain ⟨kept, isKept, sameKey⟩ := keeps.aim _ aimed
      have notText := ordered.beside_notText entry.1 entry.2 aside
      cases kept with
      | row key => exact absurd sameKey.symm (notText key)
      | beside name row others =>
          have there := (after.beside?_eq_some_iff name row).mpr ⟨others, isKept⟩
          rw [named] at there
          cases there

theorem objective_of_gainsNone (keeps : before.Keeps declares after) (ordered : before.Ordered)
    (named : after.TextObjective) (same : after.objective.isSome = before.objective.isSome) :
    after.objective = before.objective := by
  have wasNamed := textObjective_of_keeps keeps ordered named
  cases aimed : before.objective with
  | none =>
      rw [aimed] at same
      exact Option.not_isSome_iff_eq_none.mp (Bool.not_eq_true _ ▸ same)
  | some aim =>
      obtain ⟨kept, isKept, sameKey⟩ := keeps.aim aim aimed
      rw [isKept]
      cases aim with
      | beside name row earlier => simp [TextObjective, beside?, aimed] at wasNamed
      | row key =>
          cases kept with
          | beside name row earlier => simp [TextObjective, beside?, isKept] at named
          | row other =>
              cases sameKey
              rfl

theorem countedKeys_of_gainsNone (keeps : before.Keeps declares after) (ordered : before.Ordered)
    (named : after.TextObjective) (same : GainsNone kind before after) :
    after.countedKeys kind = before.countedKeys kind := by
  cases kind with
  | column => exact same
  | row | objective =>
      have aims := objective_of_gainsNone keeps ordered named same.2
      show after.constraints.map (·.1) = before.constraints.map (·.1)
      rw [keys_constraints, keys_constraints, same.1]
      unfold isObjective
      rw [aims]

theorem KeepsNumbers.numberOf (keeps : before.KeepsNumbers kind after) (key : String) (number : Value)
    (was : before.numberOf kind (.text key) = some number) : after.numberOf kind (.text key) = some number := by
  cases kind with
  | column =>
      rw [numberOf_column] at was ⊢
      obtain ⟨column, found, rfl⟩ := Option.map_eq_some_iff.mp was
      exact keeps.kept key column found
  | row | objective =>
      rw [numberOf_row _ _ rfl] at was ⊢
      obtain ⟨row, found, rfl⟩ := Option.map_eq_some_iff.mp was
      exact keeps.kept key row found

theorem KeepsNumbers.numbered (keeps : before.KeepsNumbers kind after)
    (same : after.countedKeys kind = before.countedKeys kind) (numbered : before.Numbered kind) :
    after.Numbered kind := by
  intro key member
  rw [same] at member ⊢
  exact keeps.numberOf key _ (numbered key member)

theorem countedKeys_of_unsolved (same : after.unsolved = before.unsolved) :
    after.countedKeys kind = before.countedKeys kind := by
  have unsolved (problem : Problem) : problem.unsolved.countedKeys kind = problem.countedKeys kind := by
    cases kind with
    | column => exact problem.columns.keys_mapItems _
    | row | objective =>
        show problem.unsolved.constraints.map (·.1) = problem.constraints.map (·.1)
        rw [keys_constraints, keys_constraints, isObjective_unsolved]
        exact congrArg (List.filter fun key => !problem.isObjective key) (problem.rows.keys_mapItems _)
  rw [← unsolved after, same, unsolved]

def ColumnsCounted (problem : Problem) : Prop :=
  ∀ (key : String) (column : Column), problem.columns.get? key = some column →
    ∃ n : Nat, column.number = .int n ∧ n ≤ problem.columns.size

theorem Keeps.size_columns (keeps : before.Keeps declares after) : before.columns.size ≤ after.columns.size := by
  have distinct : before.columns.keys.Nodup := before.columns.keys_pairwise.imp String.ne_of_lt
  have fewer := (List.subperm_of_subset distinct keeps.columnKeys).length_le
  simpa [Catalog.keys, Catalog.size] using fewer

theorem KeepsNumbers.columnsCounted (numbers : before.KeepsNumbers .column after)
    (fewer : before.columns.size ≤ after.columns.size) (counted : before.ColumnsCounted) :
    after.ColumnsCounted := by
  intro key column found
  cases was : before.columns.get? key with
  | none => exact ⟨0, numbers.fresh key column was found, Nat.zero_le _⟩
  | some old =>
      have same := numbers.kept key old was
      rw [found, Option.map_some, Option.some.injEq] at same
      obtain ⟨n, isCount, atMost⟩ := counted key old was
      exact ⟨n, same.trans isCount, Nat.le_trans atMost fewer⟩

theorem columnsCounted_assignNumbers (problem : Problem) : problem.assignNumbers.ColumnsCounted := by
  intro key column found
  rw [get?_columns_assignNumbers] at found
  obtain ⟨old, was, rfl⟩ := Option.map_eq_some_iff.mp found
  have atMost := problem.columnNumber_le key (problem.columns.contains_of_get? key old was)
  refine ⟨problem.columnNumber key, rfl, Nat.le_trans atMost (Nat.le_of_eq ?_)⟩
  simp [Catalog.size, columns_assignNumbers]

end Problem

end Between

namespace Session

section Running

variable (session : Session) (kind : EntityKind) (index : Nat)

/-- Steps that create nothing that numbering counts and assign no number leave a numbered problem numbered. -/
theorem run_numbered (steps : List Step) (sound : session.SoundRun steps) (reachable : session.Reachable)
    (unassigned : ∀ step ∈ steps, step.assignsNumber index kind = false) (before after : Problem)
    (found : session.problems[index]? = some before)
    (there : (session.run steps).1.problems[index]? = some after) (named : after.TextObjective)
    (same : before.GainsNone kind after) (numbered : before.Numbered kind) : after.Numbered kind := by
  induction steps generalizing session before with
  | nil =>
      rw [run, found] at there
      cases there
      exact numbered
  | cons first rest ih =>
      obtain ⟨middle, isMiddle, keeps⟩ := (session.step_moved first sound.1).keeps index before found
      obtain ⟨last, isLast, keepsOn⟩ := (session.step first).1.run_keeps rest sound.2 index middle isMiddle
      rw [run, isLast] at there
      cases there
      have reached := Reachable.step session first reachable sound.1
      have ordered := reachable.ordered index before found
      obtain ⟨none, noneOn⟩ := Problem.gainsNone_between keeps keepsOn same
      have middleNamed := Problem.textObjective_of_keeps keepsOn (reached.ordered index middle isMiddle) named
      have keys := Problem.countedKeys_of_gainsNone keeps ordered middleNamed none
      obtain ⟨next, isNext, numbers⟩ :=
        session.step_numbers first (unassigned first List.mem_cons_self) before found
      rw [isMiddle] at isNext
      cases isNext
      have middleNumbered : middle.Numbered kind := by
        rcases numbers with kept | renumbered
        · exact kept.numbered keys numbered
        · have inOrder := before.inOrder_of_textObjective
            (Problem.textObjective_of_keeps keeps ordered middleNamed)
          exact renumbered.numbered (keys.trans (before.countedKeys_assignNumbers inOrder kind).symm)
            (before.numbered_assignNumbers inOrder kind)
      exact ih (session.step first).1 sound.2 reached
        (fun step member => unassigned step (List.mem_cons_of_mem _ member)) middle isMiddle isLast noneOn
        middleNumbered

/-- Steps that assign no number to a column leave them counts or zero, whatever they create. -/
theorem run_columnsCounted (steps : List Step) (sound : session.SoundRun steps)
    (unassigned : ∀ step ∈ steps, step.assignsNumber index .column = false) (before after : Problem)
    (found : session.problems[index]? = some before)
    (there : (session.run steps).1.problems[index]? = some after) (counted : before.ColumnsCounted) :
    after.ColumnsCounted := by
  induction steps generalizing session before with
  | nil =>
      rw [run, found] at there
      cases there
      exact counted
  | cons first rest ih =>
      obtain ⟨middle, isMiddle, keeps⟩ := (session.step_moved first sound.1).keeps index before found
      obtain ⟨next, isNext, numbers⟩ :=
        session.step_numbers first (unassigned first List.mem_cons_self) before found
      rw [isMiddle] at isNext
      cases isNext
      have middleCounted : middle.ColumnsCounted := by
        rcases numbers with kept | renumbered
        · exact kept.columnsCounted keeps.size_columns counted
        · have size : before.assignNumbers.columns.size = before.columns.size := by
            simp [Catalog.size, Problem.columns_assignNumbers]
          exact renumbered.columnsCounted (size ▸ keeps.size_columns) before.columnsCounted_assignNumbers
      exact ih (session.step first).1 sound.2
        (fun step member => unassigned step (List.mem_cons_of_mem _ member)) middle isMiddle there middleCounted

end Running

end Session

/-- A program that numbers a problem in one of its steps: what the problem was after this step, and what it is
at the end. -/
structure NumberedRun (earlier : List Step) (numbering : Step) (later : List Step) (index : Nat)
    (numbered problem : Problem) : Prop where
  sound : Session.SoundRun {} (earlier ++ numbering :: later)
  numbers : (Session.run {} earlier).1.numbersNow index numbering = true
  numbered : (Session.run {} (earlier ++ [numbering])).1.problems[index]? = some numbered
  reached : (Session.run {} (earlier ++ numbering :: later)).1.problems[index]? = some problem

namespace NumberedRun

variable {earlier later : List Step} {numbering : Step} {index : Nat} {numbered problem : Problem}

theorem run_later : (Session.run {} (earlier ++ numbering :: later)).1 =
    ((Session.run {} (earlier ++ [numbering])).1.run later).1 := by
  rw [← Session.run_append, List.append_assoc, List.singleton_append]

variable (program : NumberedRun earlier numbering later index numbered problem)

include program

theorem soundParts : Session.SoundRun {} (earlier ++ [numbering]) ∧
    (Session.run {} (earlier ++ [numbering])).1.SoundRun later := by
  have sound := program.sound
  rw [← List.singleton_append, ← List.append_assoc] at sound
  exact (Session.soundRun_append {} _ later).mp sound

theorem reachable : problem.Reachable :=
  ⟨_, Session.Reachable.run {} _ .start program.sound, List.mem_of_getElem? program.reached⟩

theorem keeps : ∃ declares, numbered.Keeps declares problem := by
  obtain ⟨last, isLast, keeps⟩ :=
    (Session.run {} (earlier ++ [numbering])).1.run_keeps later program.soundParts.2 index numbered
      program.numbered
  rw [← run_later, program.reached] at isLast
  cases isLast
  exact ⟨_, keeps⟩

/-- What the problem was before the step that numbers it. -/
theorem unnumbered : ∃ before : Problem, numbered.unsolved = before.unsolved ∧
    ∀ kind, before.assignNumbers.KeepsNumbers kind numbered := by
  have reachedBy := program.numbered
  rw [Session.run_append] at reachedBy
  cases was : (Session.run {} earlier).1.problems[index]? with
  | none =>
      obtain ⟨soundEarlier, soundNumbering⟩ := (Session.soundRun_append {} earlier _).mp program.soundParts.1
      have moved := (Session.run {} earlier).1.step_moved numbering soundNumbering.1
      obtain ⟨-, name, named, -⟩ := moved.fresh index numbered was reachedBy
      obtain ⟨asks, -⟩ := Bool.and_eq_true_iff.mp program.numbers
      -- a step that numbers a problem brings no other
      cases numbering with
      | assignNumbers | solve => exact named.elim
      | _ => cases asks
  | some before =>
      obtain ⟨other, there, same, keeps⟩ :=
        (Session.run {} earlier).1.step_numbersNow numbering program.numbers before was
      cases reachedBy.symm.trans there
      exact ⟨before, same, keeps⟩

theorem reachableNumbered : (Session.run {} (earlier ++ [numbering])).1.Reachable :=
  Session.Reachable.run {} _ .start program.soundParts.1

theorem textObjective_numbered (named : problem.TextObjective) : numbered.TextObjective := by
  obtain ⟨declares, keeps⟩ := program.keeps
  exact Problem.textObjective_of_keeps keeps
    (program.reachableNumbered.ordered index numbered program.numbered) named

/-- The numbers last as long as nothing that is counted comes and none of them is assigned by hand. -/
theorem numbered_still (kind : EntityKind) (unassigned : ∀ step ∈ later, step.assignsNumber index kind = false)
    (named : problem.TextObjective) (same : numbered.GainsNone kind problem) : problem.Numbered kind := by
  obtain ⟨before, unsolved, numbers⟩ := program.unnumbered
  have inOrder : before.orderFault? = none := by
    rw [← before.orderFault?_congr numbered unsolved]
    exact numbered.inOrder_of_textObjective (program.textObjective_numbered named)
  have keys : numbered.countedKeys kind = before.assignNumbers.countedKeys kind :=
    (Problem.countedKeys_of_unsolved unsolved).trans (before.countedKeys_assignNumbers inOrder kind).symm
  have start := (numbers kind).numbered keys (before.numbered_assignNumbers inOrder kind)
  have reached := program.reached
  rw [run_later] at reached
  exact Session.run_numbered _ kind index later program.soundParts.2 program.reachableNumbered unassigned
    numbered problem program.numbered reached named same start

theorem columnsCounted_still (unassigned : ∀ step ∈ later, step.assignsNumber index .column = false) :
    problem.ColumnsCounted := by
  obtain ⟨before, unsolved, numbers⟩ := program.unnumbered
  have size : before.assignNumbers.columns.size = numbered.columns.size := by
    have keys : numbered.countedKeys .column = before.countedKeys .column :=
      Problem.countedKeys_of_unsolved unsolved
    have lengths := congrArg List.length keys
    simp only [Problem.countedKeys, Catalog.keys, List.length_map] at lengths
    simp [Catalog.size, Problem.columns_assignNumbers, lengths]
  have start := (numbers .column).columnsCounted (Nat.le_of_eq size) before.columnsCounted_assignNumbers
  have reached := program.reached
  rw [run_later] at reached
  exact Session.run_columnsCounted _ index later program.soundParts.2 unassigned numbered problem
    program.numbered reached start

end NumberedRun

end LinearProgram
