import LinearProgram.Proofs.Steps

/-!
What a problem stores. Columns and rows stand under keys of their own, rows came once each, each coefficient
joins a row and a column of the problem, and the objective is one of the rows. Every step keeps this, also a
step that fails halfway, and no step gives a problem another objective.
-/

namespace LinearProgram

def Aim.bare : Aim → Aim
  | .row key => .row key
  | .beside name _ earlier => .beside name {} earlier

namespace Problem

structure SameFrame (before after : Problem) : Prop where
  arrivals : after.arrivals = before.arrivals
  rows : ∀ key, after.rows.contains key = before.rows.contains key
  aim : after.objective.map Aim.bare = before.objective.map Aim.bare

/-- What every step keeps about rows and objective: rows come once each, and the objective is a row. One that
stands beside the others is named by no text, and knows the rows that came before it. -/
structure Ordered (problem : Problem) : Prop where
  once : problem.arrivals.toList.Nodup
  came : ∀ key, key ∈ problem.arrivals.toList ↔ problem.rows.contains key = true
  objective : ∀ aim, problem.objective = some aim →
    ∃ row, problem.row? aim.key = some row ∧ row.kind = .objective
  beside : ∀ name row earlier, problem.objective = some (.beside name row earlier) →
    (∀ key, name ≠ .text key) ∧ earlier <+: problem.arrivals.toList

section Frames

variable (problem : Problem)

theorem sameFrame_columns (name : Value) (columns : Catalog Column) :
    SameFrame problem { problem with name, columns } :=
  ⟨rfl, fun _ => rfl, rfl⟩

theorem sameFrame_changeRow (key : Value) (change : Row → Row) :
    SameFrame problem (problem.changeRow key change) := by
  unfold changeRow
  split
  next key =>
    refine ⟨rfl, fun other => ?_, rfl⟩
    simp only [Catalog.contains, Catalog.get?_modify]
    split
    next same => rw [same, Option.isSome_map]
    next => rfl
  next =>
    split
    next name row earlier aimed => exact ⟨rfl, fun _ => rfl, by rw [aimed]; rfl⟩
    next => exact ⟨rfl, fun _ => rfl, rfl⟩

theorem sameFrame_assignNumbers : SameFrame problem problem.assignNumbers := by
  refine ⟨rfl, fun key => ?_, rfl⟩
  obtain ⟨number, numbered⟩ := problem.row?_assignNumbers (.text key)
  rw [row?_text, row?_text] at numbered
  rw [Catalog.contains, numbered, Option.isSome_map]
  rfl

theorem sameFrame_withWrite (index : Nat) (write : Option CellWrite) :
    SameFrame problem (problem.withWrite index write) := by
  unfold withWrite
  split
  · split
    · exact problem.sameFrame_changeRow _ _
    · exact ⟨rfl, fun _ => rfl, rfl⟩
  · exact ⟨rfl, fun _ => rfl, rfl⟩

end Frames

theorem SameFrame.ordered {declares : EntityKind → Value → Prop} {before after : Problem}
    (same : SameFrame before after) (keeps : before.Keeps declares after) (ordered : before.Ordered) :
    after.Ordered := by
  have aimed (aim : Aim) (isAim : after.objective = some aim) :
      ∃ old, before.objective = some old ∧ old.bare = aim.bare := by
    have bare := same.aim
    rw [isAim, Option.map_some] at bare
    exact Option.map_eq_some_iff.mp bare.symm
  constructor
  case once => exact same.arrivals ▸ ordered.once
  case came => intro key; rw [same.arrivals, same.rows, ordered.came]
  case objective =>
    intro aim isAim
    obtain ⟨old, wasAim, _⟩ := aimed aim isAim
    obtain ⟨kept, isKept, sameKey⟩ := keeps.aim old wasAim
    rw [isAim] at isKept
    cases isKept
    obtain ⟨row, found, kind⟩ := ordered.objective old wasAim
    obtain ⟨later, there, sameKind, _⟩ := keeps.row old.key row found
    exact ⟨later, by rw [sameKey, there], sameKind.trans kind⟩
  case beside =>
    intro name row earlier isAim
    obtain ⟨old, wasAim, bare⟩ := aimed _ isAim
    cases old with
    | row key => cases bare
    | beside oldName oldRow oldEarlier =>
        cases bare
        rw [same.arrivals]
        exact ordered.beside name oldRow earlier wasAim

theorem ordered_empty (name : Value) : Ordered { name } :=
  ⟨List.nodup_nil, fun _ => by simp [Catalog.contains], fun _ aimed => (by cases aimed),
    fun _ _ _ aimed => (by cases aimed)⟩

theorem ordered_addRow (problem : Problem) (key : String) (direction : Option Value)
    (fresh : ¬ problem.rows.contains key = true) (ordered : problem.Ordered) :
    (problem.addRow key { direction }).Ordered := by
  have gains := problem.gainsRows_addRow key { direction } rfl fresh
  have unseen : key ∉ problem.arrivals.toList := mt (ordered.came key).mp fresh
  refine ⟨?_, fun other => ?_, fun aim aimed => ?_, fun name row earlier aimed => ?_⟩
  · rw [addRow, Array.toList_push]
    refine List.nodup_append.mpr ⟨ordered.once, List.pairwise_singleton _ key, ?_⟩
    rintro other inside another here rfl
    exact unseen (List.mem_singleton.mp here ▸ inside)
  · simp [addRow, Catalog.contains_insert, ← ordered.came, or_comm]
  · obtain ⟨row, found, kind⟩ := ordered.objective aim aimed
    exact ⟨row, gains.rows aim.key row found, kind⟩
  · obtain ⟨notText, begins⟩ := ordered.beside name row earlier aimed
    refine ⟨notText, ?_⟩
    rw [addRow, Array.toList_push]
    exact begins.trans (List.prefix_append _ _)

end Problem

theorem Edit.ordered {builds : Prop} {names : Value → Prop} {declares : EntityKind → Value → Prop}
    {before after : Problem} (edit : Edit builds names declares before after) (ordered : before.Ordered) : after.Ordered := by
  have keeps := edit.keeps
  cases edit with
  | row key direction _ fresh => exact before.ordered_addRow key direction fresh ordered
  | aim key row _ unaimed found kind =>
      refine ⟨ordered.once, ordered.came, fun aim aimed => ?_, fun name aside earlier aimed => ?_⟩
      · cases aimed
        exact ⟨row, found, kind⟩
      · cases aimed
  | aside name direction _ unaimed _ _ notText =>
      refine ⟨ordered.once, ordered.came, fun aim aimed => ?_, fun other row earlier aimed => ?_⟩
      · cases aimed
        refine ⟨{ direction := some direction }, ?_, rfl⟩
        cases name with
        | text key => exact absurd rfl (notText key)
        | _ => rfl
      · cases aimed
        exact ⟨notText, List.prefix_refl _⟩
  | rename name _ => exact (before.sameFrame_columns name before.columns).ordered keeps ordered
  | column key _ _ | changeColumn key _ _ =>
      exact (before.sameFrame_columns before.name _).ordered keeps ordered
  | changeRow key change _ _ _ => exact (before.sameFrame_changeRow key change).ordered keeps ordered
  | number => exact before.sameFrame_assignNumbers.ordered keeps ordered

theorem Edits.ordered {builds : Prop} {names : Value → Prop} {declares : EntityKind → Value → Prop}
    {before after : Problem} (edits : Edits builds names declares before after) (ordered : before.Ordered) : after.Ordered := by
  induction edits with
  | refl => exact ordered
  | tail _ edit ih => exact edit.ordered ih

namespace Session

def Ordered (session : Session) : Prop :=
  ∀ (index : Nat) (problem : Problem), session.problems[index]? = some problem → problem.Ordered

theorem Moved.ordered {builds : Prop} {names : Value → Prop} {declares : EntityRef → Prop} {write : Option CellWrite}
    {before after : Session} (moved : Moved builds names declares write before after)
    (ordered : before.Ordered) : after.Ordered := by
  intro index problem found
  cases was : before.problems[index]? with
  | none =>
      obtain ⟨-, name, -, rfl⟩ := moved.fresh index problem was found
      exact Problem.ordered_empty name
  | some old =>
      obtain ⟨edited, edits, _, there⟩ := moved.edits index old was
      rw [found] at there
      cases there
      have kept : edited.Keeps (fun _ _ => False) (edited.withWrite index write) :=
        edited.keeps_withWrite index write
      exact (edited.sameFrame_withWrite index write).ordered kept (edits.ordered (ordered index old was))

theorem Reachable.ordered {session : Session} (reachable : session.Reachable) : session.Ordered := by
  induction reachable with
  | start => exact fun index problem found => by simp at found
  | step session step _ sound ih => exact (session.step_moved step sound).ordered ih

end Session

namespace Problem

theorem Reachable.ordered {problem : Problem} (reachable : problem.Reachable) : problem.Ordered := by
  obtain ⟨session, reached, member⟩ := reachable
  obtain ⟨index, found⟩ := List.mem_iff_getElem?.mp member
  exact reached.ordered index problem found

structure Consistent (problem : Problem) : Prop where
  columnKeys : problem.columns.keys.Nodup
  column : ∀ key column, (key, column) ∈ problem.columns.entries ↔ problem.columns.get? key = some column
  rowKeys : problem.allRows.Pairwise fun one other => one.1.sameKey other.1 = false
  row : ∀ key row, (key, row) ∈ problem.allRows → problem.row? key = some row
  rowThere : ∀ key row, problem.row? key = some row →
    ∃ own, (own, row) ∈ problem.allRows ∧ own.sameKey key = true
  arrivals : problem.arrivals.toList.Nodup ∧
    ∀ key, key ∈ problem.arrivals.toList ↔ problem.rows.contains key = true
  matrixRows : problem.matrixView.map (·.1) = problem.allRows.map (·.1)
  cells : ∀ key cells, (key, cells) ∈ problem.matrixView → (cells.map (·.1)).Nodup ∧
    ∀ column x, (column, x) ∈ cells →
      problem.columns.contains column = true ∧ problem.cell? key column = some x
  objective : ∀ aim, problem.objective = some aim →
    ∃ row, (aim.key, row) ∈ problem.allRows ∧ row.kind = .objective

section Showing

variable (problem : Problem)

theorem mem_allRows_iff (key : Value) (row : Row) :
    (key, row) ∈ problem.allRows ↔
      (∃ name, key = .text name ∧ problem.rows.get? name = some row) ∨ problem.beside? = some (key, row) := by
  simp only [allRows, List.mem_append, List.mem_map, Option.mem_toList, Prod.mk.injEq,
    Prod.exists, Catalog.mem_entries_iff]
  refine or_congr ⟨?_, ?_⟩ Iff.rfl
  · rintro ⟨name, found, there, rfl, rfl⟩
    exact ⟨name, rfl, there⟩
  · rintro ⟨name, rfl, there⟩
    exact ⟨name, row, there, rfl, rfl⟩

theorem row?_of_notText (key : Value) (notText : ∀ name, key ≠ .text name) :
    problem.row? key = problem.beside?.map (·.2) := by
  cases key with
  | text name => exact absurd rfl (notText name)
  | _ => rfl

theorem beside?_eq_some_iff (key : Value) (row : Row) :
    problem.beside? = some (key, row) ↔ ∃ earlier, problem.objective = some (.beside key row earlier) := by
  unfold beside?
  split
  next name aimed earlier isAim => simp [isAim, eq_comm]
  next other => simpa using fun earlier same => other key row earlier same

theorem Ordered.beside_notText {problem : Problem} (ordered : problem.Ordered) (key : Value) (row : Row)
    (aside : problem.beside? = some (key, row)) : ∀ name, key ≠ .text name := by
  obtain ⟨earlier, aimed⟩ := (problem.beside?_eq_some_iff key row).mp aside
  exact (ordered.beside key row earlier aimed).1

theorem Ordered.row?_of_mem {problem : Problem} (ordered : problem.Ordered) (key : Value) (row : Row)
    (inside : (key, row) ∈ problem.allRows) : problem.row? key = some row := by
  rcases (problem.mem_allRows_iff key row).mp inside with ⟨name, rfl, there⟩ | aside
  · exact there
  · rw [problem.row?_of_notText key (ordered.beside_notText key row aside), aside]
    rfl

theorem mem_of_row? (key : Value) (row : Row) (found : problem.row? key = some row)
    (ordered : problem.Ordered) : ∃ own, (own, row) ∈ problem.allRows ∧ own.sameKey key = true := by
  cases key with
  | text name => exact ⟨.text name, (problem.mem_allRows_iff _ row).mpr (Or.inl ⟨name, rfl, found⟩),
      Value.sameKey_self _⟩
  | _ =>
      obtain ⟨⟨own, aimed⟩, aside, rfl⟩ := Option.map_eq_some_iff.mp found
      refine ⟨own, (problem.mem_allRows_iff own aimed).mpr (Or.inr aside), ?_⟩
      cases own with
      | text name => exact absurd rfl (ordered.beside_notText _ aimed aside name)
      | _ => rfl

theorem Ordered.rowKeys {problem : Problem} (ordered : problem.Ordered) :
    problem.allRows.Pairwise fun one other => one.1.sameKey other.1 = false := by
  unfold allRows
  refine List.pairwise_append.mpr ⟨?_, ?_, ?_⟩
  · refine List.pairwise_map.mpr (problem.rows.ascending.imp fun {one other} before => ?_)
    simpa [Value.sameKey] using String.ne_of_lt before
  · cases problem.beside? <;> simp
  · intro one inRows other aside
    obtain ⟨entry, _, rfl⟩ := List.mem_map.mp inRows
    obtain ⟨name, row⟩ := other
    have notText := ordered.beside_notText name row (by simpa using aside)
    cases name with
    | text name => exact absurd rfl (notText name)
    | _ => rfl

theorem Ordered.objective_mem {problem : Problem} (ordered : problem.Ordered) (aim : Aim)
    (aimed : problem.objective = some aim) :
    ∃ row, (aim.key, row) ∈ problem.allRows ∧ row.kind = .objective := by
  obtain ⟨row, found, kind⟩ := ordered.objective aim aimed
  refine ⟨row, (problem.mem_allRows_iff aim.key row).mpr ?_, kind⟩
  cases aim with
  | row key => exact Or.inl ⟨key, rfl, found⟩
  | beside name _ earlier =>
      have aside := (problem.beside?_eq_some_iff name _).mpr ⟨earlier, aimed⟩
      have same := ordered.row?_of_mem name _ ((problem.mem_allRows_iff name _).mpr (Or.inr aside))
      cases found.symm.trans same
      exact Or.inr aside

/-- Rows and objective in order, and coefficients of registered columns only: the store is consistent. -/
theorem Ordered.consistent {problem : Problem} (ordered : problem.Ordered) (closed : problem.Closed) :
    problem.Consistent where
  columnKeys := problem.columns.keys_pairwise.imp fun before => String.ne_of_lt before
  column := fun key column => problem.columns.mem_entries_iff key column
  rowKeys := ordered.rowKeys
  row := ordered.row?_of_mem
  rowThere := fun key row found => problem.mem_of_row? key row found ordered
  arrivals := ⟨ordered.once, ordered.came⟩
  matrixRows := by simp [matrixView]
  cells := by
    intro key cells inside
    obtain ⟨⟨_, row⟩, here, same⟩ := List.mem_map.mp inside
    cases same
    have found := ordered.row?_of_mem key row here
    refine ⟨row.cells.keys_pairwise.imp fun before => String.ne_of_lt before, fun column x cell => ?_⟩
    have stored := (row.cells.mem_entries_iff column x).mp cell
    exact ⟨closed key row column x found stored, by rw [cell?, found]; exact stored⟩
  objective := ordered.objective_mem

end Showing

end Problem

theorem Session.Reachable.consistent {session : Session} (reachable : session.Reachable) (index : Nat)
    (problem : Problem) (found : session.problems[index]? = some problem) : problem.Consistent :=
  (reachable.ordered index problem found).consistent
    (reachable.closed problem (List.mem_of_getElem? found))

/-- The store of every problem that a program reaches is consistent, whichever steps failed on the way. The
problem stays where it is, and the objective that it has is its objective from then on. -/
theorem Session.store_consistent (steps more : List Step) (sound : SoundRun {} (steps ++ more))
    (index : Nat) (problem : Problem) (found : (run {} steps).1.problems[index]? = some problem) :
    problem.Consistent ∧ ∃ later, (run {} (steps ++ more)).1.problems[index]? = some later ∧
      later.Consistent ∧ ∀ aim, problem.objective = some aim →
        (∃ kept, later.objective = some kept ∧ kept.key = aim.key) ∧
          EntityRef.IsIn ⟨index, .objective, aim.key⟩ (run {} (steps ++ more)).1 := by
  obtain ⟨before, after⟩ := (soundRun_append {} steps more).mp sound
  obtain ⟨later, there, keeps⟩ := (run {} steps).1.run_keeps more after index problem found
  rw [← run_append] at there
  have wasConsistent := (Reachable.run {} steps .start before).consistent index problem found
  have isConsistent := (Reachable.run {} (steps ++ more) .start sound).consistent index later there
  refine ⟨wasConsistent, later, there, isConsistent, fun aim aimed => ?_⟩
  obtain ⟨kept, isKept, same⟩ := keeps.aim aim aimed
  obtain ⟨row, member, kind⟩ := isConsistent.objective kept isKept
  have shown := isConsistent.row kept.key row member
  rw [same] at shown
  exact ⟨⟨kept, isKept, same⟩, later, .row aim.key row, there, by simp [Problem.view?, shown], kind⟩

section Blend

theorem blend_found : (Session.run {} blendSteps).1.problems[0]? = some blend := by
  have isThere : ((Session.run {} blendSteps).1.problems[0]?).isSome = true := by decide +kernel
  obtain ⟨problem, found⟩ := Option.isSome_iff_exists.mp isThere
  rw [blend, found]
  rfl

end Blend

end LinearProgram
