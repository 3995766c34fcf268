import LinearProgram.Proofs.Outline
import LinearProgram.Proofs.Store

/-!
The matrix is a map in which the last write holds. A coefficient is what the last successful addition to its
pair wrote, whichever side it came from and however the other side was given, and nothing else changes it.
-/

namespace LinearProgram

def lastWrite (writes : List CellWrite) (row column : EntityRef) : Option Binary64 :=
  ((writes.filter fun write => write.isFor row column).getLast?).map (·.x)

section Writes

variable (writes later : List CellWrite) (row column : EntityRef)

theorem lastWrite_append :
    lastWrite (writes ++ later) row column =
      (lastWrite later row column).or (lastWrite writes row column) := by
  simp only [lastWrite, List.filter_append, List.getLast?_append]
  cases (later.filter fun write => write.isFor row column).getLast? <;> rfl

theorem lastWrite_isSome_iff :
    (lastWrite writes row column).isSome = true ↔ ∃ write ∈ writes, write.isFor row column = true := by
  rw [lastWrite, Option.isSome_map, Option.isSome_iff_ne_none, Ne, List.getLast?_eq_none_iff,
    List.filter_eq_nil_iff]
  simp

theorem lastWrite_toList (write : Option CellWrite) :
    lastWrite write.toList row column = (write.filter (·.isFor row column)).map (·.x) := by
  cases write with
  | none => rfl
  | some write =>
      by_cases isFor : write.isFor row column = true <;>
        simp [lastWrite, isFor, Option.filter]

theorem CellWrite.problem_of_isFor (write : CellWrite) (isFor : write.isFor row column = true) :
    write.row.problem = row.problem := by
  rw [CellWrite.isFor, EntityRef.same_eq] at isFor
  simp only [Bool.and_eq_true, beq_iff_eq] at isFor
  exact isFor.1.1

-- Only the problem, the name space and the key of a reference matter.
theorem lastWrite_congr (otherRow otherColumn : EntityRef)
    (rows : row.problem = otherRow.problem ∧ row.kind.isRow = otherRow.kind.isRow ∧ row.key = otherRow.key)
    (columns : column.problem = otherColumn.problem ∧ column.kind.isRow = otherColumn.kind.isRow ∧
      column.key = otherColumn.key) :
    lastWrite writes row column = lastWrite writes otherRow otherColumn := by
  have isFor (write : CellWrite) : write.isFor row column = write.isFor otherRow otherColumn := by
    simp only [CellWrite.isFor, EntityRef.same_eq, Problem.sameEntity, rows, columns]
  simp only [lastWrite, isFor]

end Writes

namespace Problem

variable (problem : Problem)

theorem cell?_setCoefficient (key : Value) (name : String) (x : Binary64) (row : Value) (column : String)
    (there : ∃ found, problem.row? key = some found) :
    (problem.setCoefficient key name x).cell? row column =
      if row.sameKey key && column == name then some x else problem.cell? row column := by
  obtain ⟨found, there⟩ := there
  unfold setCoefficient cell?
  rw [row?_changeRow]
  by_cases same : row.sameKey key = true
  · rw [if_pos same, problem.row?_sameKey row key same, there]
    simp [same, Catalog.get?_insert]
  · simp [same]

-- The pairs of a problem that a coefficient of the problem is for.
theorem Joins.isFor_eq {problem : Problem} {index : Nat} {write : CellWrite}
    (joins : problem.Joins index write) (row : Value) (column name : String)
    (isText : write.column.key = .text name) :
    write.isFor ⟨index, .row, row⟩ ⟨index, .column, .text column⟩ =
      (row.sameKey write.row.key && column == name) := by
  have rows : write.row.same ⟨index, .row, row⟩ = row.sameKey write.row.key := by
    rw [EntityRef.same_eq, Problem.sameEntity, joins.here.1, joins.sides.1, Value.sameKey_comm,
      show EntityKind.row.isRow = true from rfl]
    simp
  have columns : write.column.same ⟨index, .column, .text column⟩ = (column == name) := by
    rw [EntityRef.same_eq, Problem.sameEntity, joins.here.2, joins.sides.2, isText, Value.sameKey_comm,
      show EntityKind.column.isRow = false from rfl]
    simp [Value.sameKey]
  rw [CellWrite.isFor, rows, columns]

-- A written coefficient is the coefficient of its pair, and of no other.
theorem cell?_withWrite (index : Nat) (write : CellWrite) (joins : problem.Joins index write) (row : Value)
    (column : String) :
    (problem.withWrite index (some write)).cell? row column =
      if write.isFor ⟨index, .row, row⟩ ⟨index, .column, .text column⟩ then some write.x
      else problem.cell? row column := by
  obtain ⟨name, _, isText, _⟩ := (problem.has_column_iff _ joins.sides.2 _).mp joins.column
  have there := (problem.has_row_iff _ joins.sides.1 _).mp joins.row
  rw [withWrite, if_pos joins.here.1, joins.isFor_eq row column name isText, isText, Value.display]
  exact problem.cell?_setCoefficient _ name write.x row column there

end Problem

namespace Session

def cell? (session : Session) (index : Nat) (row : Value) (column : String) : Option Binary64 :=
  (session.problems[index]?).bind (·.cell? row column)

theorem Moved.writes {builds : Prop} {names : Value → Prop} {declares : EntityRef → Prop} {write : Option CellWrite}
    {before after : Session} (moved : Moved builds names declares write before after) (index : Nat) (row : Value)
    (column : String) :
    after.cell? index row column =
      (lastWrite write.toList ⟨index, .row, row⟩ ⟨index, .column, .text column⟩).or
        (before.cell? index row column) := by
  rw [lastWrite_toList]
  unfold cell?
  cases was : before.problems[index]? with
  | none =>
      have nowhere : write.filter (·.isFor ⟨index, .row, row⟩ ⟨index, .column, .text column⟩) = none := by
        refine Option.filter_eq_none_iff.mpr fun cell isCell isFor => ?_
        obtain ⟨problem, there⟩ := moved.within cell isCell
        rw [CellWrite.problem_of_isFor _ _ cell isFor, was] at there
        cases there
      rw [nowhere]
      cases now : after.problems[index]? with
      | none => rfl
      | some problem =>
          obtain ⟨-, name, -, rfl⟩ := moved.fresh index problem was now
          cases row <;> rfl
  | some problem =>
      obtain ⟨edited, edits, joins, there⟩ := moved.edits index problem was
      rw [there, Option.bind_some, Option.bind_some, ← edits.cell? row column]
      cases write with
      | none => rfl
      | some cell =>
          by_cases here : cell.row.problem = index
          · rw [edited.cell?_withWrite index cell (joins cell rfl here)]
            split
            next isFor => simp [Option.filter, isFor]
            next notFor => simp [Option.filter, notFor]
          · have notFor :=
              mt (CellWrite.problem_of_isFor ⟨index, .row, row⟩ ⟨index, .column, .text column⟩ cell) here
            simp [Problem.withWrite, here, Option.filter, notFor]

variable (session : Session)

theorem cell?_run (steps : List Step) (sound : session.SoundRun steps) (index : Nat) (row : Value)
    (column : String) :
    (session.run steps).1.cell? index row column =
      (lastWrite (session.cellWrites steps) ⟨index, .row, row⟩ ⟨index, .column, .text column⟩).or
        (session.cell? index row column) := by
  induction steps generalizing session with
  | nil => rfl
  | cons first rest ih =>
      rw [run, cellWrites, lastWrite_append, Option.or_assoc]
      rw [← (session.step_moved first sound.1).writes index row column]
      exact ih (session.step first).1 sound.2

-- From the start there is nothing but what the steps wrote.
theorem cell?_of_start (steps : List Step) (sound : SoundRun {} steps) (index : Nat) (problem : Problem)
    (found : (run {} steps).1.problems[index]? = some problem) (row : Value) (column : String) :
    problem.cell? row column =
      lastWrite (cellWrites {} steps) ⟨index, .row, row⟩ ⟨index, .column, .text column⟩ := by
  have stored := cell?_run {} steps sound index row column
  rw [cell?, found, Option.bind_some] at stored
  rw [stored]
  cases lastWrite (cellWrites {} steps) ⟨index, .row, row⟩ ⟨index, .column, .text column⟩ <;> rfl

-- A coefficient was written only where the run has a row and a column.
theorem joins_of_mem_cellWrites (steps : List Step) (sound : session.SoundRun steps) (write : CellWrite)
    (inside : write ∈ session.cellWrites steps) :
    ∃ problem : Problem, (session.run steps).1.problems[write.row.problem]? = some problem ∧
      problem.Joins write.row.problem write := by
  induction steps generalizing session with
  | nil => cases inside
  | cons first rest ih =>
      rcases List.mem_append.mp inside with now | later
      · have moved := session.step_moved first sound.1
        rw [Option.mem_toList] at now
        obtain ⟨problem, was⟩ := moved.within write now
        obtain ⟨edited, _, joins, there⟩ := moved.edits _ problem was
        have joins := joins write now rfl
        obtain ⟨last, isLast, keeps⟩ := (session.step first).1.run_keeps rest sound.2 _ _ there
        have kept : edited.Keeps (fun _ _ => True) last :=
          (edited.keeps_withWrite _ _).trans (keeps.mono fun _ _ _ => trivial)
        exact ⟨last, isLast, joins.here, joins.sides, joins.row.keeps kept, joins.column.keeps kept⟩
      · exact ih (session.step first).1 sound.2 later

-- The matrix has a cell for every coefficient that was written last, and no others.
theorem mem_matrix_iff (steps : List Step) (sound : SoundRun {} steps) (index : Nat) (problem : Problem)
    (found : (run {} steps).1.problems[index]? = some problem) (row : Value)
    (cells : List (String × Binary64)) (inside : (row, cells) ∈ problem.matrixView) (column : String)
    (x : Binary64) : (column, x) ∈ cells ↔
      lastWrite (cellWrites {} steps) ⟨index, .row, row⟩ ⟨index, .column, .text column⟩ = some x := by
  have consistent := (Reachable.run {} steps .start sound).consistent index problem found
  obtain ⟨⟨_, own⟩, here, same⟩ := List.mem_map.mp inside
  cases same
  rw [← cell?_of_start steps sound index problem found, Problem.cell?, consistent.row row own here]
  exact own.cells.mem_entries_iff column x

-- Each pair that was written has a cell.
theorem cell_of_write (steps : List Step) (sound : SoundRun {} steps) (index : Nat) (problem : Problem)
    (found : (run {} steps).1.problems[index]? = some problem) (write : CellWrite)
    (inside : write ∈ cellWrites {} steps) (here : write.row.problem = index) :
    ∃ row cells column x, (row, cells) ∈ problem.matrixView ∧ (column, x) ∈ cells ∧
      write.isFor ⟨index, .row, row⟩ ⟨index, .column, .text column⟩ = true := by
  have consistent := (Reachable.run {} steps .start sound).consistent index problem found
  obtain ⟨owner, there, joins⟩ := joins_of_mem_cellWrites {} steps sound write inside
  rw [here, found] at there
  cases there
  rw [here] at joins
  obtain ⟨joined, isRow⟩ := (problem.has_row_iff _ joins.sides.1 _).mp joins.row
  obtain ⟨own, member, sameKey⟩ := consistent.rowThere _ joined isRow
  obtain ⟨name, _, isText, _⟩ := (problem.has_column_iff _ joins.sides.2 _).mp joins.column
  have isFor := joins.isFor_eq own name name isText
  rw [sameKey, beq_self_eq_true, Bool.and_self] at isFor
  obtain ⟨x, last⟩ := Option.isSome_iff_exists.mp
    ((lastWrite_isSome_iff _ ⟨index, .row, own⟩ ⟨index, .column, .text name⟩).mpr ⟨write, inside, isFor⟩)
  have shown : (own, joined.cells.entries) ∈ problem.matrixView := List.mem_map_of_mem member
  exact ⟨own, _, name, x, shown,
    (mem_matrix_iff steps sound index problem found own _ shown name x).mpr last, isFor⟩

-- Coefficients are read back, and those of other problems are zero.
theorem coefficient_answers (steps : List Step) (sound : SoundRun {} steps) (index : Nat) (problem : Problem)
    (found : (run {} steps).1.problems[index]? = some problem) (row column : EntityRef)
    (isRow : row.kind.isRow = true) (isColumn : column.kind.isRow = false)
    (isIn : column.IsIn (run {} steps).1) :
    ((run {} steps).1.step (.coefficient index (some row) (some column))).2.answer =
      .ok (.value (.float (if row.problem = index ∧ column.problem = index then
        (lastWrite (cellWrites {} steps) row column).getD .zero else .zero))) := by
  obtain ⟨owner, kind, key⟩ := column
  cases kind.eq_column isColumn
  obtain ⟨other, view, -, shown, -⟩ := isIn
  obtain ⟨name, _, isText, _⟩ := (other.has_column_iff .column rfl key).mp
    (Option.isSome_iff_exists.mpr ⟨view, shown⟩)
  cases isText
  have stored : (lastWrite (cellWrites {} steps) ⟨index, .row, row.key⟩ ⟨index, .column, .text name⟩).getD
      .zero = problem.coefficient row.key name :=
    congrArg (·.getD .zero) (cell?_of_start steps sound index problem found row.key name).symm
  simp only [step, coefficient, inspect, (problemAt_ok _ index problem).mpr found, bind, Except.bind, isRow,
    true_and]
  split
  next here =>
    rw [← stored, lastWrite_congr _ row ⟨owner, .column, .text name⟩ ⟨index, .row, row.key⟩
      ⟨index, .column, .text name⟩ ⟨here.1, isRow, rfl⟩ ⟨here.2, rfl, rfl⟩]
  next => rfl

-- The matrix is shown, unless an objective whose name is no text has no place in the order of the rows.
theorem matrix_answers (index : Nat) (problem : Problem) (found : session.problems[index]? = some problem) :
    (session.step (.matrix index)).2.answer = .ok (.matrix problem.matrixView) ∨
      ∃ fault name row, (session.step (.matrix index)).2.answer = .error fault ∧
        problem.beside? = some (name, row) := by
  have looked : (session.step (.matrix index)).2.answer =
      problem.checkOrder.map fun _ => .matrix problem.matrixView := by
    simp only [step, inspectRows, inspect, (problemAt_ok _ index problem).mpr found, bind, Except.bind]
  rw [looked, Problem.checkOrder]
  cases aside : problem.beside? with
  | none =>
      rw [problem.inOrder_of_textObjective aside]
      exact Or.inl rfl
  | some entry =>
      cases problem.orderFault? with
      | none => exact Or.inl rfl
      | some fault => exact Or.inr ⟨fault, entry.1, entry.2, rfl, rfl⟩

/-- The matrix is a map in which the last write holds. After any program a coefficient of a row and a column
is what the last successful addition to the two wrote, zero if there was none or if they are entities of
other problems. The matrix has a cell for a pair if and only if one was written, with the last one. It is
shown, or a step that asks for it raises, because an objective whose name is no text has no place among the
rows. -/
theorem matrix_is_lastWrite (steps : List Step) (sound : SoundRun {} steps) (index : Nat) (problem : Problem)
    (found : (run {} steps).1.problems[index]? = some problem) :
    (∀ row column : EntityRef, row.kind.isRow = true → column.kind.isRow = false →
      row.IsIn (run {} steps).1 → column.IsIn (run {} steps).1 →
        ((run {} steps).1.step (.coefficient index (some row) (some column))).2.answer =
          .ok (.value (.float (if row.problem = index ∧ column.problem = index then
            (lastWrite (cellWrites {} steps) row column).getD .zero else .zero)))) ∧
    (((run {} steps).1.step (.matrix index)).2.answer = .ok (.matrix problem.matrixView) ∨
      ∃ fault name row, ((run {} steps).1.step (.matrix index)).2.answer = .error fault ∧
        problem.beside? = some (name, row)) ∧
    (∀ row cells, (row, cells) ∈ problem.matrixView → ∀ column x, (column, x) ∈ cells ↔
      lastWrite (cellWrites {} steps) ⟨index, .row, row⟩ ⟨index, .column, .text column⟩ = some x) ∧
    (∀ write ∈ cellWrites {} steps, write.row.problem = index →
      ∃ row cells column x, (row, cells) ∈ problem.matrixView ∧ (column, x) ∈ cells ∧
        write.isFor ⟨index, .row, row⟩ ⟨index, .column, .text column⟩ = true) := by
  refine ⟨fun row column isRow isColumn _ isIn => ?_, ?_, ?_, ?_⟩
  · exact coefficient_answers steps sound index problem found row column isRow isColumn isIn
  · exact matrix_answers _ index problem found
  · exact mem_matrix_iff steps sound index problem found
  · exact cell_of_write steps sound index problem found

section Blend

def blendRewrites : List Step :=
  let stock : EntityRef := ⟨0, .row, .text "stock"⟩
  let oil : EntityRef := ⟨0, .column, .text "oil"⟩
  [.add (some oil) (.int 7) stock.value [], .add (some stock) (.text "9") (.text "oil") [],
    .add (some oil) (.text "many") (.text "stock") [], .setBounds (some oil) .null .null]

theorem blend_lastWrite :
    SoundRun {} (blendSteps ++ blendRewrites) ∧ ∃ nine, Value.toBinary64 (.int 9) = .ok nine ∧
      ((run {} (blendSteps ++ blendRewrites)).1.step (.coefficient 0 (some ⟨0, .row, .text "stock"⟩)
        (some ⟨0, .column, .text "oil"⟩))).2.answer = .ok (.value (.float nine)) := by
  have sound : SoundRun {} (blendSteps ++ blendRewrites) := by decide +kernel
  have isThere : ((run {} (blendSteps ++ blendRewrites)).1.problems[0]?).isSome = true := by decide +kernel
  obtain ⟨problem, found⟩ := Option.isSome_iff_exists.mp isThere
  obtain ⟨answers, -⟩ := matrix_is_lastWrite _ sound 0 problem found
  obtain ⟨nine, isNine⟩ := ok_of_isOk (Value.toBinary64 (.int 9)) (by decide +kernel)
  have last : lastWrite (cellWrites {} (blendSteps ++ blendRewrites)) ⟨0, .row, .text "stock"⟩
      ⟨0, .column, .text "oil"⟩ = (Value.toBinary64 (.int 9)).toOption := by decide +kernel
  refine ⟨sound, nine, isNine, (answers _ _ rfl rfl (by decide +kernel) (by decide +kernel)).trans ?_⟩
  rw [last, isNine]
  rfl

end Blend

end Session

end LinearProgram
