import LinearProgram.Proofs.BuildOrder
import LinearProgram.Proofs.Histories

/-!
What numbering counts. It counts columns, and rows that are not the objective, each kind from one on in the
order of the keys. The numbers that were there before do not matter, and nothing else changes.
-/

namespace LinearProgram

/-- Keys with the numbers from one on, in the order of the keys, and the list of them all in this order. -/
structure CountedOff (number? : String → Option Value) (listed : List (String × Value)) : Prop where
  shown : ∀ key number, (key, number) ∈ listed ↔ number? key = some number
  within : ∀ key number, number? key = some number →
    ∃ n : Nat, number = .int n ∧ 1 ≤ n ∧ n ≤ listed.length
  onto : ∀ n : Nat, 1 ≤ n → n ≤ listed.length → ∃! key, number? key = some (.int n)
  order : ∀ (one other : String) (m n : Int), number? one = some (.int m) → number? other = some (.int n) →
    (m < n ↔ one < other)
  place : ∀ (key : String) (n : Nat), number? key = some (.int n) → listed[n - 1]? = some (key, .int n)

section Counting

variable (keys : List String) (ascending : keys.Pairwise (· < ·))

def countOf (key : String) : Nat := keys.idxOf key + 1

theorem countOf_le (key : String) (member : key ∈ keys) :
    1 ≤ countOf keys key ∧ countOf keys key ≤ keys.length := by
  have inside := List.idxOf_lt_length_of_mem member
  unfold countOf
  omega

theorem countOf_inj (key other : String) (member : key ∈ keys) (same : countOf keys key = countOf keys other) :
    key = other := by
  unfold countOf at same
  exact (List.idxOf_inj member).mp (by omega)

include ascending

theorem nodup_of_ascending : keys.Nodup :=
  ascending.imp fun before => String.ne_of_lt before

theorem countOf_getElem (i : Nat) (inside : i < keys.length) : countOf keys keys[i] = i + 1 :=
  congrArg (· + 1) ((nodup_of_ascending keys ascending).idxOf_getElem i inside)

theorem countOf_lt_iff (one other : String) (oneMember : one ∈ keys) (otherMember : other ∈ keys) :
    countOf keys one < countOf keys other ↔ one < other := by
  obtain ⟨i, oneInside, rfl⟩ := List.getElem_of_mem oneMember
  obtain ⟨j, otherInside, rfl⟩ := List.getElem_of_mem otherMember
  have upward := List.pairwise_iff_getElem.mp ascending
  rw [countOf_getElem keys ascending i oneInside, countOf_getElem keys ascending j otherInside]
  constructor
  · intro before
    exact upward i j oneInside otherInside (by omega)
  · intro below
    -- keys that stand the other way round, or in one place, are not below each other
    by_contra notBefore
    rcases Nat.lt_or_eq_of_le (show j ≤ i by omega) with after | same
    · exact String.lt_irrefl _ (String.lt_trans below (upward j i otherInside oneInside after))
    · subst same
      exact String.lt_irrefl _ below

/-- Ascending keys with their positions from one on are counted off. -/
theorem countedOff_of_ascending (number? : String → Option Value)
    (numbers : ∀ key, number? key = if key ∈ keys then some (.int (countOf keys key)) else none) :
    CountedOff number? (keys.map fun key => (key, .int (countOf keys key))) := by
  have counted (key : String) (number : Value) (found : number? key = some number) :
      key ∈ keys ∧ number = .int (countOf keys key) := by
    rw [numbers] at found
    split at found
    next member => exact ⟨member, (Option.some.inj found).symm⟩
    next => cases found
  have count (key : String) (n : Int) (found : number? key = some (.int n)) :
      key ∈ keys ∧ n = countOf keys key := by
    obtain ⟨member, isCount⟩ := counted key _ found
    injection isCount with isNumber
    injection isNumber with isInt
    exact ⟨member, isInt⟩
  constructor
  case shown =>
    intro key number
    rw [numbers, List.mem_map]
    constructor
    · rintro ⟨other, member, same⟩
      cases same
      rw [if_pos member]
    · intro found
      split at found
      next member => exact ⟨key, member, by rw [← Option.some.inj found]⟩
      next => cases found
  case within =>
    intro key number found
    obtain ⟨member, isCount⟩ := counted key number found
    refine ⟨countOf keys key, isCount, ?_⟩
    rw [List.length_map]
    exact countOf_le keys key member
  case onto =>
    intro n atLeast atMost
    rw [List.length_map] at atMost
    have inside : n - 1 < keys.length := by omega
    have isCount : countOf keys keys[n - 1] = n := by
      rw [countOf_getElem keys ascending]
      omega
    refine ⟨keys[n - 1], ?_, fun other found => ?_⟩
    · dsimp only
      rw [numbers, if_pos (List.getElem_mem inside), isCount]
    · obtain ⟨member, same⟩ := count other n found
      exact countOf_inj keys other _ member (by omega)
  case order =>
    intro one other m n isOne isOther
    obtain ⟨oneMember, rfl⟩ := count one m isOne
    obtain ⟨otherMember, rfl⟩ := count other n isOther
    rw [← countOf_lt_iff keys ascending one other oneMember otherMember]
    omega
  case place =>
    intro key n found
    obtain ⟨member, same⟩ := count key n found
    obtain ⟨i, inside, rfl⟩ := List.getElem_of_mem member
    rw [countOf_getElem keys ascending i inside] at same
    have position : n - 1 = i := by omega
    rw [position, List.getElem?_map, List.getElem?_eq_getElem inside, Option.map_some,
      countOf_getElem keys ascending i inside, same]

end Counting

namespace Problem

section Counted

variable (problem : Problem)

/-- The keys that numbering counts: those of all columns, or of all rows but the objective. -/
def countedKeys (problem : Problem) : EntityKind → List String
  | .column => problem.columns.keys
  | .row | .objective => problem.constraints.map (·.1)

def countedNumber? (kind : EntityKind) (key : String) : Option Value :=
  if key ∈ problem.countedKeys kind then problem.numberOf kind (.text key) else none

theorem countedKeys_ascending (kind : EntityKind) : (problem.countedKeys kind).Pairwise (· < ·) := by
  cases kind with
  | column => exact problem.columns.keys_pairwise
  | row | objective =>
      show (problem.constraints.map (·.1)).Pairwise (· < ·)
      rw [keys_constraints]
      exact problem.rows.keys_pairwise.filter _

theorem numberOf_column (key : String) :
    problem.numberOf .column (.text key) = (problem.columns.get? key).map (·.number) := by
  rw [numberOf, attributes?_column, Option.map_map]
  rfl

theorem numberOf_row (kind : EntityKind) (isRow : kind.isRow = true) (key : String) :
    problem.numberOf kind (.text key) = (problem.rows.get? key).map (·.number) := by
  rw [numberOf, attributes?_row problem kind isRow, Option.map_map]
  rfl

theorem mem_countedKeys_row (key : String) :
    key ∈ problem.constraints.map (·.1) ↔
      problem.rows.contains key = true ∧ problem.isObjective key = false := by
  rw [keys_constraints, List.mem_filter, Catalog.mem_keys_iff, Bool.not_eq_true']

theorem get?_rows_assignNumbers (inOrder : problem.orderFault? = none) (key : String) :
    problem.assignNumbers.rows.get? key =
      (problem.rows.get? key).map fun row =>
        if problem.isObjective key then row else { row with number := .int (problem.constraintNumber key) } := by
  simp only [assignNumbers, inOrder, Option.isSome_none, Bool.false_eq_true, if_false, Catalog.get?_number,
    constraintNumber, keys_constraints]
  refine congrArg (fun change => (problem.rows.get? key).map change) (funext fun row => ?_)
  cases problem.isObjective key <;> rfl

theorem countedKeys_assignNumbers (inOrder : problem.orderFault? = none) (kind : EntityKind) :
    problem.assignNumbers.countedKeys kind = problem.countedKeys kind := by
  cases kind with
  | column => simp [countedKeys, Catalog.keys, columns_assignNumbers, Function.comp_def]
  | row | objective => simp [countedKeys, constraints_assignNumbers problem inOrder, Function.comp_def]

-- Whatever number a counted entity had before, it gets its count.
theorem numberOf_assignNumbers (inOrder : problem.orderFault? = none) (kind : EntityKind) (key : String)
    (member : key ∈ problem.countedKeys kind) :
    problem.assignNumbers.numberOf kind (.text key) = some (.int (countOf (problem.countedKeys kind) key)) := by
  cases kind with
  | column =>
      obtain ⟨column, found⟩ := Option.isSome_iff_exists.mp ((problem.columns.mem_keys_iff key).mp member)
      rw [numberOf_column, get?_columns_assignNumbers, found]
      rfl
  | row | objective =>
      obtain ⟨present, bound⟩ := (problem.mem_countedKeys_row key).mp member
      obtain ⟨row, found⟩ := Option.isSome_iff_exists.mp present
      rw [numberOf_row _ _ rfl, get?_rows_assignNumbers problem inOrder, found, bound]
      rfl

theorem countedNumber?_assignNumbers (inOrder : problem.orderFault? = none) (kind : EntityKind) (key : String) :
    problem.assignNumbers.countedNumber? kind key =
      if key ∈ problem.countedKeys kind then some (.int (countOf (problem.countedKeys kind) key)) else none := by
  unfold countedNumber?
  rw [countedKeys_assignNumbers problem inOrder]
  split
  next member => exact problem.numberOf_assignNumbers inOrder kind key member
  next => rfl

def Numbered (kind : EntityKind) : Prop :=
  ∀ key ∈ problem.countedKeys kind,
    problem.numberOf kind (.text key) = some (.int (countOf (problem.countedKeys kind) key))

theorem numbered_assignNumbers (inOrder : problem.orderFault? = none) (kind : EntityKind) :
    problem.assignNumbers.Numbered kind := by
  intro key member
  rw [countedKeys_assignNumbers problem inOrder] at member ⊢
  exact problem.numberOf_assignNumbers inOrder kind key member

theorem columns_of_numbered (numbered : problem.Numbered .column) :
    problem.assignNumbers.columns = problem.columns := by
  apply Catalog.ext_get?
  intro key
  rw [get?_columns_assignNumbers]
  cases found : problem.columns.get? key with
  | none => rfl
  | some column =>
      have count := numbered key ((problem.columns.mem_keys_iff key).mpr
        (problem.columns.contains_of_get? key column found))
      rw [numberOf_column, found] at count
      have same : column.number = .int (problem.columnNumber key) := Option.some.inj count
      rw [Option.map_some, ← same]

theorem rows_of_numbered (numbered : problem.Numbered .row) : problem.assignNumbers.rows = problem.rows := by
  cases inOrder : problem.orderFault? with
  | some fault => simp [assignNumbers, inOrder]
  | none =>
      apply Catalog.ext_get?
      intro key
      rw [get?_rows_assignNumbers problem inOrder]
      cases found : problem.rows.get? key with
      | none => rfl
      | some row =>
          by_cases isAim : problem.isObjective key = true
          · rw [Option.map_some, if_pos isAim]
          · have bound : problem.isObjective key = false := by simpa using isAim
            have count := numbered key ((problem.mem_countedKeys_row key).mpr
              ⟨problem.rows.contains_of_get? key row found, bound⟩)
            rw [numberOf_row _ _ rfl, found] at count
            have same : row.number = .int (problem.constraintNumber key) := Option.some.inj count
            rw [Option.map_some, if_neg isAim, ← same]

/-- Numbering changes nothing of a problem that is numbered. -/
theorem assignNumbers_of_numbered (columns : problem.Numbered .column) (rows : problem.Numbered .row) :
    problem.assignNumbers = problem := by
  have parts : problem.assignNumbers =
      { problem with columns := problem.assignNumbers.columns, rows := problem.assignNumbers.rows } := rfl
  rw [parts, problem.columns_of_numbered columns, problem.rows_of_numbered rows]

theorem assignNumbers_twice (inOrder : problem.orderFault? = none) :
    problem.assignNumbers.assignNumbers = problem.assignNumbers :=
  problem.assignNumbers.assignNumbers_of_numbered (problem.numbered_assignNumbers inOrder .column)
    (problem.numbered_assignNumbers inOrder .row)

def listedNumbers (problem : Problem) : EntityKind → List (String × Value)
  | .column => problem.columns.entries.map fun (key, column) => (key, column.number)
  | .row | .objective => problem.constraints.map fun (key, row) => (key, row.number)

theorem listedNumbers_assignNumbers (inOrder : problem.orderFault? = none) (kind : EntityKind) :
    problem.assignNumbers.listedNumbers kind =
      (problem.countedKeys kind).map fun key => (key, .int (countOf (problem.countedKeys kind) key)) := by
  cases kind with
  | column =>
      simp only [listedNumbers, countedKeys, columns_assignNumbers, Catalog.keys, List.map_map]
      rfl
  | row | objective =>
      simp only [listedNumbers, countedKeys, constraints_assignNumbers problem inOrder, List.map_map]
      rfl

/-- However entities were numbered before, numbering counts them off. -/
theorem countedOff_assignNumbers (inOrder : problem.orderFault? = none) (kind : EntityKind) :
    CountedOff (problem.assignNumbers.countedNumber? kind) (problem.assignNumbers.listedNumbers kind) := by
  rw [listedNumbers_assignNumbers problem inOrder]
  exact countedOff_of_ascending _ (problem.countedKeys_ascending kind) _
    (problem.countedNumber?_assignNumbers inOrder kind)

theorem objective?_of_textObjective (named : problem.TextObjective) :
    problem.assignNumbers.objective? = problem.objective? := by
  have inOrder := problem.inOrder_of_textObjective named
  unfold objective?
  cases aimed : problem.objective with
  | none => simp [assignNumbers, aimed]
  | some aim =>
      have same : problem.assignNumbers.objective = some aim := aimed
      cases aim with
      | row key =>
          have isAim : problem.isObjective key = true := by simp [isObjective, aimed]
          simp only [same, Option.bind_eq_bind, Option.bind_some, Aim.key, row?_text,
            get?_rows_assignNumbers problem inOrder, isAim, if_true, Option.map_id']
      | beside name row earlier => simp [TextObjective, beside?, aimed] at named

structure DiffersInNumbers (before after : Problem) : Prop where
  name : after.name = before.name
  arrivals : after.arrivals = before.arrivals
  aim : after.objective = before.objective
  column : ∀ key, ∃ number, after.columns.get? key =
    (before.columns.get? key).map fun column => { column with number }
  row : ∀ key, ∃ number : Row → Value, after.row? key =
    (before.row? key).map fun row => { row with number := number row }
  objective : after.objective? = before.objective?

theorem differsInNumbers_assignNumbers (named : problem.TextObjective) :
    problem.DiffersInNumbers problem.assignNumbers where
  name := rfl
  arrivals := rfl
  aim := rfl
  column := fun key => ⟨_, problem.get?_columns_assignNumbers key⟩
  row := problem.row?_assignNumbers
  objective := problem.objective?_of_textObjective named

end Counted

end Problem

namespace Session

section Numbering

variable (session : Session) (index : Nat) (problem : Problem)

theorem step_assignNumbers (found : session.problems[index]? = some problem)
    (inOrder : problem.orderFault? = none) :
    session.step (.assignNumbers index) = (session.setProblem index problem.assignNumbers,
      { answer := .ok (.numbers (problem.assignNumbers.listedNumbers .column)
          (problem.assignNumbers.listedNumbers .row)) }) := by
  have checked : problem.assignNumbers.checkOrder = .ok () := by
    simp [Problem.checkOrder, Problem.orderFault?_assignNumbers, inOrder]
  simp only [step, assignNumbers, (problemAt_ok session index problem).mpr found, checked]
  rfl

/-- Numbering counts off all columns, and all rows but the problem's objective, in the order of their keys, and
lists them in the order of their numbers, whatever their numbers were before. It changes nothing of the problem
but these numbers, and nothing else of the session. To number again changes nothing. -/
theorem assignNumbers_counts (found : session.problems[index]? = some problem)
    (named : problem.TextObjective) :
    ∃ columns rows : List (String × Value),
      session.step (.assignNumbers index) =
        (session.setProblem index problem.assignNumbers, { answer := .ok (.numbers columns rows) }) ∧
      columns.map (·.1) = problem.columns.keys ∧
      CountedOff (problem.assignNumbers.countedNumber? .column) columns ∧
      rows.map (·.1) = (problem.rows.keys.filter fun key => !problem.isObjective key) ∧
      CountedOff (problem.assignNumbers.countedNumber? .row) rows ∧
      problem.DiffersInNumbers problem.assignNumbers ∧
      (session.setProblem index problem.assignNumbers).step (.assignNumbers index) =
        (session.setProblem index problem.assignNumbers, { answer := .ok (.numbers columns rows) }) := by
  have inOrder := problem.inOrder_of_textObjective named
  have keys (kind : EntityKind) :
      (problem.assignNumbers.listedNumbers kind).map (·.1) = problem.countedKeys kind := by
    rw [problem.listedNumbers_assignNumbers inOrder, List.map_map]
    exact List.map_id _
  have counted := problem.countedOff_assignNumbers inOrder
  refine ⟨_, _, session.step_assignNumbers index problem found inOrder, keys .column, counted .column,
    (keys .row).trans problem.keys_constraints, counted .row, problem.differsInNumbers_assignNumbers named, ?_⟩
  have isThere := session.getElem?_setProblem index index problem problem.assignNumbers found
  rw [if_pos rfl] at isThere
  have again := step_assignNumbers _ index _ isThere (problem.orderFault?_assignNumbers.trans inOrder)
  rw [problem.assignNumbers_twice inOrder, setProblem_setProblem] at again
  exact again

end Numbering

section Muddle

def muddleSteps : List Step :=
  [.problem .null, .column 0 (.text "y") [], .column 0 (.text "x") [], .row 0 (.text "zeta") [],
    .objective 0 (.text "mid") (.direction .minimize), .newObjective 0 "beta" (.direction .maximize),
    .row 0 (.text "alpha") [], .assign (some ⟨0, .row, .text "zeta"⟩) .number (.int 1),
    .assign (some ⟨0, .column, .text "x"⟩) .number (.text "first"),
    .assign (some ⟨0, .objective, .text "mid"⟩) .number (.int 7)]

def muddle : Problem := ((run {} muddleSteps).1.problems[0]?).getD {}

theorem muddle_counted :
    SoundRun {} muddleSteps ∧ muddle.TextObjective ∧ ∃ rows : List (String × Value),
      rows.map (·.1) = ["alpha", "beta", "zeta"] ∧
        CountedOff (muddle.assignNumbers.countedNumber? .row) rows := by
  have isThere : ((run {} muddleSteps).1.problems[0]?).isSome = true := by decide +kernel
  obtain ⟨problem, found⟩ := Option.isSome_iff_exists.mp isThere
  have isMuddle : (run {} muddleSteps).1.problems[0]? = some muddle := by
    rw [muddle, found]
    rfl
  have named : muddle.TextObjective := by decide +kernel
  obtain ⟨columns, rows, -, -, -, keys, counted, -, -⟩ :=
    assignNumbers_counts (run {} muddleSteps).1 0 muddle isMuddle named
  refine ⟨by decide +kernel, named, rows, keys.trans ?_, counted⟩
  decide +kernel

end Muddle

end Session

end LinearProgram
