import LinearProgram.Proofs.Plans

/-!
The listing and the engine show one model. The listing classifies bounds by comparisons of its own, and finds
and skips the objective without numbers; for bounds that are null or binary64 numbers both ways come to the
same, line by line and call by call.
-/

namespace LinearProgram

def Value.IsStoredBound (bound : Value) : Prop := bound = .null ∨ ∃ x, bound = .float x

instance : (bound : Value) → Decidable bound.IsStoredBound
  | .null => isTrue (Or.inl rfl)
  | .float x => isTrue (Or.inr ⟨x, rfl⟩)
  | .int _ | .bool _ | .text _ | .list _ | .columnType _ | .direction _ | .entity .. | .mapping _
  | .day _ | .moment _ =>
      isFalse (by
        rintro (isNull | ⟨x, isFloat⟩)
        · cases isNull
        · cases isFloat)

structure Problem.StoredBounds (problem : Problem) : Prop where
  columns : ∀ key column, problem.columns.get? key = some column →
    column.lower.IsStoredBound ∧ column.upper.IsStoredBound
  rows : ∀ key row, problem.rows.get? key = some row → problem.isObjective key = false →
    row.lower.IsStoredBound ∧ row.upper.IsStoredBound

instance (problem : Problem) : Decidable problem.StoredBounds :=
  decidable_of_iff
    ((∀ key column, problem.columns.get? key = some column →
        column.lower.IsStoredBound ∧ column.upper.IsStoredBound) ∧
      ∀ key row, problem.rows.get? key = some row → problem.isObjective key = false →
        row.lower.IsStoredBound ∧ row.upper.IsStoredBound)
    ⟨fun ⟨columns, rows⟩ => ⟨columns, rows⟩, fun stored => ⟨stored.columns, stored.rows⟩⟩

inductive BoundForm where
  | free
  | atLeast (bound : Binary64)
  | atMost (bound : Binary64)
  | equal (bound : Binary64)
  | between (lower upper : Binary64)

namespace BoundForm

def ofBounds : Value → Value → BoundForm
  | .float low, .float high =>
      if (Value.float low).equals (.float high) then equal low else between low high
  | .float low, _ => atLeast low
  | _, .float high => atMost high
  | _, _ => free

def write (sum : String) : BoundForm → String
  | free => sum
  | atLeast bound => sum ++ " >= " ++ bound.amount
  | atMost bound => sum ++ " <= " ++ bound.amount
  | equal bound => sum ++ " = " ++ bound.amount
  | between lower upper => lower.amount ++ " <= " ++ sum ++ " <= " ++ upper.amount

def call? (expression : Expression) (key : String) : BoundForm → Option Call
  | free => none
  | atLeast bound => some (.addConstraint expression .atLeast (.float bound) key)
  | atMost bound => some (.addConstraint expression .atMost (.float bound) key)
  | equal bound => some (.addConstraint expression .equal (.float bound) key)
  | between lower upper => some (.addRange expression (.float lower) (.float upper) key)

end BoundForm

section Bounds

theorem isWhole_truncates (x : Binary64) (whole : x.isWhole = true) : ∃ n, x.truncate? = some n := by
  unfold Binary64.isWhole at whole
  unfold Binary64.truncate?
  cases quanta : x.quanta? with
  | none =>
      rw [quanta] at whole
      cases whole
  | some n => exact ⟨_, rfl⟩

theorem amount_float (x : Binary64) : (Value.float x).amount = .ok x.amount := by
  have number : (Value.float x).toBinary64 = .ok x := rfl
  have whole : (Value.float x).toWhole = Value.wholePart x := rfl
  simp only [Value.amount, number, whole, ok_bind]
  cases isWhole : x.isWhole with
  | true =>
      obtain ⟨n, truncates⟩ := isWhole_truncates x isWhole
      simp only [Value.wholePart, Binary64.amount, truncates, isWhole, if_true]
      rfl
  | false =>
      simp only [Binary64.amount, isWhole, Bool.false_eq_true, if_false]
      cases x.truncate? <;> rfl

/-- A sum between two bounds that differ. -/
theorem rowLine_between (key : Value) (name : String) (written : key.written = .ok name)
    (terms : List (String × Binary64)) (low high : Binary64)
    (differ : (Value.float low).equals (.float high) = false) :
    Listing.rowLine key terms (.float low) (.float high) = .ok ("s.t. " ++ name ++ ": " ++
      (BoundForm.between low high).write (Listing.sumText (terms.map Listing.cellText)) ++ ";") := by
  have around : " <= " = " " ++ ("<=" ++ " ") := by decide
  have parts (a b c d e : String) : " ".intercalate [a, b, c, d, e] =
      a ++ " " ++ b ++ " " ++ c ++ " " ++ d ++ " " ++ e := rfl
  simp only [Listing.rowLine, written, Listing.isBound, differ, Bool.not_false, Bool.and_true, if_true,
    amount_float, ok_bind, pure_bind, parts, BoundForm.write, around, String.append_assoc]
  rfl

/-- A sum with clauses after it. -/
theorem rowLine_clauses (key : Value) (name : String) (written : key.written = .ok name)
    (terms : List (String × Binary64)) (lower upper : Value) (clauses : List String)
    (inside : (Listing.isBound lower && Listing.isBound upper && !lower.equals upper) = false)
    (isClauses : Listing.boundClauses lower upper = .ok clauses) :
    Listing.rowLine key terms lower upper = .ok ("s.t. " ++ name ++ ": " ++
      " ".intercalate (Listing.sumText (terms.map Listing.cellText) :: clauses) ++ ";") := by
  simp only [Listing.rowLine, written, inside, Bool.false_eq_true, if_false, isClauses, ok_bind]
  rfl

theorem boundClause_float (relation : String) (bound : Binary64) :
    Listing.boundClause relation (.float bound) = .ok [relation ++ " " ++ bound.amount] := by
  simp only [Listing.boundClause, Listing.isBound, if_true, amount_float, Except.map]

-- A clause after a sum, with blanks around its relation.
theorem intercalate_clause (sum relation amount : String) :
    " ".intercalate [sum, relation ++ " " ++ amount] = sum ++ (" " ++ relation ++ " ") ++ amount := by
  have parts (a b : String) : " ".intercalate [a, b] = a ++ " " ++ b := rfl
  simp only [parts, String.append_assoc]

theorem boundClauses_lower (low : Binary64) :
    Listing.boundClauses (.float low) .null = .ok [">=" ++ " " ++ low.amount] := by
  have none : Listing.boundClause "<=" .null = .ok [] := rfl
  simp only [Listing.boundClauses, Listing.isBound, Bool.and_false, Bool.false_and, Bool.false_eq_true, if_false,
    boundClause_float, none, ok_bind]
  rfl

theorem boundClauses_upper (high : Binary64) :
    Listing.boundClauses .null (.float high) = .ok ["<=" ++ " " ++ high.amount] := by
  have none : Listing.boundClause ">=" .null = .ok [] := rfl
  simp only [Listing.boundClauses, Listing.isBound, Bool.false_and, Bool.false_eq_true, if_false,
    boundClause_float, none, ok_bind]
  rfl

theorem boundClauses_both (low high : Binary64) : Listing.boundClauses (.float low) (.float high) =
    .ok (if (Value.float low).equals (.float high) then ["=" ++ " " ++ low.amount]
      else [">=" ++ " " ++ low.amount, "<=" ++ " " ++ high.amount]) := by
  cases same : (Value.float low).equals (.float high) with
  | true =>
      simp only [Listing.boundClauses, Listing.isBound, same, Bool.and_true, if_true, boundClause_float]
  | false =>
      simp only [Listing.boundClauses, Listing.isBound, same, Bool.and_false, Bool.false_eq_true, if_false,
        boundClause_float, ok_bind]
      rfl

/-- The line of terms shows the form of the bounds, whatever these are. -/
theorem rowLine_eq (key : Value) (name : String) (written : key.written = .ok name)
    (terms : List (String × Binary64)) (lower upper : Value) (isLower : lower.IsStoredBound)
    (isUpper : upper.IsStoredBound) : Listing.rowLine key terms lower upper = .ok ("s.t. " ++ name ++ ": " ++
      (BoundForm.ofBounds lower upper).write (Listing.sumText (terms.map Listing.cellText)) ++ ";") := by
  rcases isLower with rfl | ⟨low, rfl⟩ <;> rcases isUpper with rfl | ⟨high, rfl⟩
  · exact rowLine_clauses key name written terms _ _ [] rfl rfl
  · rw [rowLine_clauses key name written terms _ _ _ rfl (boundClauses_upper high), intercalate_clause]
    rfl
  · rw [rowLine_clauses key name written terms _ _ _ rfl (boundClauses_lower low), intercalate_clause]
    rfl
  · cases same : (Value.float low).equals (.float high) with
    | true =>
        have clauses : Listing.boundClauses (.float low) (.float high) = .ok ["=" ++ " " ++ low.amount] := by
          rw [boundClauses_both, same, if_pos rfl]
        rw [rowLine_clauses key name written terms _ _ _ (by rw [same]; rfl) clauses, intercalate_clause,
          BoundForm.ofBounds, if_pos same]
        rfl
    | false =>
        rw [rowLine_between key name written terms low high same, BoundForm.ofBounds, if_neg (by simp [same])]

theorem call?_eq (key : String) (expression : Expression) (lower upper : Value) (isLower : lower.IsStoredBound)
    (isUpper : upper.IsStoredBound) : Constraint.call? { key, expression, lower, upper } =
      (BoundForm.ofBounds lower upper).call? expression key := by
  rcases isLower with rfl | ⟨low, rfl⟩ <;> rcases isUpper with rfl | ⟨high, rfl⟩
  · rfl
  · rfl
  · rfl
  · cases same : (Value.float low).equals (.float high) <;>
      simp [Constraint.call?, BoundKind.ofBounds, BoundForm.ofBounds, same, BoundForm.call?]

/-- The line and the call of a row have bounds of one form, whatever its two bounds are. -/
theorem rowText_and_call? (key : String) (row : Row) (expression : Expression)
    (lower : row.lower.IsStoredBound) (upper : row.upper.IsStoredBound) :
    ∃ form : BoundForm,
      Listing.rowText (.text key) row =
        .ok ("s.t. " ++ key ++ ": " ++ form.write (Listing.cellsText row.cells) ++ ";") ∧
      Constraint.call? { key, expression, lower := row.lower, upper := row.upper } =
        form.call? expression key :=
  ⟨_, rowLine_eq (.text key) key rfl row.cells.entries row.lower row.upper lower upper,
    call?_eq key expression row.lower row.upper lower upper⟩

theorem columnText_ok (key : String) (column : Column) (type : ColumnType)
    (isType : column.type = .columnType type) (lower : column.lower.IsStoredBound)
    (upper : column.upper.IsStoredBound) : ∃ line, Listing.columnText key column = .ok line := by
  have types : ∃ words, Listing.typeClauses column.type = .ok words := by
    rw [isType]
    cases type <;> exact ⟨_, rfl⟩
  have bounds : ∃ clauses, Listing.boundClauses column.lower column.upper = .ok clauses := by
    rcases lower with isLower | ⟨low, isLower⟩ <;> rcases upper with isUpper | ⟨high, isUpper⟩ <;>
      rw [isLower, isUpper]
    · exact ⟨[], rfl⟩
    · exact ⟨_, boundClauses_upper high⟩
    · exact ⟨_, boundClauses_lower low⟩
    · exact ⟨_, boundClauses_both low high⟩
  obtain ⟨words, isWords⟩ := types
  obtain ⟨clauses, isClauses⟩ := bounds
  simp only [Listing.columnText, isWords, isClauses, ok_bind]
  exact ⟨_, rfl⟩

end Bounds

namespace Call

def constraintName? : Call → Option String
  | addRange _ _ _ name => some name
  | addConstraint _ _ _ name => some name
  | _ => none

end Call

namespace Listing

structure Parts where
  title : List String
  columns : List String
  objective : List String
  constraints : List String

def Parts.text (parts : Parts) : String :=
  "\n".intercalate (parts.title ++ parts.columns ++ parts.objective ++ parts.constraints ++ ["end;"])

def expressionText (expression : Expression) : String :=
  sumText (expression.map fun (coefficient, column) => cellText (column, coefficient))

end Listing

namespace Problem

variable (problem : Problem)

def Declares (call : Call) (line : String) : Prop :=
  ∃ key column type lower upper cost, call = .addVariable lower upper cost type key ∧
    problem.columns.get? key = some column ∧ column.type = .columnType type ∧
    Listing.columnText key column = .ok line

end Problem

/-- The line of a constraint has the terms of its expression, and bounds of the form in which it was sent;
a constraint that was not sent has none. -/
def Constraint.ShownBy (sent : List Call) (constraint : Constraint) (line : String) : Prop :=
  ∃ form : BoundForm,
    line = "s.t. " ++ constraint.key ++ ": " ++
      form.write (Listing.expressionText constraint.expression) ++ ";" ∧
    sent.filter (fun call => call.constraintName? == some constraint.key) =
      (form.call? constraint.expression constraint.key).toList

/-- The lines of a listing show what was sent: the variables in their order, an objective exactly with a
direction and with its terms in the order of the variables, and the constraints of a formulation, which are
the rows but the objective in ascending order. -/
structure Listing.Parts.Show (parts : Parts) (problem : Problem) (sent : List Call)
    (constraints : List Constraint) : Prop where
  untitled : problem.name.isTruthy = false → parts.title = []
  titled : problem.name.isTruthy = true →
    ∃ title, problem.title = .ok title ∧ parts.title = ["\\* " ++ title ++ " *\\"]
  columns : List.Forall₂ problem.Declares (sent.filter fun call => call.variableName?.isSome) parts.columns
  objective : sent.filterMap Call.sense? = [] ∧ parts.objective = [] ∨
    ∃ direction key row, sent.filterMap Call.sense? = [direction] ∧
      problem.objective? = some (.text key, row) ∧
      parts.objective = [direction.word ++ " " ++ key ++ ": " ++
        sumText ((sent.filterMap Call.variableName?).filterMap fun column =>
          (row.cells.get? column).map fun coefficient => cellText (column, coefficient)) ++ ";"]
  ascending : constraints.Pairwise fun first second => first.key < second.key
  complete : ∀ key, key ∈ constraints.map Constraint.key ↔
    problem.rows.contains key = true ∧ problem.isObjective key = false
  constraints : List.Forall₂ (Constraint.ShownBy sent) constraints parts.constraints

section Sent

theorem mapM_related {α β : Type} (act : α → Except Fault β) (related : α → β → Prop) (items : List α)
    (succeeds : ∀ item ∈ items, ∃ result, act item = .ok result ∧ related item result) :
    ∃ results, items.mapM act = .ok results ∧ List.Forall₂ related items results := by
  induction items with
  | nil => exact ⟨[], rfl, .nil⟩
  | cons first rest ih =>
      obtain ⟨result, acts, relates⟩ := succeeds first (by simp)
      obtain ⟨results, later, others⟩ := ih fun item member => succeeds item (List.mem_cons_of_mem _ member)
      refine ⟨result :: results, ?_, .cons relates others⟩
      rw [List.mapM_cons, acts, later]
      rfl

variable (solver : Solver) (formulation : Formulation) (others : List Call)

theorem names_of_stage (call : Call) (elsewhere : call.stage ≠ .building) :
    call.variableName? = none ∧ call.sense? = none ∧ call.constraintName? = none := by
  cases call with
  | addVariable | setSense | addRange | addConstraint => exact absurd rfl elsewhere
  | _ => exact ⟨rfl, rfl, rfl⟩

-- What looks at the calls that build a model alone sees nothing else of what is sent.
theorem filterMap_sent {β : Type} (look : Call → Option β)
    (only : ∀ call : Call, call.stage ≠ .building → look call = none) :
    ((outwardCalls solver formulation ++ others).takeWhile fun call => !call.isOptimize).filterMap look =
      formulation.buildingCalls.filterMap look := by
  have opening : (Formulation.openingCalls solver.listens formulation.name).filterMap look = [] :=
    List.filterMap_eq_nil_iff.mpr fun call member =>
      only call (by simp [stage_openingCalls _ _ call member])
  have tuning : solver.settings.tuningCalls.filterMap look = [] :=
    List.filterMap_eq_nil_iff.mpr fun call member => only call (by simp [stage_tuningCalls _ call member])
  rw [takeWhile_outward, List.filterMap_append, List.filterMap_append, opening, tuning, List.append_nil,
    List.nil_append]

theorem filter_sent (look : Call → Bool) (only : ∀ call : Call, call.stage ≠ .building → look call = false) :
    ((outwardCalls solver formulation ++ others).takeWhile fun call => !call.isOptimize).filter look =
      formulation.buildingCalls.filter look := by
  have guarded := filterMap_sent solver formulation others (Option.guard look)
    fun call elsewhere => by simp [Option.guard, only call elsewhere]
  simpa only [List.filterMap_eq_filter] using guarded

end Sent

section Building

variable (problem : Problem)

theorem building_parts : problem.outline.buildingCalls =
    variableCalls problem ++ senseCalls problem ++ constraintCalls problem := rfl

theorem variables_building :
    problem.outline.buildingCalls.filter (fun call => call.variableName?.isSome) = variableCalls problem := by
  have all : (variableCalls problem).filter (fun call => call.variableName?.isSome) = variableCalls problem := by
    refine List.filter_eq_self.mpr fun call member => ?_
    obtain ⟨v, -, rfl⟩ := List.mem_map.mp member
    rfl
  have senses : (senseCalls problem).filter (fun call => call.variableName?.isSome) = [] := by
    unfold senseCalls
    cases problem.direction? <;> rfl
  have constraints : (constraintCalls problem).filter (fun call => call.variableName?.isSome) = [] := by
    refine List.filter_eq_nil_iff.mpr fun call member => ?_
    rw [(plain_constraintCalls problem call member).name]
    simp
  rw [building_parts, List.filter_append, List.filter_append, all, senses, constraints, List.append_nil,
    List.append_nil]

theorem names_building :
    problem.outline.buildingCalls.filterMap Call.variableName? = problem.columns.keys := by
  rw [building_parts, List.filterMap_append, List.filterMap_append, (names_variableCalls problem).1,
    (sense_senseCalls problem).2.1, (names_plain _ (plain_constraintCalls problem)).1, List.append_nil,
    List.append_nil]

theorem senses_building :
    problem.outline.buildingCalls.filterMap Call.sense? = problem.direction?.toList := by
  rw [building_parts, List.filterMap_append, List.filterMap_append, (names_variableCalls problem).2,
    (sense_senseCalls problem).1, (names_plain _ (plain_constraintCalls problem)).2.1, List.append_nil,
    List.nil_append]

theorem constraintName?_of_call? (constraint : Constraint) (call : Call)
    (called : constraint.call? = some call) : call.constraintName? = some constraint.key := by
  unfold Constraint.call? at called
  split at called <;> cases called <;> rfl

-- Of the calls of constraints with different keys those with the key of one are its own.
theorem filter_calls (constraints : List Constraint) (distinct : (constraints.map Constraint.key).Nodup)
    (constraint : Constraint) (member : constraint ∈ constraints) :
    (constraints.filterMap Constraint.call?).filter
      (fun call => call.constraintName? == some constraint.key) = constraint.call?.toList := by
  have own (other : Constraint) : other.call?.toList.filter
      (fun call => call.constraintName? == some constraint.key) =
        if other.key = constraint.key then other.call?.toList else [] := by
    cases called : other.call? with
    | none => simp
    | some call =>
        have name := constraintName?_of_call? other call called
        by_cases same : other.key = constraint.key <;> simp [name, same]
  induction constraints with
  | nil => cases member
  | cons first rest ih =>
      obtain ⟨fresh, later⟩ := List.nodup_cons.mp distinct
      have split : (first :: rest).filterMap Constraint.call? =
          first.call?.toList ++ rest.filterMap Constraint.call? := by
        cases called : first.call? <;> simp [called]
      rw [split, List.filter_append, own first]
      rcases List.mem_cons.mp member with rfl | inside
      · have nothing : (rest.filterMap Constraint.call?).filter
            (fun call => call.constraintName? == some constraint.key) = [] := by
          refine List.filter_eq_nil_iff.mpr fun call there same => fresh ?_
          obtain ⟨other, among, called⟩ := List.mem_filterMap.mp there
          rw [constraintName?_of_call? other call called] at same
          have key : other.key = constraint.key := by simpa using same
          exact key ▸ List.mem_map_of_mem among
        rw [if_pos rfl, nothing, List.append_nil]
      · have apart : first.key ≠ constraint.key := by
          intro same
          exact fresh (same ▸ List.mem_map_of_mem inside)
        rw [if_neg apart, List.nil_append, ih later inside]

theorem outline_keys : problem.outline.constraints.map Constraint.key = problem.constraints.map (·.1) := by
  simp [Problem.outline, Function.comp_def]

theorem constraints_building (constraint : Constraint) (member : constraint ∈ problem.outline.constraints) :
    problem.outline.buildingCalls.filter (fun call => call.constraintName? == some constraint.key) =
      constraint.call?.toList := by
  have columns : (variableCalls problem).filter
      (fun call => call.constraintName? == some constraint.key) = [] := by
    refine List.filter_eq_nil_iff.mpr fun call member => ?_
    obtain ⟨v, -, rfl⟩ := List.mem_map.mp member
    simp [Call.constraintName?]
  have senses : (senseCalls problem).filter (fun call => call.constraintName? == some constraint.key) = [] := by
    unfold senseCalls
    cases problem.direction? <;> rfl
  have distinct : (problem.outline.constraints.map Constraint.key).Nodup := by
    rw [outline_keys]
    exact problem.constraints_keys_nodup
  rw [building_parts, List.filter_append, List.filter_append, columns, senses, List.append_nil,
    List.nil_append]
  exact filter_calls problem.outline.constraints distinct constraint member

/-- Entries are found in the order of any ascending keys that include theirs. -/
theorem entries_of_keys {α : Type} (catalog : Catalog α) (keys : List String)
    (ascending : keys.Pairwise (· < ·)) (covers : ∀ entry ∈ catalog.entries, entry.1 ∈ keys) :
    keys.filterMap (fun key => (catalog.get? key).map fun item => (key, item)) = catalog.entries := by
  refine entries_eq_of_mem_iff _ _ ?_ catalog.ascending ?_
  · refine List.pairwise_filterMap.mpr (ascending.imp ?_)
    intro key other before entry isEntry next isNext
    obtain ⟨item, -, rfl⟩ := Option.map_eq_some_iff.mp isEntry
    obtain ⟨another, -, rfl⟩ := Option.map_eq_some_iff.mp isNext
    exact before
  · rintro ⟨key, item⟩
    rw [Catalog.mem_entries_iff, List.mem_filterMap]
    constructor
    · rintro ⟨other, -, found⟩
      obtain ⟨same, there, isEntry⟩ := Option.map_eq_some_iff.mp found
      cases isEntry
      exact there
    · intro found
      have inside := covers (key, item) ((Catalog.mem_entries_iff _ _ _).mpr found)
      exact ⟨key, inside, by rw [found]; rfl⟩

end Building

section Listing

variable (problem : Problem)

theorem expressionText_eq (row : Row) : Listing.expressionText row.expression = Listing.cellsText row.cells := by
  simp [Listing.expressionText, Row.expression, Listing.cellsText, Function.comp_def]

theorem objective_named (named : problem.TextObjective) (key : Value) (row : Row)
    (aimed : problem.objective? = some (key, row)) : ∃ name, key = .text name := by
  obtain ⟨aim, isAim, aimed⟩ := Option.bind_eq_some_iff.mp aimed
  obtain ⟨found, -, same⟩ := Option.bind_eq_some_iff.mp aimed
  cases same
  cases aim with
  | row name => exact ⟨name, rfl⟩
  | beside name besideRow earlier => simp [Problem.TextObjective, Problem.beside?, isAim] at named

theorem objectiveText_directed (key : String) (row : Row) (direction : Direction)
    (directed : row.direction = some (.direction direction)) : Listing.objectiveText (.text key) row =
      .ok (direction.word ++ " " ++ key ++ ": " ++ Listing.cellsText row.cells ++ ";") := by
  have written : (Value.text key).written = .ok key := rfl
  have word : Listing.directionText (.direction direction) = .ok direction.word := rfl
  simp only [Listing.objectiveText, directed, word, written, ok_bind]
  rfl

/-- The lines of columns, one for each variable. -/
theorem columns_listed (specified : problem.Specified) (stored : problem.StoredBounds) :
    ∃ lines, (problem.columns.entries.mapM fun (key, column) => Listing.columnText key column) = .ok lines ∧
      List.Forall₂ problem.Declares (variableCalls problem) lines := by
  obtain ⟨lines, listed, declared⟩ := mapM_related (fun (key, column) => Listing.columnText key column)
    (fun entry line => problem.Declares (.addVariable entry.2.engineBounds.1 entry.2.engineBounds.2
      (problem.cost entry.1) entry.2.variableType entry.1) line) problem.columns.entries
    (by
      rintro ⟨key, column⟩ member
      have found := (Catalog.mem_entries_iff _ _ _).mp member
      obtain ⟨type, isType⟩ := specified.typed key column found
      obtain ⟨lower, upper⟩ := stored.columns key column found
      obtain ⟨line, isLine⟩ := columnText_ok key column type isType lower upper
      have typed : column.variableType = type := by simp [Column.variableType, isType]
      exact ⟨line, isLine, key, column, type, _, _, _, by rw [typed], found, isType, isLine⟩)
  refine ⟨lines, listed, ?_⟩
  rw [variableCalls, Problem.outline, List.map_map, List.forall₂_map_left_iff]
  exact declared

/-- The lines of constraints, one for each expression. -/
theorem constraints_listed (stored : problem.StoredBounds) :
    ∃ lines, (problem.constraints.mapM fun (key, row) => Listing.rowText (.text key) row) = .ok lines ∧
      List.Forall₂ (Constraint.ShownBy problem.outline.buildingCalls) problem.outline.constraints lines := by
  obtain ⟨lines, listed, shown⟩ := mapM_related (fun (key, row) => Listing.rowText (.text key) row)
    (fun entry line => Constraint.ShownBy problem.outline.buildingCalls
      ⟨entry.1, entry.2.expression, entry.2.lower, entry.2.upper⟩ line) problem.constraints
    (by
      rintro ⟨key, row⟩ member
      obtain ⟨found, isRow⟩ := (problem.mem_constraints_iff key row).mp member
      obtain ⟨lower, upper⟩ := stored.rows key row found isRow
      obtain ⟨form, isLine, isCall⟩ := rowText_and_call? key row row.expression lower upper
      refine ⟨_, isLine, form, ?_, ?_⟩
      · rw [expressionText_eq]
      · rw [constraints_building problem _ (List.mem_map_of_mem member), isCall])
  refine ⟨lines, listed, ?_⟩
  rw [Problem.outline, List.forall₂_map_left_iff]
  exact shown

/-- The line of the objective, if there is one, with a direction and with its terms in the order of the columns. -/
theorem objective_listed (closed : problem.Closed) (named : problem.TextObjective)
    (specified : problem.Specified) :
    ∃ lines, (problem.objective?.toList.mapM fun (key, row) => Listing.objectiveText key row) = .ok lines ∧
      (problem.direction?.toList = [] ∧ lines = [] ∨
        ∃ direction key row, problem.direction?.toList = [direction] ∧
          problem.objective? = some (.text key, row) ∧
          lines = [direction.word ++ " " ++ key ++ ": " ++
            Listing.sumText (problem.columns.keys.filterMap fun column =>
              (row.cells.get? column).map fun coefficient => Listing.cellText (column, coefficient)) ++ ";"]) := by
  cases aimed : problem.objective? with
  | none => exact ⟨[], rfl, Or.inl ⟨by simp [Problem.direction?, aimed], rfl⟩⟩
  | some aim =>
      obtain ⟨key, row⟩ := aim
      obtain ⟨name, rfl⟩ := objective_named problem named key row aimed
      obtain ⟨direction, directed⟩ := specified.directed _ row aimed
      have isDirection := direction?_of_objective problem _ row direction aimed directed
      have terms : (problem.columns.keys.filterMap fun column =>
          (row.cells.get? column).map fun coefficient => Listing.cellText (column, coefficient)) =
          row.cells.entries.map Listing.cellText := by
        have found := problem.row?_of_objective _ row aimed
        rw [← entries_of_keys row.cells problem.columns.keys problem.columns.keys_pairwise
          (fun cell member => (Catalog.mem_keys_iff _ _).mpr
            (problem.registered_of_cell closed _ row found cell member)), List.map_filterMap]
        simp only [Option.map_map, Function.comp_def]
      refine ⟨_, ?_, Or.inr ⟨direction, name, row, by rw [isDirection]; rfl, rfl, rfl⟩⟩
      have line := objectiveText_directed name row direction directed
      rw [terms]
      simp only [Option.toList_some, List.mapM_cons, line, ok_bind, List.mapM_nil]
      rfl

/-- The keys of the constraints ascend, and are those of the rows but the objective. -/
theorem constraints_ascend : problem.outline.constraints.Pairwise (fun first second => first.key < second.key) ∧
    ∀ key, key ∈ problem.outline.constraints.map Constraint.key ↔
      problem.rows.contains key = true ∧ problem.isObjective key = false := by
  constructor
  · refine List.pairwise_map.mp ?_
    rw [outline_keys, Problem.keys_constraints]
    exact problem.rows.keys_pairwise.filter _
  · intro key
    rw [outline_keys, Problem.keys_constraints, List.mem_filter, Catalog.mem_keys_iff, Bool.not_eq_true']

/-- A direction stands for itself, so a listing is made of the problem as it is. -/
theorem step_listing (session : Session) (index : Nat) (there : session.problems[index]? = some problem)
    (named : problem.TextObjective) (specified : problem.Specified) :
    session.step (.listing index) = (session, { answer := problem.listing.map .text }) := by
  have found : session.problemAt index = .ok problem := by rw [Session.problemAt, there]
  simp only [Session.step, Session.listing, Session.inspect, found, ok_bind]
  cases aimed : problem.objective with
  | none => rfl
  | some aim =>
      cases aim with
      | beside name row earlier => simp [Problem.TextObjective, Problem.beside?, aimed] at named
      | row key =>
          have kept := problem.rows.modify_self key
            (fun row => { row with direction := row.direction.map session.shownDirection }) (by
              intro row found
              have objective : problem.objective? = some (.text key, row) := by
                simp [Problem.objective?, aimed, Aim.key, found]
              obtain ⟨direction, directed⟩ := specified.directed _ row objective
              rw [directed]
              cases row
              cases directed
              rfl)
          simp only [Aim.key, Problem.changeRow, kept]

theorem listing_untitled (fault : Fault) (untitled : problem.title = .error fault) : problem.listing = .error fault := by
  unfold Problem.title at untitled
  split at untitled
  next truthy =>
    simp only [Problem.listing, Problem.listingLines, if_pos truthy, untitled]
    rfl
  next => cases untitled

/-- The lines of a problem with a title. -/
theorem listing_of_parts (parts : Listing.Parts) (title : String) (titled : problem.title = .ok title)
    (isTitle : parts.title = if problem.name.isTruthy then ["\\* " ++ title ++ " *\\"] else [])
    (inOrder : problem.orderFault? = none)
    (columns : (problem.columns.entries.mapM fun (key, column) => Listing.columnText key column) =
      .ok parts.columns)
    (objective : (problem.objective?.toList.mapM fun (key, row) => Listing.objectiveText key row) =
      .ok parts.objective)
    (constraints : (problem.constraints.mapM fun (key, row) => Listing.rowText (.text key) row) =
      .ok parts.constraints) : problem.listing = .ok parts.text := by
  have ordered : problem.checkOrder = .ok () := by simp [Problem.checkOrder, inOrder]
  unfold Problem.title at titled
  split at titled
  next truthy =>
    rw [if_pos truthy] at isTitle
    simp only [Problem.listing, Problem.listingLines, if_pos truthy, titled, Except.map, columns, ordered,
      objective, constraints, ok_bind, Listing.Parts.text, isTitle]
    rfl
  next falsy =>
    rw [if_neg falsy] at isTitle
    simp only [Problem.listing, Problem.listingLines, if_neg falsy, columns, ordered, objective, constraints,
      ok_bind, pure_bind, Listing.Parts.text, isTitle]
    rfl

end Listing

namespace Listing.Parts

/-- The lines of a problem with a title show the calls that build its model. -/
theorem show_building (problem : Problem) (closed : problem.Closed) (named : problem.TextObjective)
    (specified : problem.Specified) (stored : problem.StoredBounds) (title : String)
    (titled : problem.title = .ok title) : ∃ parts : Parts, problem.listing = .ok parts.text ∧
      parts.Show problem problem.outline.buildingCalls problem.outline.constraints := by
  obtain ⟨columns, listedColumns, declared⟩ := columns_listed problem specified stored
  obtain ⟨objective, listedObjective, aimed⟩ := objective_listed problem closed named specified
  obtain ⟨constraints, listedConstraints, shown⟩ := constraints_listed problem stored
  obtain ⟨ascending, complete⟩ := constraints_ascend problem
  refine ⟨⟨if problem.name.isTruthy then ["\\* " ++ title ++ " *\\"] else [], columns, objective, constraints⟩,
    listing_of_parts problem _ title titled rfl (problem.inOrder_of_textObjective named) listedColumns
      listedObjective listedConstraints, ?_⟩
  refine ⟨fun falsy => by simp [falsy], fun truthy => ⟨title, titled, by simp [truthy]⟩, ?_, ?_, ascending,
    complete, shown⟩
  · rw [variables_building]
    exact declared
  · rw [senses_building, names_building]
    exact aimed

/-- What shows the calls that build a model shows all that is sent before the optimisation. -/
theorem Show.sent {parts : Parts} {problem : Problem} {formulation : Formulation} {constraints : List Constraint}
    (shows : parts.Show problem formulation.buildingCalls constraints) (solver : Solver) (others : List Call) :
    parts.Show problem ((outwardCalls solver formulation ++ others).takeWhile fun call => !call.isOptimize)
      constraints := by
  have added := filter_sent solver formulation others (fun call => call.variableName?.isSome)
    fun call elsewhere => by rw [(names_of_stage call elsewhere).1]; rfl
  have keys := filterMap_sent solver formulation others Call.variableName?
    fun call elsewhere => (names_of_stage call elsewhere).1
  have senses := filterMap_sent solver formulation others Call.sense?
    fun call elsewhere => (names_of_stage call elsewhere).2.1
  have rows (key : String) := filter_sent solver formulation others
    (fun call => call.constraintName? == some key)
    fun call elsewhere => by rw [(names_of_stage call elsewhere).2.2]; rfl
  refine ⟨shows.untitled, shows.titled, ?_, ?_, shows.ascending, shows.complete, ?_⟩
  · rw [added]
    exact shows.columns
  · rw [senses, keys]
    exact shows.objective
  · refine shows.constraints.imp fun constraint line ⟨form, isLine, isCall⟩ => ⟨form, isLine, ?_⟩
    rw [rows, isCall]

end Listing.Parts

/-- The listing shows the model that goes to the engine. For a problem that is accepted its lines are the title
if the name counts, one line for each variable, the objective exactly when there is a direction, and one line
for each row but the objective with the terms and the bounds of its expression; unless a call fails, that is
what is sent. A problem whose name cannot be written out has no listing and sends nothing. -/
theorem listing_shows_sent (solver : Solver) (problem : Problem) (engine : Engine)
    (reachable : problem.Reachable) (named : problem.TextObjective) (fits : problem.Fits)
    (specified : problem.Specified) (stored : problem.StoredBounds) :
    (∀ fault, problem.title = .error fault → problem.listing = .error fault ∧
      (solver.solve problem engine).outcome = .error fault ∧ (solver.solve problem engine).calls = []) ∧
    ∀ title, problem.title = .ok title → ∃ (parts : Listing.Parts) (prepared : Solver.Prepared),
      problem.listing = .ok parts.text ∧
      Solver.prepare problem.assignNumbers = .ok (.ok prepared) ∧
      parts.Show problem prepared.formulation.buildingCalls prepared.formulation.constraints ∧
      ((solver.solve problem engine).NoCallFailed engine →
        parts.Show problem (solver.solve problem engine).beforeOptimize prepared.formulation.constraints) ∧
      ∀ (session : Session) (index : Nat), session.problems[index]? = some problem →
        session.step (.listing index) = (session, { answer := .ok (.text parts.text) }) := by
  have closed := reachable.closed
  have inOrder := problem.inOrder_of_textObjective named
  have accepted := ((specified_iff problem).mp specified).1
  constructor
  · intro fault untitled
    rw [solver.solve_untitled problem engine closed inOrder fits accepted fault untitled]
    exact ⟨listing_untitled problem fault untitled, rfl, rfl⟩
  · intro title titled
    obtain ⟨parts, listed, shows⟩ :=
      Listing.Parts.show_building problem closed named specified stored title titled
    refine ⟨parts, _, listed, problem.prepare_assignNumbers closed inOrder fits accepted title titled, shows,
      ?_, ?_⟩
    · intro succeeded
      obtain ⟨notice, solved⟩ := solver.solve_accepted problem engine closed inOrder fits accepted title titled
      rw [solved] at succeeded ⊢
      obtain ⟨others, sent⟩ := calls_run solver problem.assignNumbers engine title problem.outline succeeded
      have shown := shows.sent solver others
      rw [← sent] at shown
      exact shown
    · intro session index there
      rw [step_listing problem session index there named specified, listed]
      rfl

section Fence

/-- A program that builds a problem with bounds of every form, among them reversed bounds, equal zeros of both
signs and values that are no numbers, and with a second objective that is only a row. -/
def fenceSteps : List Step :=
  let column (key : String) : Handle := some ⟨0, .column, .text key⟩
  let row (key : String) : Handle := some ⟨0, .row, .text key⟩
  let objective (key : String) : Handle := some ⟨0, .objective, .text key⟩
  [.problem (.text "fence"), .column 0 (.text "x") [], .column 0 (.text "y") [],
    .setType (column "x") (.columnType .float), .setType (column "y") (.columnType .integer),
    .setBounds (column "y") (.int 0) (.int 9), .objective 0 (.text "cost") (.direction .maximize),
    .add (objective "cost") (.int 1) (.text "y") [],
    .add (objective "cost") (.float (.ofRatio true 5 2)) (.text "x") [],
    .newObjective 0 "aside" (.direction .minimize), .add (objective "aside") (.int 1) (.text "y") [],
    .row 0 (.text "free") [], .row 0 (.text "never") [], .setBounds (row "never") (.float .nan) (.float .nan),
    .row 0 (.text "open") [], .setBounds (row "open") .null (.float (.infinity false)),
    .row 0 (.text "reversed") [], .setBounds (row "reversed") (.int 4) (.int 1),
    .row 0 (.text "still") [], .setBounds (row "still") (.int 0) (.float (.ofRank true 0)),
    .add (row "still") (.int (-1)) (.text "x") []]

def fence : Problem := ((Session.run {} fenceSteps).1.problems[0]?).getD {}

theorem fence_reachable : fence.Reachable :=
  Problem.reachable_of_run fenceSteps 0 (by decide +kernel) (by decide +kernel)

theorem fence_listed : ∃ (parts : Listing.Parts) (prepared : Solver.Prepared),
    fence.listing = .ok parts.text ∧
      parts.text = "\n".intercalate ["\\* fence *\\", "var x;", "var y, integer, >= 0, <= 9;",
        "maximize cost: - 2.5 * x + 1 * y;", "s.t. aside: + 1 * y;", "s.t. free: 0;",
        "s.t. never: nan <= 0 <= nan;", "s.t. open: 0 <= inf;", "s.t. reversed: 4 <= 0 <= 1;",
        "s.t. still: - 1 * x = 0;", "end;"] ∧
      parts.Show fence (({} : Solver).solve fence plainAnswers).beforeOptimize prepared.formulation.constraints := by
  obtain ⟨title, titled⟩ := ok_of_isOk fence.title (by decide +kernel)
  obtain ⟨parts, prepared, listed, -, -, shows, -⟩ :=
    (listing_shows_sent {} fence plainAnswers fence_reachable (by decide +kernel) (by decide +kernel) (by decide +kernel)
      (by decide +kernel)).2 title titled
  refine ⟨parts, prepared, listed, Except.ok.inj (listed.symm.trans (ok_of_toOption fence.listing _ ?_)),
    shows (by intro failing fails; cases fails)⟩
  decide +kernel

end Fence

end LinearProgram
