import LinearProgram.Proofs.Outline
import Mathlib.Algebra.BigOperators.Group.List.Basic
import Mathlib.Algebra.Order.Field.Basic
import Mathlib.Algebra.Order.Field.Rat
import Mathlib.Algebra.Order.Ring.Abs

/-!
What the engine is asked. An assignment of rational numbers satisfies the calls that a solve makes
before it optimises exactly when it is feasible for the problem, and it costs there what the objective
is worth.
-/

namespace LinearProgram

namespace Binary64

def rational? (x : Binary64) : Option ℚ := x.quanta?.map fun n : ℤ => (n : ℚ) / (quantaPerUnit : ℚ)

/-- The exact value of a coefficient. Those that are not finite have none and count as zero. -/
def rational (x : Binary64) : ℚ := x.rational?.getD 0

end Binary64

/-- The magnitude from which on an engine reads the bound of a variable as no bound. -/
def engineInfinity : ℚ := (Binary64.ofRatio false (Nat.pow 10 100) 1).rational

namespace Value

def declared? : Value → Option ℚ
  | .float x => x.rational?
  | _ => none

def engineBound? (bound : Value) : Option ℚ := bound.declared?.filter fun q => |q| < engineInfinity

def IsBound (bound : Value) : Prop :=
  bound = .null ∨ ∃ x q, bound = .float x ∧ x.rational? = some q ∧ |q| < engineInfinity

instance : (bound : Value) → Decidable bound.IsBound
  | .null => isTrue (Or.inl rfl)
  | .float x =>
      decidable_of_iff (∃ q ∈ x.rational?, |q| < engineInfinity)
        ⟨fun ⟨q, isRational, small⟩ => Or.inr ⟨x, q, rfl, isRational, small⟩, by
          rintro (isNull | ⟨y, q, same, isRational, small⟩)
          · cases isNull
          · cases same
            exact ⟨q, isRational, small⟩⟩
  | .int _ | .bool _ | .text _ | .list _ | .columnType _ | .direction _ | .entity .. | .mapping _
  | .day _ | .moment _ =>
      isFalse (by
        rintro (isNull | ⟨y, q, same, -⟩)
        · cases isNull
        · cases same)

end Value

def Within (lower upper : Option ℚ) (x : ℚ) : Prop := (∀ low ∈ lower, low ≤ x) ∧ ∀ high ∈ upper, x ≤ high

def ColumnType.Admits : ColumnType → ℚ → Prop
  | .float, _ => True
  | .integer, x => ∃ n : ℤ, x = n
  | .binary, x => x = 0 ∨ x = 1

def Expression.valueAt (x : String → ℚ) (expression : Expression) : ℚ :=
  (expression.map fun (coefficient, name) => coefficient.rational * x name).sum

namespace Call

def Holds (x : String → ℚ) : Call → Prop
  | addVariable lower upper _ type name =>
      type.Admits (x name) ∧ Within lower.engineBound? upper.engineBound? (x name)
  | addRange expression lower upper _ =>
      ∃ low high, lower.declared? = some low ∧ upper.declared? = some high ∧
        low ≤ expression.valueAt x ∧ expression.valueAt x ≤ high
  | addConstraint expression sense bound _ =>
      ∃ q, bound.declared? = some q ∧
        match sense with
        | .atMost => expression.valueAt x ≤ q
        | .atLeast => q ≤ expression.valueAt x
        | .equal => expression.valueAt x = q
  | _ => True

def costAt (x : String → ℚ) : Call → ℚ
  | addVariable _ _ cost _ name => cost.rational * x name
  | _ => 0

def variableName? : Call → Option String
  | addVariable _ _ _ _ name => some name
  | _ => none

def sense? : Call → Option Direction
  | setSense direction => some direction
  | _ => none

def isOptimize : Call → Bool
  | optimize _ => true
  | _ => false

end Call

namespace Column

def Admits (column : Column) (x : ℚ) : Prop :=
  (∃ type, column.type = .columnType type ∧ type.Admits x) ∧
    Within column.lower.declared? column.upper.declared? x

end Column

namespace Row

def valueAt (x : String → ℚ) (row : Row) : ℚ :=
  (row.cells.entries.map fun (column, coefficient) => coefficient.rational * x column).sum

def Admits (row : Row) (x : String → ℚ) : Prop :=
  Within row.lower.declared? row.upper.declared? (row.valueAt x)

end Row

namespace Problem

variable (problem : Problem)

structure Feasible (x : String → ℚ) : Prop where
  columns : ∀ key column, problem.columns.get? key = some column → column.Admits (x key)
  rows : ∀ key row, problem.rows.get? key = some row → problem.isObjective key = false → row.Admits x

def objectiveValue (x : String → ℚ) : ℚ := (problem.objective?.map fun (_, row) => row.valueAt x).getD 0

structure Bounded : Prop where
  columns : ∀ key column, problem.columns.get? key = some column →
    column.lower.IsBound ∧ column.upper.IsBound
  rows : ∀ key row, problem.rows.get? key = some row → problem.isObjective key = false →
    row.lower.IsBound ∧ row.upper.IsBound

instance : Decidable problem.Bounded :=
  decidable_of_iff
    ((∀ key column, problem.columns.get? key = some column →
        column.lower.IsBound ∧ column.upper.IsBound) ∧
      ∀ key row, problem.rows.get? key = some row → problem.isObjective key = false →
        row.lower.IsBound ∧ row.upper.IsBound)
    ⟨fun ⟨columns, rows⟩ => ⟨columns, rows⟩, fun bounded => ⟨bounded.columns, bounded.rows⟩⟩

/-- Calls that state the model of a problem: one variable for each column under its key, the same
solutions, the same objective with its direction. -/
structure StatedBy (calls : List Call) : Prop where
  names : calls.filterMap Call.variableName? = problem.columns.keys
  solutions : ∀ x, (∀ call ∈ calls, call.Holds x) ↔ problem.Feasible x
  objective : ∀ x, (calls.map (Call.costAt x)).sum = problem.objectiveValue x
  noSense : problem.objective? = none → calls.filterMap Call.sense? = []
  sense : ∀ key row direction, problem.objective? = some (key, row) →
    row.direction = some (.direction direction) → calls.filterMap Call.sense? = [direction]

end Problem

section Bounds

theorem declared?_of_isBound (bound : Value) (isBound : bound.IsBound) :
    bound.engineBound? = bound.declared? := by
  rcases isBound with rfl | ⟨x, q, rfl, isRational, small⟩
  · rfl
  · simp [Value.engineBound?, Value.declared?, isRational, small]

theorem quanta?_ofRatio (negative : Bool) (numerator denominator : Nat) :
    (Binary64.ofRatio negative numerator denominator).quanta? =
      (Binary64.ofRatio false numerator denominator).quanta?.map fun n => if negative then -n else n := by
  unfold Binary64.ofRatio Binary64.ofRank Binary64.quanta?
  dsimp only
  split
  · rfl
  · cases negative <;> rfl

theorem rational?_ofRatio (negative : Bool) (numerator denominator : Nat) :
    (Binary64.ofRatio negative numerator denominator).rational? =
      (Binary64.ofRatio false numerator denominator).rational?.map fun q =>
        if negative then -q else q := by
  rw [Binary64.rational?, Binary64.rational?, quanta?_ofRatio, Option.map_map, Option.map_map]
  refine congrArg (fun change => Option.map change _) (funext fun n => ?_)
  cases negative with
  | false => rfl
  | true => simp only [Function.comp_apply, if_true, Int.cast_neg, neg_div]

-- The bound that stands for no bound is read as none.
theorem engineBound?_unbounded (negative : Bool) : (unbounded negative).engineBound? = none := by
  refine Option.filter_eq_none_iff.mpr fun q isBound => ?_
  have exact : (Binary64.ofRatio negative (Nat.pow 10 100) 1).rational? = some q := isBound
  rw [rational?_ofRatio, Option.map_eq_some_iff] at exact
  obtain ⟨infinite, isRational, rfl⟩ := exact
  have limit : engineInfinity = infinite := by
    rw [engineInfinity, Binary64.rational, isRational, Option.getD_some]
  have atLeast := le_abs_self infinite
  cases negative <;> simp [limit, atLeast]

theorem place?_of_quanta? (x : Binary64) (n : ℤ) (quanta : x.quanta? = some n) :
    (Number.float x).place? = some (0, n) := by
  cases x with
  | nan => cases quanta
  | signed negative rank bounded => simp only [Number.place?, quanta]

-- Finite numbers that are equal as values are the same number.
theorem rational?_of_equals (low high : Binary64) (first second : ℚ)
    (isFirst : low.rational? = some first) (isSecond : high.rational? = some second)
    (same : (Value.float low).equals (.float high) = true) : first = second := by
  obtain ⟨m, lowQuanta, rfl⟩ := Option.map_eq_some_iff.mp isFirst
  obtain ⟨n, highQuanta, rfl⟩ := Option.map_eq_some_iff.mp isSecond
  have order : Number.compare? (.float low) (.float high) = some (compare m n) := by
    simp [Number.compare?, place?_of_quanta? low m lowQuanta, place?_of_quanta? high n highQuanta]
  have equal : Number.compare? (.float low) (.float high) = some .eq := by
    simpa [Value.equals, Value.number?, Number.equals] using same
  have numbers : m = n := by
    rw [order] at equal
    exact Int.compare_eq_eq.mp (Option.some.inj equal)
  rw [numbers]

end Bounds

section Variables

def enginePair (lower upper : Value) : Value × Value :=
  match BoundKind.ofBounds lower upper with
  | .free => (unbounded true, unbounded false)
  | .lower => (lower, unbounded false)
  | .upper => (unbounded true, upper)
  | .fixed => (lower, lower)
  | .ranged => (lower, upper)

/-- An engine reads of a pair of bounds what it declares. -/
theorem within_enginePair (lower upper : Value) (lowerBound : lower.IsBound)
    (upperBound : upper.IsBound) (x : ℚ) :
    Within (enginePair lower upper).1.engineBound? (enginePair lower upper).2.engineBound? x ↔
      Within lower.declared? upper.declared? x := by
  have readLower := declared?_of_isBound lower lowerBound
  have readUpper := declared?_of_isBound upper upperBound
  rcases lowerBound with rfl | ⟨low, first, rfl, isFirst, -⟩
  · rcases upperBound with rfl | ⟨high, second, rfl, isSecond, -⟩
    · simp [enginePair, BoundKind.ofBounds, engineBound?_unbounded, Value.declared?]
    · simp [enginePair, BoundKind.ofBounds, engineBound?_unbounded, readUpper, Value.declared?]
  · rcases upperBound with rfl | ⟨high, second, rfl, isSecond, -⟩
    · simp [enginePair, BoundKind.ofBounds, engineBound?_unbounded, readLower, Value.declared?]
    · cases same : (Value.float low).equals (.float high) with
      | true =>
          have equal := rational?_of_equals low high first second isFirst isSecond same
          simp [enginePair, BoundKind.ofBounds, same, readLower, Value.declared?, isFirst, isSecond,
            equal]
      | false => simp [enginePair, BoundKind.ofBounds, same, readLower, readUpper]

namespace Column

def isBinary (column : Column) : Bool :=
  match column.type with
  | .columnType .binary => true
  | _ => false

def lowerOrDefault (column : Column) : Value :=
  match column.lower with
  | .null => if column.isBinary then .float .zero else .null
  | bound => bound

def upperOrDefault (column : Column) : Value :=
  match column.upper with
  | .null => if column.isBinary then .float (.ofInt 1) else .null
  | bound => bound

theorem engineBounds_eq (column : Column) :
    column.engineBounds = enginePair column.lowerOrDefault column.upperOrDefault := rfl

end Column

theorem rational?_zero : Binary64.zero.rational? = some 0 := by
  have quanta : Binary64.zero.quanta? = some 0 := by decide +kernel
  rw [Binary64.rational?, quanta, Option.map_some, Int.cast_zero, zero_div]

theorem quantaPerUnit_pos : (0 : ℚ) < Binary64.quantaPerUnit := by
  have positive : 0 < Binary64.quantaPerUnit := by decide +kernel
  exact Nat.cast_pos.mpr positive

theorem rational?_one : (Binary64.ofInt 1).rational? = some 1 := by
  have quanta : (Binary64.ofInt 1).quanta? = some (Binary64.quantaPerUnit : ℤ) := by decide +kernel
  rw [Binary64.rational?, quanta, Option.map_some, Int.cast_natCast, div_self quantaPerUnit_pos.ne']

theorem one_lt_engineInfinity : 1 < engineInfinity := by
  have many : ((Binary64.ofRatio false (Nat.pow 10 100) 1).quanta?.any fun n =>
      (Binary64.quantaPerUnit : ℤ) < n) = true := by decide +kernel
  obtain ⟨n, quanta, more⟩ := (Option.any_eq_true _ _).mp many
  rw [engineInfinity, Binary64.rational, Binary64.rational?, quanta, Option.map_some,
    Option.getD_some, one_lt_div quantaPerUnit_pos]
  exact_mod_cast of_decide_eq_true more

namespace Column

variable (column : Column)

theorem lowerOrDefault_isBound (isBound : column.lower.IsBound) : column.lowerOrDefault.IsBound := by
  unfold lowerOrDefault
  split
  · split
    · exact Or.inr ⟨_, 0, rfl, rational?_zero, by simpa using zero_lt_one.trans one_lt_engineInfinity⟩
    · exact Or.inl rfl
  · exact isBound

theorem upperOrDefault_isBound (isBound : column.upper.IsBound) : column.upperOrDefault.IsBound := by
  unfold upperOrDefault
  split
  · split
    · exact Or.inr ⟨_, 1, rfl, rational?_one, by simpa only [abs_one] using one_lt_engineInfinity⟩
    · exact Or.inl rfl
  · exact isBound

-- A binary column lies between its default bounds.
theorem binary_range (type : ColumnType) (isType : column.type = .columnType type) (x : ℚ)
    (admits : type.Admits x) (binary : column.isBinary = true) : 0 ≤ x ∧ x ≤ 1 := by
  cases type with
  | binary => rcases admits with rfl | rfl <;> simp
  | float => simp [isBinary, isType] at binary
  | integer => simp [isBinary, isType] at binary

/-- The default bounds of a column ask nothing that its type does not. -/
theorem within_orDefault (type : ColumnType) (isType : column.type = .columnType type) (x : ℚ)
    (admits : type.Admits x) :
    Within column.lowerOrDefault.declared? column.upperOrDefault.declared? x ↔
      Within column.lower.declared? column.upper.declared? x := by
  have range := binary_range column type isType x admits
  have lower : (∀ low ∈ column.lowerOrDefault.declared?, low ≤ x) ↔
      ∀ low ∈ column.lower.declared?, low ≤ x := by
    unfold lowerOrDefault
    split
    next absent =>
      by_cases binary : column.isBinary = true
      · simp [absent, binary, Value.declared?, rational?_zero, (range binary).1]
      · simp [absent, binary]
    next => rfl
  have upper : (∀ high ∈ column.upperOrDefault.declared?, x ≤ high) ↔
      ∀ high ∈ column.upper.declared?, x ≤ high := by
    unfold upperOrDefault
    split
    next absent =>
      by_cases binary : column.isBinary = true
      · simp [absent, binary, Value.declared?, rational?_one, (range binary).2]
      · simp [absent, binary]
    next => rfl
  exact and_congr lower upper

/-- The variable of a column asks what the column asks. -/
theorem holds_variable (type : ColumnType) (isType : column.type = .columnType type)
    (lower : column.lower.IsBound) (upper : column.upper.IsBound) (cost : Binary64) (key : String)
    (x : String → ℚ) :
    (Call.addVariable column.engineBounds.1 column.engineBounds.2 cost column.variableType key).Holds x ↔
      column.Admits (x key) := by
  have bounds := within_enginePair _ _ (lowerOrDefault_isBound column lower)
    (upperOrDefault_isBound column upper) (x key)
  have same : column.variableType = type := by simp [variableType, isType]
  simp only [Call.Holds, engineBounds_eq, bounds, same]
  constructor
  · rintro ⟨admits, within⟩
    exact ⟨⟨type, isType, admits⟩, (within_orDefault column type isType _ admits).mp within⟩
  · rintro ⟨⟨other, isOther, admits⟩, within⟩
    rw [isType] at isOther
    cases isOther
    exact ⟨admits, (within_orDefault column type isType _ admits).mpr within⟩

end Column

end Variables

section Constraints

/-- The call of a constraint, if there is one, asks that its expression lies between its bounds. -/
theorem holds_constraint (constraint : Constraint) (lower : constraint.lower.IsBound)
    (upper : constraint.upper.IsBound) (x : String → ℚ) :
    (∀ call ∈ constraint.call?, call.Holds x) ↔
      Within constraint.lower.declared? constraint.upper.declared? (constraint.expression.valueAt x) := by
  obtain ⟨key, expression, low, high⟩ := constraint
  dsimp only at lower upper ⊢
  rcases lower with rfl | ⟨low, first, rfl, isFirst, -⟩
  · rcases upper with rfl | ⟨high, second, rfl, isSecond, -⟩
    · simp [Constraint.call?, BoundKind.ofBounds, Value.declared?, Within]
    · simp [Constraint.call?, BoundKind.ofBounds, Value.declared?, Within, Call.Holds, isSecond]
  · rcases upper with rfl | ⟨high, second, rfl, isSecond, -⟩
    · simp [Constraint.call?, BoundKind.ofBounds, Value.declared?, Within, Call.Holds, isFirst]
    · cases same : (Value.float low).equals (.float high) with
      | true =>
          have equal := rational?_of_equals low high first second isFirst isSecond same
          simp [Constraint.call?, BoundKind.ofBounds, same, Value.declared?, Within, Call.Holds,
            isFirst, isSecond, ← equal]
          exact le_antisymm_iff.trans and_comm
      | false =>
          simp [Constraint.call?, BoundKind.ofBounds, same, Value.declared?, Within, Call.Holds,
            isFirst, isSecond]

theorem valueAt_expression (row : Row) (x : String → ℚ) :
    row.expression.valueAt x = row.valueAt x := by
  rw [Row.expression, Expression.valueAt, List.map_map]
  rfl

end Constraints

section Costs

/-- One place of a sum replaced, where the sum had nothing. -/
theorem sum_replace (keys : List String) (distinct : keys.Nodup) (key : String) (member : key ∈ keys)
    (place : String → ℚ) (nothing : place key = 0) (q : ℚ) :
    (keys.map fun other => if other = key then q else place other).sum = q + (keys.map place).sum := by
  induction keys with
  | nil => cases member
  | cons first rest ih =>
      have fresh := List.nodup_cons.mp distinct
      by_cases same : first = key
      · subst same
        have others : (rest.map fun other => if other = first then q else place other) =
            rest.map place := by
          refine List.map_congr_left fun other inRest => if_neg ?_
          rintro rfl
          exact fresh.1 inRest
        simp [others, nothing]
      · have inRest := (List.mem_cons.mp member).resolve_left (Ne.symm same)
        simp only [List.map_cons, List.sum_cons, if_neg same, ih fresh.2 inRest]
        rw [add_left_comm]

/-- A sum over all columns is a sum over those that a row has coefficients for. -/
theorem sum_lookup (keys : List String) (distinct : keys.Nodup) (entries : List (String × Binary64))
    (once : (entries.map (·.1)).Nodup) (registered : ∀ entry ∈ entries, entry.1 ∈ keys)
    (x : String → ℚ) :
    (keys.map fun key => ((entries.lookup key).getD .zero).rational * x key).sum =
      (entries.map fun entry => entry.2.rational * x entry.1).sum := by
  induction entries with
  | nil =>
      have zero : Binary64.zero.rational = 0 := by rw [Binary64.rational, rational?_zero]; rfl
      simp [zero]
  | cons first rest ih =>
      obtain ⟨key, coefficient⟩ := first
      have fresh := List.nodup_cons.mp once
      have absent := lookup_of_fresh rest key fresh.1
      have split : ∀ other,
          ((((key, coefficient) :: rest).lookup other).getD .zero).rational * x other =
            if other = key then coefficient.rational * x key
            else ((rest.lookup other).getD .zero).rational * x other := by
        intro other
        by_cases same : other = key <;> simp [lookup_entry, same]
      have nothing : ((rest.lookup key).getD .zero).rational * x key = 0 := by
        rw [absent, Option.getD_none, Binary64.rational, rational?_zero, Option.getD_some, zero_mul]
      rw [List.map_congr_left fun other _ => split other,
        sum_replace keys distinct key (registered (key, coefficient) (by simp)) _ nothing,
        ih fresh.2 fun entry inRest => registered entry (List.mem_cons_of_mem _ inRest)]
      rfl

end Costs

end LinearProgram
