import LinearProgram.Proofs.CuttingModel

/-!
The production plan. Building leaves every column of the model in place, so a plan that reads them makes no new
one, whatever values they were given. It shows each stock item from which more than half a piece is cut, with its
pieces, and at last the waste. It fails when a value that it has to show is a whole number too large to convert.
-/

namespace LinearProgram

namespace Value

def ExceedsHalf (value : Value) : Prop :=
  ∃ a, value.line? = some a ∧ (((1 / 2 : ℚ) : WithTop ℚ) : Line) < a

def IsPrintable (value : Value) : Prop := value.ExceedsHalf → ¬ value.IsOversized

theorem line?_half : (Number.float (.ofRatio false 1 2)).line? = some (((1 / 2 : ℚ) : WithTop ℚ) : Line) := by
  obtain ⟨half, quanta, unit⟩ : ∃ half : ℕ, (Binary64.ofRatio false 1 2).quanta? = some (half : ℤ) ∧
      Binary64.quantaPerUnit = half * 2 := ⟨Nat.pow 2 1073, by decide +kernel, by decide +kernel⟩
  have place := place?_of_quanta? _ _ quanta
  have units : Binary64.ofQuanta half = 1 / 2 := by
    rw [Binary64.ofQuanta, div_eq_div_iff quantaPerUnit_pos.ne' two_ne_zero, unit]
    push_cast
    ring
  rcases Number.place?_and_line? (.float (.ofRatio false 1 2)) with
    ⟨other, -⟩ | ⟨other, -⟩ | ⟨n, other, point⟩ | ⟨other, -⟩
  · cases place.symm.trans other
  · cases place.symm.trans other
  · cases place.symm.trans other
    rw [point, units]
  · cases place.symm.trans other

theorem half_less_iff (value : Value) :
    value.number?.any (Number.less (.float (.ofRatio false 1 2))) = true ↔ value.ExceedsHalf := by
  unfold ExceedsHalf Value.line?
  cases value.number? with
  | none => simp
  | some x =>
      rw [Option.any_some, Number.less_iff, Option.bind_some]
      constructor
      · rintro ⟨_, a, half, point, beyond⟩
        cases half.symm.trans line?_half
        exact ⟨a, point, beyond⟩
      · rintro ⟨a, point, beyond⟩
        exact ⟨_, a, line?_half, point, beyond⟩

instance (value : Value) : Decidable value.ExceedsHalf := decidable_of_iff _ value.half_less_iff

instance : (value : Value) → Decidable value.IsOversized
  | .int n =>
      decidable_of_iff (Binary64.overflow ≤ n.natAbs)
        ⟨fun large => ⟨n, rfl, large⟩, fun ⟨_, same, large⟩ => by cases same; exact large⟩
  | .float _ | .null | .bool _ | .text _ | .list _ | .columnType _ | .direction _ | .entity .. | .mapping _
  | .day _ | .moment _ => isFalse fun ⟨_, same, _⟩ => by cases same

instance (value : Value) : Decidable value.IsPrintable := inferInstanceAs (Decidable (_ → _))

end Value

theorem Attributes.value_setBounds (attributes : Attributes) (lower upper : Value) :
    (attributes.setBounds lower upper).1.value = attributes.value := by
  unfold setBounds
  split
  · rfl
  · dsimp only
    split <;> rfl

namespace CuttingStock

section Numbers

variable {value : Value} (numeric : value.IsNumeric)

include numeric

theorem isMeasure_of_numeric (moderate : ¬ value.IsOversized) : IsMeasure value :=
  ⟨numeric, value.toBinary64_of_isNumeric numeric moderate⟩

theorem isCut_eq : isCut value = .ok (decide value.ExceedsHalf) := by
  obtain ⟨x, isNumber⟩ := numeric
  have beyond := value.half_less_iff
  rw [isNumber, Option.any_some] at beyond
  simp only [isCut, Value.comparable, isNumber, ok_bind]
  exact congrArg Except.ok (Bool.eq_iff_iff.mpr (beyond.trans decide_eq_true_iff.symm))

theorem generalText_eq : value.generalText =
    if value.IsOversized then .error .wholeNumberTooLarge else .ok (measure value).generalText := by
  have written : value.generalText = value.toBinary64.map Binary64.generalText := by
    obtain ⟨x, isNumber⟩ := numeric
    cases value with
    | number x => rfl
    | bool b => rfl
    | _ => cases isNumber
  rw [written]
  split
  next oversized =>
    rw [value.toBinary64_of_isOversized oversized]
    rfl
  next moderate =>
    rw [(isMeasure_of_numeric numeric moderate).toBinary64_eq]
    rfl

end Numbers

section Folds

variable {α β σ : Type} (items : List α) (fault : Fault)

theorem foldlM_keeps (holds : σ → Prop) (act : σ → α → Except Fault σ)
    (each : ∀ item ∈ items, ∀ before after, holds before → act before item = .ok after → holds after)
    (before after : σ) (start : holds before) (ends : items.foldlM act before = .ok after) : holds after := by
  induction items generalizing before with
  | nil =>
      cases ends
      exact start
  | cons item rest ih =>
      rw [List.foldlM_cons] at ends
      obtain ⟨next, acts, ends⟩ := bind_ok ends
      exact ih (fun item inside => each item (List.mem_cons_of_mem _ inside)) next
        (each item List.mem_cons_self before next start acts) ends

/-- Steps that leave a state as it is and each add a text at most gather the texts of the items that they keep,
unless one of the items does not fit. -/
theorem foldlM_gather (act : List β × σ → α → Except Fault (List β × σ)) (state : σ) (keep : α → Bool)
    (fits : α → Prop) [DecidablePred fits] (shown : α → β)
    (each : ∀ item ∈ items, ∀ done, act (done, state) item =
      if fits item then .ok (if keep item then done ++ [shown item] else done, state) else .error fault)
    (done : List β) :
    items.foldlM act (done, state) =
      if ∀ item ∈ items, fits item then .ok (done ++ (items.filter keep).map shown, state)
      else .error fault := by
  induction items generalizing done with
  | nil => simp [pure, Except.pure]
  | cons item rest ih =>
      rw [List.foldlM_cons, each item List.mem_cons_self]
      by_cases fit : fits item
      · rw [if_pos fit, ok_bind, ih fun item inside => each item (List.mem_cons_of_mem _ inside)]
        simp only [List.forall_mem_cons, fit, true_and]
        cases kept : keep item <;> simp [kept]
      · rw [if_neg fit, if_neg fun all => fit (all item List.mem_cons_self)]
        rfl

end Folds

section Beginning

/-- What building keeps once the columns are declared and the objective is made: the columns, and an objective
that is worth nothing yet. -/
structure IsBegun (stock products : List Value) (problem : Problem) : Prop where
  declared : IsDeclared stock products problem
  objective : problem.objective = some (.row wasteKey)
  waste : ∃ row, problem.rows.get? wasteKey = some row ∧ row.value = .float .zero

namespace IsBegun

variable {stock products : List Value} {problem after : Problem} (begun : IsBegun stock products problem)

include begun

theorem columnsThere (item : Nat) (inside : item < stock.length) :
    problem.columns.contains (useKey item) = true ∧
      ∀ product < products.length, problem.columns.contains (cutKey item product) = true := by
  have named := begun.declared.contains stock item inside
  refine ⟨named _ ((mem_itemKeys _ _ _).mpr (Or.inl rfl)), fun product within => ?_⟩
  exact named _ ((mem_itemKeys _ _ _).mpr (Or.inr ⟨product, within, rfl⟩))

theorem changeRow (key : String) (change : Row → Row)
    (same : ∀ row, problem.rows.get? key = some row → (change row).value = row.value) :
    IsBegun stock products (problem.changeRow (.text key) change) := by
  obtain ⟨row, found, isZero⟩ := begun.waste
  refine ⟨begun.declared, begun.objective, ?_⟩
  simp only [Problem.changeRow, Catalog.get?_modify]
  split
  next here =>
    subst here
    exact ⟨change row, by rw [found, Option.map_some], (same row found).trans isZero⟩
  next => exact ⟨row, found, isZero⟩

theorem addRow (key : String) (row : Row) (fresh : ¬ problem.rows.contains key = true) :
    IsBegun stock products (problem.addRow key row) := by
  obtain ⟨waste, found, isZero⟩ := begun.waste
  have apart : wasteKey ≠ key := by
    rintro rfl
    exact fresh (problem.rows.contains_of_get? _ waste found)
  refine ⟨begun.declared, begun.objective, waste, ?_, isZero⟩
  rw [Problem.addRow, Catalog.get?_insert, if_neg apart, found]

theorem ensureRow (key : String) : IsBegun stock products (problem.ensureRow key) := by
  unfold Problem.ensureRow
  split
  · exact begun
  next fresh => exact begun.addRow key {} fresh

theorem addTerm (row column : String) (coefficient : Value) (named : problem.columns.contains column = true)
    (adds : CuttingStock.addTerm row column coefficient problem = .ok after) : IsBegun stock products after := by
  simp only [CuttingStock.addTerm, Problem.ensureColumn, named, if_true] at adds
  obtain ⟨x, -, same⟩ := bind_ok adds
  cases same
  exact begun.changeRow row _ fun _ _ => rfl

theorem setBounds (key : String) (lower upper : Value) :
    IsBegun stock products (problem.setBounds .row (.text key) lower upper).1 := by
  unfold Problem.setBounds
  split
  · exact begun
  next attributes found =>
    refine begun.changeRow key _ fun row there => ?_
    rw [problem.attributes?_of_row .row rfl key row there] at found
    cases found
    exact row.value_setBounds lower upper

theorem declareRow (key : String) (lower upper : Value)
    (declares : CuttingStock.declareRow key lower upper problem = .ok after) :
    IsBegun stock products after := by
  obtain ⟨⟨⟩, -, same⟩ := map_ok declares
  cases same
  exact (begun.ensureRow key).setBounds key lower upper

theorem addItem (row : String) (entry : Value × Nat) (inside : entry ∈ stock.zipIdx)
    (adds : CuttingStock.addItem row products entry.2 entry.1 problem = .ok after) :
    IsBegun stock products after := by
  have within := List.snd_lt_of_mem_zipIdx inside
  obtain ⟨used, addsUse, addsCuts⟩ := bind_ok adds
  have begunUse := begun.addTerm row _ _ (begun.columnsThere _ within).1 addsUse
  refine foldlM_keeps _ (IsBegun stock products) _ ?_ used after begunUse addsCuts
  intro piece isPiece before next begunBefore adds
  obtain ⟨opposite, -, adds⟩ := bind_ok adds
  have named := (begunBefore.columnsThere _ within).2 _ (List.snd_lt_of_mem_zipIdx isPiece)
  exact begunBefore.addTerm row _ opposite named adds

theorem addDemand (demand : List Value) (product : Nat) (within : product < products.length)
    (adds : CuttingStock.addDemand stock.length demand problem product = .ok after) :
    IsBegun stock products after := by
  unfold CuttingStock.addDemand at adds
  split at adds
  · cases adds
  next amount _ =>
    obtain ⟨declared, declares, adds⟩ := bind_ok adds
    refine foldlM_keeps _ (IsBegun stock products) _ ?_ declared after (begun.declareRow _ _ _ declares) adds
    intro item inside before next begunBefore adds
    have named := (begunBefore.columnsThere item (List.mem_range.mp inside)).2 product within
    exact begunBefore.addTerm _ _ _ named adds

end IsBegun

/-- Whatever numbers or texts building accepts, it leaves all columns of the model and a waste of zero. -/
theorem isBegun_of_build (stock products demand : List Value) (built : Problem)
    (builds : build stock products demand = .ok built) : IsBegun stock products built := by
  unfold build at builds
  rw [declareItems_eq stock.length products.length { name := .text "CuttingStock" } rfl] at builds
  obtain ⟨aimed, aims, builds⟩ := bind_ok builds
  obtain ⟨wasted, wastes, builds⟩ := bind_ok builds
  obtain ⟨stocked, stocks, demands⟩ := bind_ok builds
  have begunAimed : IsBegun stock products aimed := by
    cases aims
    exact ⟨rfl, rfl, _, Catalog.get?_insert_self _ _ _, rfl⟩
  have begunWasted := foldlM_keeps _ (IsBegun stock products) _
    (fun entry inside _ _ begun adds => begun.addItem wasteKey entry inside adds) aimed wasted begunAimed wastes
  have begunStocked : IsBegun stock products stocked := by
    refine foldlM_keeps _ (IsBegun stock products) _ ?_ wasted stocked begunWasted stocks
    intro entry inside before next begun adds
    obtain ⟨declared, declares, adds⟩ := bind_ok adds
    exact (begun.declareRow _ _ _ declares).addItem _ entry inside adds
  exact foldlM_keeps _ (IsBegun stock products) _
    (fun product inside _ _ begun adds => begun.addDemand demand product (List.mem_range.mp inside) adds) stocked
    built begunStocked demands

end Beginning

section Giving

def giveValue (problem : Problem) (entry : String × Value) : Problem :=
  (problem.ensureColumn entry.1).changeColumn entry.1 fun column => { column with value := entry.2 }

def valued (problem : Problem) (values : List (String × Value)) : Option Value → Problem
  | some waste => (values.foldl giveValue problem).changeRow (.text wasteKey) fun row => { row with value := waste }
  | none => values.foldl giveValue problem

def givenValue (values : List (String × Value)) (key : String) : Value :=
  (values.reverse.lookup key).getD (.float .zero)

theorem planFor_eq (problem : Problem) (stock products : List Value) (values : List (String × Value))
    (waste : Option Value) :
    planFor problem stock products values waste =
      let printed := plan (valued problem values waste) stock products
      printed.outcome.map fun read => (printed.text, read) := by
  cases waste <;> rfl

theorem numeric_zero : (Value.float .zero).IsNumeric := ⟨_, rfl⟩

theorem numeric_givenValue (values : List (String × Value)) (numeric : ∀ entry ∈ values, entry.2.IsNumeric)
    (key : String) : (givenValue values key).IsNumeric := by
  unfold givenValue
  cases found : values.reverse.lookup key with
  | none => exact numeric_zero
  | some value =>
      obtain ⟨before, after, split, -⟩ := List.lookup_eq_some_iff.mp found
      refine numeric (key, value) (List.mem_reverse.mp ?_)
      rw [split]
      exact List.mem_append_right _ List.mem_cons_self

variable (problem : Problem)

theorem valueOf_giveValue (entry : String × Value) (key : String) :
    (giveValue problem entry).valueOf .column (.text key) =
      if key = entry.1 then some entry.2 else problem.valueOf .column (.text key) := by
  simp only [Problem.valueOf, Problem.attributes?_column, giveValue, Problem.changeColumn, Catalog.get?_modify,
    Problem.get?_ensureColumn]
  split
  · simp
  · rfl

-- The last value wins, whichever columns the values before it and after it were given to.
theorem valueOf_foldl_giveValue (values : List (String × Value)) (key : String) (value : Value)
    (shows : problem.valueOf .column (.text key) = some value) :
    (values.foldl giveValue problem).valueOf .column (.text key) =
      some ((values.reverse.lookup key).getD value) := by
  induction values generalizing problem value with
  | nil => exact shows
  | cons entry rest ih =>
      obtain ⟨name, given⟩ := entry
      have next := valueOf_giveValue problem (name, given) key
      rw [List.foldl_cons, List.reverse_cons, List.lookup_append]
      by_cases here : key = name
      · subst here
        rw [if_pos rfl] at next
        rw [ih _ given next]
        cases rest.reverse.lookup key <;> simp
      · rw [if_neg here, shows] at next
        rw [ih _ value next]
        cases rest.reverse.lookup key <;> simp [lookup_entry, here]

theorem foldl_giveValue_frame (values : List (String × Value)) :
    (values.foldl giveValue problem).rows = problem.rows ∧
      (values.foldl giveValue problem).objective = problem.objective := by
  induction values generalizing problem with
  | nil => exact ⟨rfl, rfl⟩
  | cons entry rest ih =>
      obtain ⟨rows, objective⟩ := ih (giveValue problem entry)
      have step : (giveValue problem entry).rows = problem.rows ∧
          (giveValue problem entry).objective = problem.objective := by
        unfold giveValue Problem.ensureColumn
        split <;> exact ⟨rfl, rfl⟩
      exact ⟨rows.trans step.1, objective.trans step.2⟩

/-- Reading a column that is there makes no new one. -/
theorem readValue_eq (key : String) (value : Value) (shows : problem.valueOf .column (.text key) = some value) :
    readValue problem key = (value, problem) := by
  rw [Problem.valueOf, Problem.attributes?_column, Option.map_map, Option.map_eq_some_iff] at shows
  obtain ⟨column, found, rfl⟩ := shows
  have there := problem.columns.contains_of_get? key column found
  simp only [readValue, Problem.ensureColumn, there, if_true, found]
  rfl

end Giving

section Reading

variable {stock products : List Value} {problem : Problem} (begun : IsBegun stock products problem)
  (values : List (String × Value)) (waste : Option Value)

include begun

theorem IsBegun.valueOf_cutKey (item product : Nat) (inside : item < stock.length)
    (within : product < products.length) :
    problem.valueOf .column (.text (cutKey item product)) = some (.float .zero) := by
  have found : problem.columns.get? (cutKey item product) = some cutColumn := by
    rw [begun.declared, Catalog.mem_fill _ (modelColumns_nodup _ _), mem_modelColumns]
    exact Or.inr ⟨item, inside, product, within, rfl, rfl⟩
  rw [Problem.valueOf, Problem.attributes?_of_column _ _ _ found]
  rfl

/-- Whatever values were given, a column of the model reads as its own and reading it changes nothing. -/
theorem IsBegun.readValue_valued (item product : Nat) (inside : item < stock.length)
    (within : product < products.length) :
    readValue (valued problem values waste) (cutKey item product) =
      (givenValue values (cutKey item product), valued problem values waste) := by
  have shows := valueOf_foldl_giveValue problem values _ _ (begun.valueOf_cutKey item product inside within)
  refine readValue_eq _ _ _ ?_
  cases waste with
  | none => exact shows
  | some waste =>
      refine Eq.trans ?_ shows
      rw [Problem.valueOf, Problem.attributes?_congr_columns _ (valued problem values (some waste)) rfl]
      rfl

omit begun in
theorem wasteOf_eq (objective : problem.objective = some (.row wasteKey)) (row : Row)
    (found : problem.rows.get? wasteKey = some row) : wasteOf problem = row.value := by
  simp [wasteOf, Problem.objective?, objective, Aim.key, found]

theorem IsBegun.wasteOf_valued : wasteOf (valued problem values waste) = waste.getD (.float .zero) := by
  obtain ⟨row, found, isZero⟩ := begun.waste
  obtain ⟨rows, objective⟩ := foldl_giveValue_frame problem values
  rw [← rows] at found
  cases waste with
  | none => exact (wasteOf_eq (objective.trans begun.objective) row found).trans isZero
  | some value =>
      have aimed : (valued problem values (some value)).objective = some (.row wasteKey) :=
        objective.trans begun.objective
      refine wasteOf_eq aimed { row with value } ?_
      simp only [valued, Problem.changeRow, Catalog.get?_modify, if_true, found, Option.map_some]

end Reading

section Lines

variable (worth : Nat → Nat → Value) (products : List Value)

/-- The products of which more than half a piece is cut from a stock item, with their indices. -/
def cutPieces (item : Nat) : List (Value × Nat) :=
  products.zipIdx.filter fun piece => (worth item piece.2).ExceedsHalf

def pieceText (item : Nat) (piece : Value × Nat) : String :=
  (measure (worth item piece.2)).generalText ++ " * " ++ piece.1.display

def itemLine (entry : Value × Nat) : String :=
  entry.1.display ++ " >= " ++ " + ".intercalate ((cutPieces worth products entry.2).map (pieceText worth entry.2))

def cutAmong (entries : List (Value × Nat)) : List (Value × Nat) :=
  entries.filter fun entry => ∃ piece ∈ products.zipIdx, (worth entry.2 piece.2).ExceedsHalf

def cutItems (stock : List Value) : List (Value × Nat) := cutAmong worth products stock.zipIdx

def planLines (stock : List Value) (waste : Value) : List String :=
  "Production plan" :: (cutItems worth products stock).map (itemLine worth products) ++
    ["Waste = " ++ (measure waste).generalText]

def showsItem (entry : Value × Nat) : Bool := ∀ piece ∈ products.zipIdx, (worth entry.2 piece.2).IsPrintable

/-- A value that a plan shows: what is cut of a product, if that is more than half a piece, or the waste. -/
def IsShown (items : Nat) (waste value : Value) : Prop :=
  value = waste ∨
    ∃ item < items, ∃ product < products.length, value = worth item product ∧ value.ExceedsHalf

variable (numeric : ∀ item product, (worth item product).IsNumeric) (problem : Problem)

include numeric

theorem itemTerms_eq (item : Nat)
    (reads : ∀ product < products.length,
      readValue problem (cutKey item product) = (worth item product, problem)) :
    itemTerms products item problem =
      if ∀ piece ∈ products.zipIdx, (worth item piece.2).IsPrintable then
        .ok ((cutPieces worth products item).map (pieceText worth item), problem)
      else .error .wholeNumberTooLarge := by
  refine foldlM_gather _ _ _ problem (fun piece => decide (worth item piece.2).ExceedsHalf)
    (fun piece => (worth item piece.2).IsPrintable) (pieceText worth item) ?_ []
  intro piece inside terms
  dsimp only
  rw [reads piece.2 (List.snd_lt_of_mem_zipIdx inside)]
  simp only [isCut_eq (numeric item piece.2), generalText_eq (numeric item piece.2), ok_bind]
  by_cases cut : (worth item piece.2).ExceedsHalf
  · by_cases oversized : (worth item piece.2).IsOversized
    · have unprintable : ¬ (worth item piece.2).IsPrintable := fun printable => printable cut oversized
      simp only [cut, oversized, unprintable, decide_true, if_true, if_false]
      rfl
    · have printable : (worth item piece.2).IsPrintable := fun _ => oversized
      simp only [cut, oversized, printable, decide_true, if_true, if_false]
      rfl
  · have printable : (worth item piece.2).IsPrintable := fun beyond => absurd beyond cut
    simp only [cut, printable, decide_false, Bool.false_eq_true, if_true, if_false]
    rfl

/-- The lines are printed up to the first stock item that cannot be shown. -/
theorem itemLines_eq (entries : List (Value × Nat))
    (reads : ∀ entry ∈ entries, ∀ product < products.length,
      readValue problem (cutKey entry.2 product) = (worth entry.2 product, problem)) :
    itemLines products entries problem =
      ⟨(cutAmong worth products (entries.takeWhile (showsItem worth products))).map (itemLine worth products),
        if ∀ entry ∈ entries, ∀ piece ∈ products.zipIdx, (worth entry.2 piece.2).IsPrintable then .ok problem
        else .error .wholeNumberTooLarge⟩ := by
  induction entries with
  | nil => rfl
  | cons entry rest ih =>
      have later := ih fun other inside => reads other (List.mem_cons_of_mem _ inside)
      unfold itemLines
      rw [itemTerms_eq worth products numeric problem entry.2 (reads entry List.mem_cons_self)]
      by_cases printable : ∀ piece ∈ products.zipIdx, (worth entry.2 piece.2).IsPrintable
      · rw [if_pos printable]
        dsimp only
        have shows : showsItem worth products entry = true := decide_eq_true printable
        rw [later, List.takeWhile_cons_of_pos shows]
        simp only [List.forall_mem_cons, and_iff_right printable]
        unfold cutAmong
        by_cases cut : ∃ piece ∈ products.zipIdx, (worth entry.2 piece.2).ExceedsHalf
        · have texts : ((cutPieces worth products entry.2).map (pieceText worth entry.2)).isEmpty = false := by
            obtain ⟨piece, isPiece, beyond⟩ := cut
            rw [List.isEmpty_map, List.isEmpty_eq_false_iff_exists_mem]
            exact ⟨piece, List.mem_filter.mpr ⟨isPiece, decide_eq_true beyond⟩⟩
          rw [texts, if_neg (by decide), List.filter_cons_of_pos (by simpa using cut)]
          rfl
        · have texts : ((cutPieces worth products entry.2).map (pieceText worth entry.2)).isEmpty = true := by
            rw [List.isEmpty_map, List.isEmpty_iff, cutPieces, List.filter_eq_nil_iff]
            exact fun piece isPiece beyond => cut ⟨piece, isPiece, of_decide_eq_true beyond⟩
          rw [texts, if_pos rfl, List.filter_cons_of_neg (by simpa using cut)]
      · have hides : ¬ showsItem worth products entry = true := fun shows => printable (of_decide_eq_true shows)
        rw [if_neg printable, List.takeWhile_cons_of_neg hides,
          if_neg fun all => printable (List.forall_mem_cons.mp all).1]
        rfl

variable (stock : List Value) (reads : ∀ item < stock.length, ∀ product < products.length,
  readValue problem (cutKey item product) = (worth item product, problem))

include reads

/-- A plan is printed as far as its values can be shown. -/
theorem plan_eq (numericWaste : (wasteOf problem).IsNumeric) :
    let shown := (∀ entry ∈ stock.zipIdx, ∀ piece ∈ products.zipIdx, (worth entry.2 piece.2).IsPrintable) ∧
      ¬ (wasteOf problem).IsOversized
    let printed := plan problem stock products
    (printed.outcome = if shown then .ok problem else .error .wholeNumberTooLarge) ∧
      (shown → printed.lines = planLines worth products stock (wasteOf problem)) ∧
      printed.lines <+: planLines worth products stock (wasteOf problem) := by
  intro shown printed
  have items := itemLines_eq worth products numeric problem stock.zipIdx fun entry inside =>
    reads entry.2 (List.snd_lt_of_mem_zipIdx inside)
  have isPrinted : printed = plan problem stock products := rfl
  rw [plan, items] at isPrinted
  by_cases printable : ∀ entry ∈ stock.zipIdx, ∀ piece ∈ products.zipIdx, (worth entry.2 piece.2).IsPrintable
  · have whole : stock.zipIdx.takeWhile (showsItem worth products) = stock.zipIdx :=
      List.takeWhile_eq_self_iff.mpr fun entry inside => decide_eq_true (printable entry inside)
    rw [if_pos printable, whole] at isPrinted
    dsimp only at isPrinted
    rw [generalText_eq numericWaste] at isPrinted
    by_cases oversized : (wasteOf problem).IsOversized
    · have unshown : ¬ shown := fun fits => fits.2 oversized
      rw [if_pos oversized] at isPrinted
      rw [isPrinted, if_neg unshown]
      exact ⟨rfl, fun fits => absurd fits unshown, List.prefix_append _ _⟩
    · rw [if_neg oversized] at isPrinted
      rw [isPrinted, if_pos ⟨printable, oversized⟩]
      exact ⟨rfl, fun _ => rfl, List.prefix_rfl⟩
  · have unshown : ¬ shown := fun fits => printable fits.1
    have begins : (cutAmong worth products (stock.zipIdx.takeWhile (showsItem worth products))).map
        (itemLine worth products) <+: (cutItems worth products stock).map (itemLine worth products) :=
      ((List.takeWhile_prefix _).filter _).map _
    rw [if_neg printable] at isPrinted
    rw [isPrinted, if_neg unshown]
    refine ⟨rfl, fun fits => absurd fits unshown, ?_⟩
    exact (List.cons_prefix_cons.mpr ⟨rfl, begins⟩).trans (List.prefix_append _ _)

end Lines

section Plan

theorem forall_mem_zipIdx {α : Type} (items : List α) (holds : Nat → Prop) :
    (∀ entry ∈ items.zipIdx, holds entry.2) ↔ ∀ index < items.length, holds index := by
  rw [← List.forall_mem_map, zipIdx_indices]
  simp only [List.mem_range]

variable (stock products : List Value)

/-- All values that a plan shows can be converted when its pieces can be and its waste can be. -/
theorem moderate_iff (worth : Nat → Nat → Value) (waste : Value) :
    (∀ value, IsShown worth products stock.length waste value → ¬ value.IsOversized) ↔
      (∀ entry ∈ stock.zipIdx, ∀ piece ∈ products.zipIdx, (worth entry.2 piece.2).IsPrintable) ∧
        ¬ waste.IsOversized := by
  have pieces (item : Nat) := forall_mem_zipIdx products fun product => (worth item product).IsPrintable
  simp only [pieces]
  rw [forall_mem_zipIdx stock fun item => ∀ product < products.length, (worth item product).IsPrintable]
  constructor
  · intro moderate
    refine ⟨fun item inside product within beyond => ?_, moderate waste (Or.inl rfl)⟩
    exact moderate _ (Or.inr ⟨item, inside, product, within, rfl, beyond⟩)
  · rintro ⟨printable, moderate⟩ value (rfl | ⟨item, inside, product, within, rfl, beyond⟩)
    · exact moderate
    · exact printable item inside product within beyond

variable {stock products} {built : Problem} (begun : IsBegun stock products built)
  (values : List (String × Value)) (numeric : ∀ entry ∈ values, entry.2.IsNumeric)
  (waste : Option Value) (numericWaste : ∀ value ∈ waste, value.IsNumeric)

include begun numeric numericWaste

theorem planFor_of_begun :
    let lines := planLines (fun item product => givenValue values (cutKey item product)) products stock
      (waste.getD (.float .zero))
    (planFor built stock products values waste =
      if (∀ entry ∈ stock.zipIdx, ∀ piece ∈ products.zipIdx,
          (givenValue values (cutKey entry.2 piece.2)).IsPrintable) ∧
          ¬ (waste.getD (.float .zero)).IsOversized then
        .ok (String.join (lines.map (· ++ "\n")), valued built values waste)
      else .error .wholeNumberTooLarge) ∧
    (plan (valued built values waste) stock products).lines <+: lines := by
  intro lines
  have left := begun.wasteOf_valued values waste
  have isNumeric : (waste.getD (.float .zero)).IsNumeric := by
    cases waste with
    | none => exact numeric_zero
    | some value => exact numericWaste value rfl
  obtain ⟨outcome, whole, begins⟩ := plan_eq (fun item product => givenValue values (cutKey item product)) products
    (fun item product => numeric_givenValue values numeric _) _ stock
    (fun item inside product within => begun.readValue_valued values waste item product inside within)
    (left ▸ isNumeric)
  rw [left] at outcome whole begins
  refine ⟨?_, begins⟩
  rw [planFor_eq]
  dsimp only
  rw [outcome]
  split
  next shown =>
    rw [Printout.text, whole shown]
    rfl
  next => rfl

end Plan

/-- Whatever building accepts and whatever numbers are given to columns and to the waste, reading a column of
pieces gives its own value and makes no new column, and the plan shows just what is cut, in order, and leaves the
problem as it is. It fails only when it has to show a whole number that is too large to convert, and what was
printed before then is the beginning of the plan. -/
theorem plan_shows_what_is_cut (stock products demand : List Value) (built : Problem)
    (builds : build stock products demand = .ok built) (values : List (String × Value)) (waste : Option Value)
    (numeric : ∀ entry ∈ values, entry.2.IsNumeric) (numericWaste : ∀ value ∈ waste, value.IsNumeric) :
    let worth := fun item product => givenValue values (cutKey item product)
    let left := waste.getD (.float .zero)
    let given := valued built values waste
    (∀ item < stock.length, ∀ product < products.length,
      readValue given (cutKey item product) = (worth item product, given)) ∧
    ((∀ value, IsShown worth products stock.length left value → ¬ value.IsOversized) →
      planFor built stock products values waste =
        .ok (String.join ((planLines worth products stock left).map (· ++ "\n")), given)) ∧
    ((∃ value, IsShown worth products stock.length left value ∧ value.IsOversized) →
      planFor built stock products values waste = .error .wholeNumberTooLarge ∧
        (plan given stock products).lines <+: planLines worth products stock left) := by
  intro worth left given
  have begun := isBegun_of_build stock products demand built builds
  obtain ⟨plans, begins⟩ := planFor_of_begun begun values numeric waste numericWaste
  have moderate := moderate_iff stock products worth left
  refine ⟨fun item inside product within => ?_, fun small => ?_, fun ⟨value, shown, oversized⟩ => ?_⟩
  · exact begun.readValue_valued values waste item product inside within
  · exact plans.trans (if_pos (moderate.mp small))
  · exact ⟨plans.trans (if_neg fun fits => moderate.mpr fits value shown oversized), begins⟩

/-- A length and an amount may be texts, and a demand may be missing. A piece was given two values, another one
just a half, and a column that is not of the model has one, too. -/
theorem mixedStock_plan :
    let stock : List Value := [.int 10, .text "60", .float (.ofRatio false 41 2)]
    let products : List Value := [.int 3, .bool true]
    let values : List (String × Value) := [("x(1,1)", .int 9), ("x(0,0)", .float (.ofRatio false 1 2)),
      ("x(0,1)", .bool true), ("x(3,0)", .int 7), ("x(1,1)", .float (.ofRatio false 3 2))]
    let waste := some (Value.float (.ofRatio true 1 4))
    ∃ built, build stock products [.text "2", .null] = .ok built ∧
      planFor built stock products values waste =
        .ok ("Production plan\n10 >= 1 * True\n60 >= 1.5 * True\nWaste = -0.25\n", valued built values waste) := by
  intro stock products values waste
  obtain ⟨built, builds⟩ := ok_of_isOk (build stock products [.text "2", .null]) (by decide +kernel)
  have numeric : ∀ entry ∈ values, entry.2.IsNumeric := by
    intro entry inside
    have isSome : ∀ entry ∈ values, entry.2.number?.isSome = true := by decide +kernel
    exact Option.isSome_iff_exists.mp (isSome entry inside)
  have numericWaste : ∀ value ∈ waste, value.IsNumeric := by
    intro value isWaste
    cases Option.mem_some_iff.mp isWaste
    exact ⟨_, rfl⟩
  have small : ∀ item < 3, ∀ product < 2, ¬ (givenValue values (cutKey item product)).IsOversized := by
    decide +kernel
  have shows :=
    (plan_shows_what_is_cut stock products [.text "2", .null] built builds values waste numeric numericWaste).2.1
  have lines : planLines (fun item product => givenValue values (cutKey item product)) products stock
      (.float (.ofRatio true 1 4)) =
        ["Production plan", "10 >= 1 * True", "60 >= 1.5 * True", "Waste = -0.25"] := by decide +kernel
  refine ⟨built, builds, (shows ?_).trans ?_⟩
  · rintro value (rfl | ⟨item, inside, product, within, rfl, -⟩)
    · rintro ⟨_, ⟨⟩, -⟩
    · exact small item inside product within
  · rw [show waste.getD (.float .zero) = .float (.ofRatio true 1 4) from rfl, lines]
    rfl

/-- A number of pieces may be too large to be shown. -/
theorem oversized_piece_unshown :
    let values : List (String × Value) := [("x(0,0)", .int (10 ^ 400))]
    (∀ entry ∈ values, entry.2.IsNumeric) ∧
      ∃ built, build [.int 10] [.int 3] [.int 2] = .ok built ∧
        planFor built [.int 10] [.int 3] values (some (.int 0)) = .error .wholeNumberTooLarge := by
  intro values
  have numeric : ∀ entry ∈ values, entry.2.IsNumeric := by
    intro entry inside
    cases List.mem_singleton.mp inside
    exact ⟨_, rfl⟩
  obtain ⟨built, builds⟩ := ok_of_isOk (build [.int 10] [.int 3] [.int 2]) (by decide +kernel)
  have begun := isBegun_of_build _ _ _ built builds
  have plans := (planFor_of_begun begun values numeric (some (.int 0)) (by rintro value ⟨⟩; exact ⟨_, rfl⟩)).1
  refine ⟨numeric, built, builds, plans.trans (if_neg ?_)⟩
  decide +kernel

end CuttingStock

end LinearProgram
