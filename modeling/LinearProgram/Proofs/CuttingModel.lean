import LinearProgram.CuttingStock
import LinearProgram.Proofs.Digits
import LinearProgram.Proofs.Filling
import LinearProgram.Proofs.Meaning
import LinearProgram.Proofs.Setters
import LinearProgram.Proofs.References

/-!
The cutting stock model at every size. Its columns, its rows and their cells are listed, and building the model
puts in just these, under keys that are all different.
-/

namespace LinearProgram.CuttingStock

section Keys

/-- Keys of names with whole indices tell these apart. -/
theorem compose_indices_eq_iff (name other : String) (indices others : List Nat) (nameOpen : '(' ∉ name.toList)
    (otherOpen : '(' ∉ other.toList) :
    Key.compose name (indices.map toString) = Key.compose other (others.map toString) ↔
      name = other ∧ indices = others := by
  have commas (numbers : List Nat) : ∀ index ∈ numbers.map toString, ',' ∉ index.toList := by
    intro index inside
    obtain ⟨n, -, rfl⟩ := List.mem_map.mp inside
    exact notMem_toString n ',' rfl
  rw [Key.compose_eq_iff name other _ _ nameOpen otherOpen (commas indices) (commas others)]
  exact and_congr_right fun _ => (List.map_injective_iff.mpr toString_injective).eq_iff

@[simp] theorem useKey_inj (item other : Nat) : useKey item = useKey other ↔ item = other := by
  have apart := compose_indices_eq_iff "u" "u" [item] [other] (by decide) (by decide)
  simpa [useKey] using apart

@[simp] theorem cutKey_inj (item product other another : Nat) :
    cutKey item product = cutKey other another ↔ item = other ∧ product = another := by
  have apart := compose_indices_eq_iff "x" "x" [item, product] [other, another] (by decide) (by decide)
  simpa [cutKey] using apart

@[simp] theorem stockKey_inj (item other : Nat) : stockKey item = stockKey other ↔ item = other := by
  have apart := compose_indices_eq_iff "stock" "stock" [item] [other] (by decide) (by decide)
  simpa [stockKey] using apart

@[simp] theorem demandKey_inj (product other : Nat) : demandKey product = demandKey other ↔ product = other := by
  have apart := compose_indices_eq_iff "demand" "demand" [product] [other] (by decide) (by decide)
  simpa [demandKey] using apart

@[simp] theorem useKey_ne_cutKey (item other product : Nat) : useKey item ≠ cutKey other product := by
  have apart := compose_indices_eq_iff "u" "x" [item] [other, product] (by decide) (by decide)
  simpa [useKey, cutKey] using apart

@[simp] theorem stockKey_ne_demandKey (item product : Nat) : stockKey item ≠ demandKey product := by
  have apart := compose_indices_eq_iff "stock" "demand" [item] [product] (by decide) (by decide)
  simpa [stockKey, demandKey] using apart

@[simp] theorem wasteKey_ne_stockKey (item : Nat) : wasteKey ≠ stockKey item := by
  have apart := compose_indices_eq_iff "waste" "stock" [] [item] (by decide) (by decide)
  simpa [wasteKey, stockKey, Key.compose] using apart

@[simp] theorem wasteKey_ne_demandKey (product : Nat) : wasteKey ≠ demandKey product := by
  have apart := compose_indices_eq_iff "waste" "demand" [] [product] (by decide) (by decide)
  simpa [wasteKey, demandKey, Key.compose] using apart

end Keys

section Measures

structure IsMeasure (value : Value) : Prop where
  number : ∃ x, value.number? = some x
  converts : ∃ y, value.toBinary64 = .ok y

def measure (value : Value) : Binary64 := value.toBinary64.toOption.getD .nan

def loss (value : Value) : Binary64 := (value.negated >>= Value.toBinary64).toOption.getD .nan

variable {value : Value} (isMeasure : IsMeasure value)

include isMeasure

theorem IsMeasure.toBinary64_eq : value.toBinary64 = .ok (measure value) := by
  obtain ⟨y, converts⟩ := isMeasure.converts
  rw [measure, converts]
  rfl

theorem IsMeasure.bound_eq : Attributes.bound value = .ok (.float (measure value)) := by
  have converts := isMeasure.toBinary64_eq
  obtain ⟨x, isNumber⟩ := isMeasure.number
  cases value with
  | null => cases isNumber
  | _ => exact congrArg (Except.map Value.float) converts

-- The opposite of a number that can be converted can be, too.
theorem IsMeasure.negated_eq :
    ∃ opposite, value.negated = .ok opposite ∧ opposite.toBinary64 = .ok (loss value) := by
  obtain ⟨x, isNumber⟩ := isMeasure.number
  obtain ⟨y, converts⟩ := isMeasure.converts
  have negated : value.negated = .ok (.number x.neg) := by simp only [Value.negated, isNumber]
  suffices opposite : ∃ z, (Value.number x.neg).toBinary64 = .ok z by
    obtain ⟨z, converts⟩ := opposite
    refine ⟨_, negated, ?_⟩
    rw [loss, negated, ok_bind, converts]
    rfl
  rw [toBinary64_of_number value x isNumber] at converts
  cases x with
  | float x => exact ⟨x.neg, rfl⟩
  | int n =>
      have same : (Value.int n).toBinary64 = .ok y := (toBinary64_of_number _ _ rfl).trans converts
      rw [toBinary64_int] at same
      have finite : ¬ (Binary64.ofInt n).isInfinite = true := fun infinite => by
        rw [if_pos infinite] at same
        cases same
      rw [isInfinite_ofInt, ← Int.natAbs_neg, ← isInfinite_ofInt] at finite
      exact ⟨_, (toBinary64_int (-n)).trans (if_neg finite)⟩

end Measures

section Columns

def useColumn : Column := { type := .columnType .binary }

def cutColumn : Column := { type := .columnType .integer, lower := .float .zero }

def itemColumns (products item : Nat) : List (String × Column) :=
  (useKey item, useColumn) :: (List.range products).map fun product => (cutKey item product, cutColumn)

def modelColumns (items products : Nat) : List (String × Column) :=
  (List.range items).flatMap (itemColumns products)

theorem itemColumns_nodup (products item : Nat) : ((itemColumns products item).map (·.1)).Nodup := by
  refine List.nodup_cons.mpr ⟨?_, ?_⟩
  · simp [(useKey_ne_cutKey _ _ _).symm]
  · rw [List.map_map]
    exact (List.nodup_range (n := products)).map fun product other same => ((cutKey_inj _ _ _ _).mp same).2

theorem mem_itemKeys (products item : Nat) (key : String) :
    key ∈ (itemColumns products item).map (·.1) ↔
      key = useKey item ∨ ∃ product < products, key = cutKey item product := by
  simp [itemColumns, eq_comm]

theorem modelColumns_nodup (items products : Nat) : ((modelColumns items products).map (·.1)).Nodup := by
  rw [modelColumns, List.map_flatMap]
  refine List.nodup_flatMap.mpr ⟨fun item _ => itemColumns_nodup products item, ?_⟩
  refine (List.nodup_range (n := items)).imp fun {item other} different => ?_
  intro key inside within
  rw [mem_itemKeys] at inside within
  rcases inside with rfl | ⟨product, -, rfl⟩ <;> rcases within with same | ⟨another, -, same⟩
  · exact different ((useKey_inj _ _).mp same)
  · exact useKey_ne_cutKey _ _ _ same
  · exact useKey_ne_cutKey _ _ _ same.symm
  · exact different ((cutKey_inj _ _ _ _).mp same).1

def declare (problem : Problem) (entry : String × Column) : Problem :=
  (problem.ensureColumn entry.1).changeColumn entry.1 fun column =>
    { column with type := entry.2.type, lower := entry.2.lower, upper := .null }

theorem declare_fresh (problem : Problem) (key : String) (type lower : Value)
    (fresh : problem.columns.contains key = false) :
    declare problem (key, { type, lower }) =
      { problem with columns := problem.columns.insert key { type, lower } } := by
  simp only [declare, Problem.ensureColumn, fresh, Bool.false_eq_true, if_false, Problem.changeColumn,
    Catalog.modify_insert]

theorem foldl_declare (entries : List (String × Column)) (problem : Problem)
    (plain : ∀ entry ∈ entries, entry.2 = { type := entry.2.type, lower := entry.2.lower })
    (distinct : (entries.map (·.1)).Nodup)
    (fresh : ∀ entry ∈ entries, problem.columns.contains entry.1 = false) :
    entries.foldl declare problem = { problem with columns := problem.columns.fill entries } := by
  induction entries generalizing problem with
  | nil => rfl
  | cons entry rest ih =>
      obtain ⟨absent, distinct⟩ := List.nodup_cons.mp distinct
      have isPlain := plain entry List.mem_cons_self
      have declared := declare_fresh problem entry.1 entry.2.type entry.2.lower (fresh entry List.mem_cons_self)
      rw [← isPlain] at declared
      rw [List.foldl_cons, declared]
      refine ih _ (fun entry inside => plain entry (List.mem_cons_of_mem _ inside)) distinct ?_
      intro other inside
      have different : other.1 ≠ entry.1 := fun same => absent (List.mem_map.mpr ⟨other, inside, same⟩)
      rw [Catalog.contains_insert, fresh other (List.mem_cons_of_mem _ inside), decide_eq_false different]
      rfl

/-- All columns of the model are declared. -/
theorem declareItems_eq (items products : Nat) (problem : Problem) (bare : problem.columns = .empty) :
    (List.range items).foldl (declareItem products) problem =
      { problem with columns := Catalog.empty.fill (modelColumns items products) } := by
  have item (before : Problem) (i : Nat) :
      declareItem products before i = (itemColumns products i).foldl declare before := by
    rw [itemColumns, List.foldl_cons, List.foldl_map]
    rfl
  have all : (List.range items).foldl (declareItem products) problem =
      (modelColumns items products).foldl declare problem := by
    rw [modelColumns, List.foldl_flatMap]
    exact congrArg (fun step => (List.range items).foldl step problem) (funext₂ item)
  rw [all, foldl_declare _ _ _ (modelColumns_nodup items products), bare]
  · intro entry inside
    rw [bare]
    rfl
  · intro entry inside
    obtain ⟨i, -, inside⟩ := List.mem_flatMap.mp inside
    rcases List.mem_cons.mp inside with rfl | inside
    · rfl
    · obtain ⟨product, -, rfl⟩ := List.mem_map.mp inside
      rfl

end Columns

section Rows

variable (stock products demand : List Value)

def itemCells (entry : Value × Nat) : List (String × Binary64) :=
  (useKey entry.2, measure entry.1) ::
    products.zipIdx.map fun piece => (cutKey entry.2 piece.2, loss piece.1)

def wasteRow : Row :=
  { direction := some (.direction .minimize)
    cells := Catalog.empty.fill (stock.zipIdx.flatMap (itemCells products)) }

def stockRow (entry : Value × Nat) : Row :=
  { lower := .float .zero, cells := Catalog.empty.fill (itemCells products entry) }

def demandCells (items product : Nat) : List (String × Binary64) :=
  (List.range items).map fun item => (cutKey item product, .ofInt 1)

def demandRow (items product : Nat) : Row :=
  let amount : Value := .float (measure (demand[product]?.getD .null))
  { lower := amount, upper := amount, cells := Catalog.empty.fill (demandCells items product) }

def supplyRows : List (String × Row) :=
  (wasteKey, wasteRow stock products) :: stock.zipIdx.map fun entry => (stockKey entry.2, stockRow products entry)

def modelRows : List (String × Row) :=
  supplyRows stock products ++
    (List.range products.length).map fun product => (demandKey product, demandRow demand stock.length product)

theorem zipIdx_indices {α : Type} (items : List α) : items.zipIdx.map (·.2) = List.range items.length := by
  rw [List.range_eq_range']
  exact List.zipIdx_map_snd 0 items

theorem itemCells_keys (entry : Value × Nat) : (itemCells products entry).map (·.1) =
    (itemColumns products.length entry.2).map (·.1) := by
  simp only [itemCells, itemColumns, List.map_cons, List.map_map, ← zipIdx_indices, Function.comp_def]

theorem wasteCells_keys : (stock.zipIdx.flatMap (itemCells products)).map (·.1) =
    (modelColumns stock.length products.length).map (·.1) := by
  simp only [modelColumns, List.map_flatMap, itemCells_keys, ← zipIdx_indices, List.flatMap_map]

theorem demandCells_nodup (items product : Nat) : ((demandCells items product).map (·.1)).Nodup := by
  rw [demandCells, List.map_map]
  exact (List.nodup_range (n := items)).map fun item other same => ((cutKey_inj _ _ _ _).mp same).1

theorem stockKeys_eq :
    (stock.zipIdx.map fun entry => stockKey entry.2) = (List.range stock.length).map stockKey := by
  rw [← zipIdx_indices, List.map_map]
  rfl

theorem stockKeys_nodup : (stock.zipIdx.map fun entry => stockKey entry.2).Nodup := by
  rw [stockKeys_eq]
  exact List.nodup_range.map fun _ _ => (stockKey_inj _ _).mp

theorem demandKeys_nodup (count : Nat) : ((List.range count).map demandKey).Nodup :=
  List.nodup_range.map fun _ _ => (demandKey_inj _ _).mp

theorem mem_supplyKeys (key : String) : key ∈ (supplyRows stock products).map (·.1) ↔
    key = wasteKey ∨ ∃ item < stock.length, key = stockKey item := by
  simp only [supplyRows, List.map_cons, List.map_map, Function.comp_def, stockKeys_eq]
  simp [eq_comm]

theorem supplyRows_nodup : ((supplyRows stock products).map (·.1)).Nodup := by
  simp only [supplyRows, List.map_cons, List.map_map, Function.comp_def]
  refine List.nodup_cons.mpr ⟨fun inside => ?_, stockKeys_nodup stock⟩
  obtain ⟨entry, -, same⟩ := List.mem_map.mp inside
  exact wasteKey_ne_stockKey _ same.symm

theorem demandKey_notMem (product : Nat) : demandKey product ∉ (supplyRows stock products).map (·.1) := by
  rw [mem_supplyKeys]
  rintro (same | ⟨item, -, same⟩)
  · exact wasteKey_ne_demandKey product same.symm
  · exact stockKey_ne_demandKey item product same.symm

theorem modelRows_nodup : ((modelRows stock products demand).map (·.1)).Nodup := by
  simp only [modelRows, List.map_append, List.map_map, Function.comp_def]
  refine List.nodup_append.mpr ⟨supplyRows_nodup stock products, demandKeys_nodup products.length, ?_⟩
  intro key first other inside same
  obtain ⟨product, -, rfl⟩ := List.mem_map.mp inside
  exact demandKey_notMem stock products product (same ▸ first)

end Rows

section Building

variable (stock products demand : List Value)

theorem addTerm_eq (row column : String) (coefficient : Value) (x : Binary64) (problem : Problem)
    (named : problem.columns.contains column = true) (converts : coefficient.toBinary64 = .ok x) :
    addTerm row column coefficient problem = .ok (problem.fillRow row [(column, x)]) := by
  simp only [addTerm, Problem.ensureColumn, named, if_true, converts]
  rfl

theorem declareRow_eq (key : String) (lower upper low high : Value) (problem : Problem)
    (fresh : problem.rows.contains key = false) (isLow : Attributes.bound lower = .ok low)
    (isHigh : Attributes.bound upper = .ok high) :
    declareRow key lower upper problem = .ok (problem.addRow key { lower := low, upper := high }) := by
  have found : (problem.addRow key {}).attributes? .row (.text key) = some {} := by
    rw [Problem.attributes?_row _ .row rfl]
    simp [Problem.addRow]
  have bounded : (problem.addRow key {}).setBounds .row (.text key) lower upper =
      (problem.addRow key { lower := low, upper := high }, .ok ()) := by
    simp only [Problem.setBounds, found, Attributes.setBounds, isLow, isHigh]
    simp only [Problem.changeAttributes, Problem.changeRow, Problem.addRow, Catalog.modify_insert]
  simp only [declareRow, Problem.ensureRow, fresh, Bool.false_eq_true, if_false, bounded]
  rfl

variable {products : List Value} (measured : ∀ product ∈ products, IsMeasure product)

include measured

/-- A stock item adds its length and its pieces to a row. -/
theorem addItem_eq (row : String) (entry : Value × Nat) (isMeasure : IsMeasure entry.1) (problem : Problem)
    (named : ∀ key ∈ (itemColumns products.length entry.2).map (·.1), problem.columns.contains key = true) :
    addItem row products entry.2 entry.1 problem = .ok (problem.fillRow row (itemCells products entry)) := by
  have isNamed (key : String) := (named key ∘ (mem_itemKeys products.length entry.2 key).mpr)
  rw [addItem, addTerm_eq row _ _ _ problem (isNamed _ (Or.inl rfl)) isMeasure.toBinary64_eq, ok_bind]
  refine (Problem.foldlM_fillRow (problem.fillRow row _) _ products.zipIdx problem.columns row
    (fun piece => [(cutKey entry.2 piece.2, loss piece.1)]) ?_ rfl).trans ?_
  · intro piece inside before same
    obtain ⟨opposite, negated, converts⟩ := (measured _ (List.fst_mem_of_mem_zipIdx inside)).negated_eq
    dsimp only
    rw [negated, ok_bind]
    refine addTerm_eq row _ _ _ before ?_ converts
    rw [same]
    exact isNamed _ (Or.inr ⟨piece.2, List.snd_lt_of_mem_zipIdx inside, rfl⟩)
  · rw [Problem.fillRow_fillRow, ← List.map_eq_flatMap]
    rfl

variable (stock : List Value) (measuredStock : ∀ length ∈ stock, IsMeasure length)

def IsDeclared (stock products : List Value) (problem : Problem) : Prop :=
  problem.columns = Catalog.empty.fill (modelColumns stock.length products.length)

omit measured in
theorem IsDeclared.contains {problem : Problem} (declared : IsDeclared stock products problem) (item : Nat)
    (inside : item < stock.length) :
    ∀ key ∈ (itemColumns products.length item).map (·.1), problem.columns.contains key = true := by
  intro key named
  rw [declared, Catalog.contains_fill _ (modelColumns_nodup _ _), modelColumns, List.map_flatMap]
  exact List.mem_flatMap.mpr ⟨item, List.mem_range.mpr inside, named⟩

include measuredStock

theorem waste_eq (problem : Problem) (declared : IsDeclared stock products problem) :
    stock.zipIdx.foldlM (fun problem (length, item) => addItem wasteKey products item length problem) problem =
      .ok (problem.fillRow wasteKey (stock.zipIdx.flatMap (itemCells products))) := by
  refine Problem.foldlM_fillRow _ _ _ problem.columns wasteKey _ ?_ rfl
  intro entry inside before same
  have declaredBefore : IsDeclared stock products before := same.trans declared
  exact addItem_eq measured wasteKey entry (measuredStock _ (List.fst_mem_of_mem_zipIdx inside)) before
    (declaredBefore.contains _ entry.2 (List.snd_lt_of_mem_zipIdx inside))

theorem stocked_eq (problem : Problem) (declared : IsDeclared stock products problem)
    (fresh : ∀ item, problem.rows.contains (stockKey item) = false) :
    stock.zipIdx.foldlM (fun problem (length, item) => do
        let row ← declareRow (stockKey item) (.float .zero) .null problem
        addItem (stockKey item) products item length row) problem =
      .ok (problem.addRows (stock.zipIdx.map fun entry => (stockKey entry.2, stockRow products entry))) := by
  refine Problem.foldlM_addRow _ _ _ problem.columns _ ?_ (stockKeys_nodup stock)
    (fun entry _ => fresh entry.2) rfl
  intro entry inside before same absent
  have declaredBefore : IsDeclared stock products before := same.trans declared
  have isNamed := declaredBefore.contains _ entry.2 (List.snd_lt_of_mem_zipIdx inside)
  dsimp only
  rw [declareRow_eq _ _ _ (.float .zero) .null before absent rfl rfl, ok_bind]
  refine (addItem_eq measured _ entry (measuredStock _ (List.fst_mem_of_mem_zipIdx inside))
    (before.addRow (stockKey entry.2) _) isNamed).trans ?_
  rw [Problem.fillRow_addRow]
  rfl

omit measured measuredStock

variable (demand : List Value) (measuredDemand : ∀ amount ∈ demand, IsMeasure amount)

include measuredDemand

theorem demanded_eq (problem : Problem) (declared : IsDeclared stock products problem) (count : Nat)
    (known : count ≤ products.length) (asked : count ≤ demand.length)
    (fresh : ∀ product, problem.rows.contains (demandKey product) = false) :
    (List.range count).foldlM (addDemand stock.length demand) problem =
      .ok (problem.addRows ((List.range count).map fun product =>
        (demandKey product, demandRow demand stock.length product))) := by
  refine Problem.foldlM_addRow _ _ _ problem.columns _ ?_ (demandKeys_nodup count)
    (fun product _ => fresh product) rfl
  intro product inside before same absent
  have small := List.mem_range.mp inside
  have declaredBefore : IsDeclared stock products before := same.trans declared
  have found : demand[product]? = some demand[product] := List.getElem?_eq_getElem (by omega)
  have bound := (measuredDemand _ (List.mem_of_getElem? found)).bound_eq
  rw [addDemand, found]
  dsimp only
  rw [declareRow_eq _ _ _ _ _ before absent bound bound, ok_bind]
  refine (Problem.foldlM_fillRow (before.addRow (demandKey product) _) _ _ before.columns (demandKey product)
    (fun item => [(cutKey item product, .ofInt 1)]) ?_ rfl).trans ?_
  · intro item within other sameColumns
    refine addTerm_eq _ _ _ _ other ?_ rfl
    rw [sameColumns]
    exact declaredBefore.contains _ item (List.mem_range.mp within) _
      ((mem_itemKeys _ _ _).mpr (Or.inr ⟨product, by omega, rfl⟩))
  · rw [Problem.fillRow_addRow, ← List.map_eq_flatMap, demandRow, found]
    rfl

omit measuredDemand in
include measured measuredStock in
/-- The model without the rows of its demands. -/
theorem build_supply : ∃ supply : Problem, IsDeclared stock products supply ∧
    supply.name = .text "CuttingStock" ∧ supply.objective = some (.row wasteKey) ∧
    supply.rows = Catalog.empty.fill (supplyRows stock products) ∧
    build stock products demand = (List.range products.length).foldlM (addDemand stock.length demand) supply := by
  let columns := Catalog.empty.fill (modelColumns stock.length products.length)
  let declared : Problem := { name := .text "CuttingStock", columns }
  let aimed : Problem :=
    { declared.addRow wasteKey { direction := some (.direction .minimize) } with
      objective := some (.row wasteKey) }
  let wasted := aimed.fillRow wasteKey (stock.zipIdx.flatMap (itemCells products))
  have aims : declared.createObjective (.text wasteKey) (.direction .minimize) = .ok aimed := rfl
  have wastes : _ = Except.ok wasted := waste_eq measured stock measuredStock aimed rfl
  have waste : wasted.rows = Catalog.empty.insert wasteKey (wasteRow stock products) := by
    simp only [wasted, aimed, declared, Problem.fillRow, Problem.changeRow, Problem.addRow, Catalog.modify_insert]
    rfl
  have stocked := stocked_eq measured stock measuredStock wasted rfl fun item => by
    rw [waste, Catalog.contains_insert, decide_eq_false (wasteKey_ne_stockKey item).symm]
    rfl
  obtain ⟨name, sameColumns, objective⟩ :=
    wasted.addRows_frame (stock.zipIdx.map fun entry => (stockKey entry.2, stockRow products entry))
  refine ⟨_, sameColumns, name, objective, ?_, ?_⟩
  · rw [Problem.rows_addRows, waste]
    rfl
  · rw [build, declareItems_eq stock.length products.length { name := .text "CuttingStock" } rfl]
    rw [aims, ok_bind, wastes, ok_bind, stocked, ok_bind]

include measured measuredStock

/-- Building with enough demands puts in the columns and the rows of the model. -/
theorem build_eq (enough : products.length ≤ demand.length) : ∃ problem : Problem,
    build stock products demand = .ok problem ∧ problem.name = .text "CuttingStock" ∧
      problem.columns = Catalog.empty.fill (modelColumns stock.length products.length) ∧
      problem.rows = Catalog.empty.fill (modelRows stock products demand) ∧
      problem.objective = some (.row wasteKey) := by
  obtain ⟨supply, declared, name, objective, rows, builds⟩ := build_supply measured stock measuredStock demand
  have demanded := demanded_eq stock demand measuredDemand supply declared products.length le_rfl enough
    fun product => by
      rw [rows, ← Bool.not_eq_true, Catalog.contains_fill _ (supplyRows_nodup stock products)]
      exact demandKey_notMem stock products product
  obtain ⟨sameName, sameColumns, sameObjective⟩ := supply.addRows_frame
    ((List.range products.length).map fun product => (demandKey product, demandRow demand stock.length product))
  refine ⟨_, builds.trans demanded, sameName.trans name, sameColumns.trans declared, ?_,
    sameObjective.trans objective⟩
  rw [Problem.rows_addRows, rows, modelRows, Catalog.fill_append]

/-- The first product without a demand is out of range. -/
theorem build_outOfRange (few : demand.length < products.length) :
    build stock products demand = .error .indexOutOfRange := by
  obtain ⟨supply, declared, name, objective, rows, builds⟩ := build_supply measured stock measuredStock demand
  have demanded := demanded_eq stock demand measuredDemand supply declared demand.length few.le le_rfl
    fun product => by
      rw [rows, ← Bool.not_eq_true, Catalog.contains_fill _ (supplyRows_nodup stock products)]
      exact demandKey_notMem stock products product
  obtain ⟨more, isLength⟩ := Nat.exists_eq_add_of_lt few
  have missing (before : Problem) :
      addDemand stock.length demand before demand.length = .error .indexOutOfRange := by
    simp only [addDemand, List.getElem?_eq_none le_rfl]
  rw [builds, isLength, show demand.length + more + 1 = demand.length + (1 + more) by omega, List.range_add,
    List.foldlM_append, demanded, ok_bind, Nat.add_comm 1 more, List.range_succ_eq_map, List.map_cons,
    List.foldlM_cons, Nat.add_zero, missing]
  rfl

end Building

section Model

def IsItemCell (products : List Value) (item : Nat) (length : Value) (column : String) (x : Binary64) : Prop :=
  column = useKey item ∧ length.toBinary64 = .ok x ∨
    ∃ product piece opposite, products[product]? = some piece ∧ column = cutKey item product ∧
      piece.negated = .ok opposite ∧ opposite.toBinary64 = .ok x

/-- The documented model of stock lengths, product lengths and demands. The waste, which is the objective, is worth
what the stock items have left over together. -/
structure IsModel (stock products demand : List Value) (problem : Problem) : Prop where
  name : problem.name = .text "CuttingStock"
  columns : ∀ key column, problem.columns.get? key = some column ↔
    (∃ item < stock.length, key = useKey item ∧ column = { type := .columnType .binary }) ∨
      ∃ item < stock.length, ∃ product < products.length, key = cutKey item product ∧
        column = { type := .columnType .integer, lower := .float .zero }
  columnCount : problem.columns.size = stock.length + stock.length * products.length
  rows : ∀ key, problem.rows.contains key = true ↔ key = wasteKey ∨
    (∃ item < stock.length, key = stockKey item) ∨ ∃ product < products.length, key = demandKey product
  rowCount : problem.rows.size = stock.length + products.length + 1
  objective : problem.objective = some (.row wasteKey)
  wasteRow : ∃ cells, problem.rows.get? wasteKey =
      some { direction := some (.direction .minimize), cells } ∧
    ∀ column x, cells.get? column = some x ↔
      ∃ item length, stock[item]? = some length ∧ IsItemCell products item length column x
  stockRows : ∀ item length, stock[item]? = some length → ∃ cells,
    problem.rows.get? (stockKey item) = some { lower := .float .zero, cells } ∧
      ∀ column x, cells.get? column = some x ↔ IsItemCell products item length column x
  demandRows : ∀ product < products.length, ∃ amount bound cells, demand[product]? = some amount ∧
    amount.toBinary64 = .ok bound ∧
    problem.rows.get? (demandKey product) = some { lower := .float bound, upper := .float bound, cells } ∧
    ∀ column x, cells.get? column = some x ↔
      x = .ofInt 1 ∧ ∃ item < stock.length, column = cutKey item product
  worth : ∀ x : String → ℚ, problem.objectiveValue x = ((List.range stock.length).map fun item =>
    ((problem.rows.get? (stockKey item)).map (Row.valueAt x)).getD 0).sum

theorem mem_itemCells {products : List Value} (measured : ∀ product ∈ products, IsMeasure product) (item : Nat)
    (length : Value) (isMeasure : IsMeasure length) (column : String) (x : Binary64) :
    (column, x) ∈ itemCells products (length, item) ↔ IsItemCell products item length column x := by
  simp only [itemCells, IsItemCell, List.mem_cons, Prod.mk.injEq, isMeasure.toBinary64_eq, Except.ok.injEq]
  refine or_congr (and_congr_right fun _ => eq_comm) ?_
  constructor
  · intro inside
    obtain ⟨⟨piece, product⟩, there, same⟩ := List.mem_map.mp inside
    cases same
    obtain ⟨opposite, negated, converts⟩ := (measured _ (List.fst_mem_of_mem_zipIdx there)).negated_eq
    exact ⟨product, piece, opposite, List.mk_mem_zipIdx_iff_getElem?.mp there, rfl, negated, converts⟩
  · rintro ⟨product, piece, opposite, there, rfl, negated, converts⟩
    have inside := List.mk_mem_zipIdx_iff_getElem?.mpr there
    obtain ⟨other, alsoNegated, alsoConverts⟩ := (measured _ (List.fst_mem_of_mem_zipIdx inside)).negated_eq
    cases negated.symm.trans alsoNegated
    cases converts.symm.trans alsoConverts
    exact List.mem_map.mpr ⟨_, inside, rfl⟩

theorem valueAt_fill (row : Row) (entries : List (String × Binary64)) (distinct : (entries.map (·.1)).Nodup)
    (cells : row.cells = Catalog.empty.fill entries) (x : String → ℚ) :
    row.valueAt x = (entries.map fun entry => entry.2.rational * x entry.1).sum := by
  rw [Row.valueAt, cells]
  exact ((Catalog.entries_fill entries distinct).map _).sum_eq

theorem size_modelColumns (items products : Nat) :
    (modelColumns items products).length = items + items * products := by
  simp only [modelColumns, List.length_flatMap, itemColumns, List.length_cons, List.length_map, List.length_range,
    List.map_const', List.sum_replicate_nat, Nat.mul_add_one]
  exact Nat.add_comm _ _

theorem mem_modelColumns (items products : Nat) (key : String) (column : Column) :
    (key, column) ∈ modelColumns items products ↔
      (∃ item < items, key = useKey item ∧ column = useColumn) ∨
        ∃ item < items, ∃ product < products, key = cutKey item product ∧ column = cutColumn := by
  simp only [modelColumns, List.mem_flatMap, List.mem_range, itemColumns, List.mem_cons, Prod.mk.injEq,
    List.mem_map, and_or_left, exists_or, @eq_comm String _ key, @eq_comm Column _ column]

theorem wasteCells_nodup (stock products : List Value) :
    ((stock.zipIdx.flatMap (itemCells products)).map (·.1)).Nodup := by
  rw [wasteCells_keys]
  exact modelColumns_nodup _ _

theorem itemCells_nodup (products : List Value) (entry : Value × Nat) :
    ((itemCells products entry).map (·.1)).Nodup := by
  rw [itemCells_keys]
  exact itemColumns_nodup _ _

theorem mem_wasteCells {products : List Value} (measured : ∀ product ∈ products, IsMeasure product)
    (stock : List Value) (measuredStock : ∀ length ∈ stock, IsMeasure length) (column : String) (x : Binary64) :
    (column, x) ∈ stock.zipIdx.flatMap (itemCells products) ↔
      ∃ item length, stock[item]? = some length ∧ IsItemCell products item length column x := by
  rw [List.mem_flatMap]
  constructor
  · rintro ⟨⟨length, item⟩, inside, cell⟩
    have isMeasure := measuredStock _ (List.fst_mem_of_mem_zipIdx inside)
    exact ⟨item, length, List.mk_mem_zipIdx_iff_getElem?.mp inside,
      (mem_itemCells measured _ _ isMeasure _ _).mp cell⟩
  · rintro ⟨item, length, there, cell⟩
    have isMeasure := measuredStock _ (List.mem_of_getElem? there)
    exact ⟨(length, item), List.mk_mem_zipIdx_iff_getElem?.mpr there,
      (mem_itemCells measured _ _ isMeasure _ _).mpr cell⟩

theorem mem_demandCells (items product : Nat) (column : String) (x : Binary64) :
    (column, x) ∈ demandCells items product ↔ x = .ofInt 1 ∧ ∃ item < items, column = cutKey item product := by
  simp only [demandCells, List.mem_map, List.mem_range, Prod.mk.injEq]
  constructor
  · rintro ⟨item, inside, rfl, rfl⟩
    exact ⟨rfl, item, inside, rfl⟩
  · rintro ⟨rfl, item, inside, rfl⟩
    exact ⟨item, inside, rfl, rfl⟩

section Listed

variable (stock products demand : List Value) (problem : Problem)
  (rows : problem.rows = Catalog.empty.fill (modelRows stock products demand))

include rows

theorem get?_of_mem (key : String) (row : Row) (inside : (key, row) ∈ modelRows stock products demand) :
    problem.rows.get? key = some row := by
  rw [rows]
  exact (Catalog.mem_fill _ (modelRows_nodup stock products demand) key row).mpr inside

theorem get?_stockKey (entry : Value × Nat) (inside : entry ∈ stock.zipIdx) :
    problem.rows.get? (stockKey entry.2) = some (stockRow products entry) :=
  get?_of_mem stock products demand problem rows _ _
    (List.mem_append_left _ (List.mem_cons_of_mem _ (List.mem_map.mpr ⟨entry, inside, rfl⟩)))

-- The cells of the waste are those of all stock items together.
theorem worth_eq (objective : problem.objective = some (.row wasteKey)) (x : String → ℚ) :
    problem.objectiveValue x = ((List.range stock.length).map fun item =>
      ((problem.rows.get? (stockKey item)).map (Row.valueAt x)).getD 0).sum := by
  have found : problem.rows.get? wasteKey = some (wasteRow stock products) :=
    get?_of_mem stock products demand problem rows _ _ (List.mem_append_left _ List.mem_cons_self)
  have waste : problem.objective? = some (.text wasteKey, wasteRow stock products) := by
    simp [Problem.objective?, objective, Aim.key, found]
  rw [Problem.objectiveValue, waste, Option.map_some, Option.getD_some]
  dsimp only
  rw [valueAt_fill _ _ (wasteCells_nodup stock products) rfl, List.map_flatMap, List.flatMap_def, List.sum_flatten,
    List.map_map, ← zipIdx_indices, List.map_map]
  refine congrArg List.sum (List.map_congr_left fun entry inside => ?_)
  simp only [Function.comp_apply, get?_stockKey stock products demand problem rows entry inside, Option.map_some,
    Option.getD_some]
  exact (valueAt_fill (stockRow products entry) _ (itemCells_nodup products entry) rfl x).symm

end Listed

/-- Building a model with enough demands gives the documented one, and with fewer demands than products it fails.
-/
theorem build_documented (stock products demand : List Value)
    (measuredStock : ∀ length ∈ stock, IsMeasure length)
    (measured : ∀ product ∈ products, IsMeasure product)
    (measuredDemand : ∀ amount ∈ demand, IsMeasure amount) :
    (products.length ≤ demand.length →
      ∃ problem, build stock products demand = .ok problem ∧ IsModel stock products demand problem) ∧
    (demand.length < products.length → build stock products demand = .error .indexOutOfRange) := by
  refine ⟨fun enough => ?_, build_outOfRange measured stock measuredStock demand measuredDemand⟩
  obtain ⟨problem, builds, name, columns, rows, objective⟩ :=
    build_eq measured stock measuredStock demand measuredDemand enough
  have distinct := modelRows_nodup stock products demand
  have found := get?_of_mem stock products demand problem rows
  refine ⟨problem, builds, ?_⟩
  constructor
  case name => exact name
  case objective => exact objective
  case worth => exact worth_eq stock products demand problem rows objective
  case columns =>
    intro key column
    rw [columns, Catalog.mem_fill _ (modelColumns_nodup _ _), mem_modelColumns]
    rfl
  case columnCount =>
    rw [columns, Catalog.size, (Catalog.entries_fill _ (modelColumns_nodup _ _)).length_eq, size_modelColumns]
  case rows =>
    intro key
    rw [rows, Catalog.contains_fill _ distinct, modelRows, List.map_append, List.mem_append, mem_supplyKeys,
      or_assoc]
    simp [eq_comm]
  case rowCount =>
    rw [rows, Catalog.size, (Catalog.entries_fill _ distinct).length_eq]
    simp [modelRows, supplyRows]
  case wasteRow =>
    refine ⟨_, found _ _ (List.mem_append_left _ List.mem_cons_self), fun column x => ?_⟩
    rw [Catalog.mem_fill _ (wasteCells_nodup stock products)]
    exact mem_wasteCells measured stock measuredStock column x
  case stockRows =>
    intro item length there
    have inside := List.mk_mem_zipIdx_iff_getElem?.mpr there
    refine ⟨_, get?_stockKey stock products demand problem rows (length, item) inside, fun column x => ?_⟩
    rw [Catalog.mem_fill _ (itemCells_nodup products _)]
    exact mem_itemCells measured item length (measuredStock _ (List.mem_of_getElem? there)) column x
  case demandRows =>
    intro product small
    have asked : demand[product]? = some demand[product] := List.getElem?_eq_getElem (by omega)
    have isMeasure := measuredDemand _ (List.mem_of_getElem? asked)
    refine ⟨_, measure demand[product], Catalog.empty.fill (demandCells stock.length product), asked,
      isMeasure.toBinary64_eq, ?_, fun column y => ?_⟩
    · refine (found (demandKey product) (demandRow demand stock.length product) ?_).trans ?_
      · exact List.mem_append_right _ (List.mem_map.mpr ⟨product, List.mem_range.mpr small, rfl⟩)
      · rw [demandRow, asked]
        rfl
    · rw [Catalog.mem_fill _ (demandCells_nodup stock.length product)]
      exact mem_demandCells stock.length product column y

/-- One of two stock items is measured by a fraction, and one product is asked for three times. -/
theorem twoItems_documented :
    let stock : List Value := [.int 5, .float (.ofRatio false 5 2)]
    (∃ problem, build stock [.int 2] [.int 3] = .ok problem ∧ IsModel stock [.int 2] [.int 3] problem) ∧
      build stock [.int 2] [] = .error .indexOutOfRange := by
  intro stock
  have whole (n : Int) (small : (Value.int n).toBinary64.isOk = true) : IsMeasure (.int n) :=
    ⟨⟨_, rfl⟩, ok_of_isOk _ small⟩
  have measuredStock : ∀ length ∈ stock, IsMeasure length := by
    intro length inside
    simp only [stock, List.mem_cons, List.not_mem_nil, or_false] at inside
    rcases inside with rfl | rfl
    · exact whole 5 (by decide +kernel)
    · exact ⟨⟨_, rfl⟩, ⟨_, rfl⟩⟩
  have measured (n : Int) (small : (Value.int n).toBinary64.isOk = true) :
      ∀ value ∈ [Value.int n], IsMeasure value := by
    intro value inside
    cases List.mem_singleton.mp inside
    exact whole n small
  have products := measured 2 (by decide +kernel)
  exact ⟨(build_documented stock _ [.int 3] measuredStock products (measured 3 (by decide +kernel))).1 le_rfl,
    (build_documented stock _ [] measuredStock products (by simp)).2 (by decide)⟩

end Model

end LinearProgram.CuttingStock
