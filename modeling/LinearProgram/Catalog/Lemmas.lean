import LinearProgram.Catalog

/-!
Look-ups in catalogues. Every operation is described by what it does to `get?`, and `get?` decides a
catalogue: two with the same look-ups are equal. A catalogue stands for a dictionary, which keeps its entries
in the order in which their keys came: its entries are those of the dictionary, sorted by key.
-/

namespace LinearProgram

theorem lookup_entry {κ α : Type} [DecidableEq κ] (key other : κ) (item : α) (rest : List (κ × α)) :
    ((key, item) :: rest).lookup other = if other = key then some item else rest.lookup other := by
  by_cases same : other = key
  · simp [same]
  · simp [List.lookup_cons, beq_false_of_ne same, same]

theorem lookup_putEntry {α : Type} (key other : String) (item : α) (entries : List (String × α)) :
    (putEntry key item entries).lookup other =
      if other = key then some item else entries.lookup other := by
  induction entries with
  | nil => simp [putEntry, lookup_entry]
  | cons first rest ih =>
      obtain ⟨name, value⟩ := first
      simp only [putEntry]
      split
      next => simp only [lookup_entry]
      next =>
        split
        next equal =>
          subst equal
          by_cases same : other = key <;> simp [lookup_entry, same]
        next different =>
          by_cases same : other = name
          · subst same
            simp [Ne.symm different]
          · simp [lookup_entry, ih, same]

theorem lookup_eq_some_iff {α : Type} (entries : List (String × α)) (ascending : Ascending entries)
    (key : String) (item : α) : entries.lookup key = some item ↔ (key, item) ∈ entries := by
  induction entries with
  | nil => simp
  | cons first rest ih =>
      obtain ⟨name, value⟩ := first
      have rests := List.pairwise_cons.mp ascending
      by_cases same : key = name
      · subst same
        have absent : (key, item) ∉ rest := fun inside =>
          String.lt_irrefl key (rests.1 (key, item) inside)
        simp [absent, eq_comm]
      · simp [lookup_entry, same, ih rests.2]

/-- Strictly ascending entries with the same members are the same. -/
theorem entries_eq_of_mem_iff {α : Type} (entries others : List (String × α))
    (ascending : Ascending entries) (ascends : Ascending others)
    (same : ∀ entry, entry ∈ entries ↔ entry ∈ others) : entries = others := by
  induction entries generalizing others with
  | nil =>
      cases others with
      | nil => rfl
      | cons other _ => exact absurd ((same other).mpr (by simp)) (by simp)
  | cons first rest ih =>
      cases others with
      | nil => exact absurd ((same first).mp (by simp)) (by simp)
      | cons other tail =>
          have below := List.pairwise_cons.mp ascending
          have belows := List.pairwise_cons.mp ascends
          have heads : first = other := by
            rcases List.mem_cons.mp ((same first).mp (by simp)) with equal | inTail
            · exact equal
            · rcases List.mem_cons.mp ((same other).mpr (by simp)) with equal | inRest
              · exact equal.symm
              · exact absurd (String.lt_trans (belows.1 first inTail) (below.1 other inRest))
                  (String.lt_irrefl _)
          subst heads
          congr 1
          refine ih tail below.2 belows.2 fun entry => ?_
          have both := same entry
          simp only [List.mem_cons] at both
          constructor
          · intro inside
            rcases both.mp (Or.inr inside) with equal | inTail
            · subst equal
              exact absurd (below.1 entry inside) (String.lt_irrefl _)
            · exact inTail
          · intro inside
            rcases both.mpr (Or.inr inside) with equal | inRest
            · subst equal
              exact absurd (belows.1 entry inside) (String.lt_irrefl _)
            · exact inRest

namespace Catalog

variable {α β : Type}

@[simp] theorem get?_empty (key : String) : (empty : Catalog α).get? key = none := rfl

theorem get?_insert (catalog : Catalog α) (key other : String) (item : α) :
    (catalog.insert key item).get? other = if other = key then some item else catalog.get? other :=
  lookup_putEntry key other item catalog.entries

@[simp] theorem get?_insert_self (catalog : Catalog α) (key : String) (item : α) :
    (catalog.insert key item).get? key = some item := by simp [get?_insert]

theorem get?_modify (catalog : Catalog α) (key other : String) (change : α → α) :
    (catalog.modify key change).get? other =
      if other = key then (catalog.get? key).map change else catalog.get? other := by
  unfold modify
  split
  next item found => by_cases same : other = key <;> simp [get?_insert, same, found]
  next missing => by_cases same : other = key <;> simp [same, missing]

theorem mem_entries_iff (catalog : Catalog α) (key : String) (item : α) :
    (key, item) ∈ catalog.entries ↔ catalog.get? key = some item :=
  (lookup_eq_some_iff catalog.entries catalog.ascending key item).symm

theorem ext_get? {catalog other : Catalog α} (same : ∀ key, catalog.get? key = other.get? key) :
    catalog = other := by
  have entries : catalog.entries = other.entries :=
    entries_eq_of_mem_iff _ _ catalog.ascending other.ascending fun entry => by
      rw [mem_entries_iff, mem_entries_iff, same]
  cases catalog
  cases other
  simpa using entries

/-- A change that does nothing to the item of a key does nothing. -/
theorem modify_self (catalog : Catalog α) (key : String) (change : α → α)
    (same : ∀ item, catalog.get? key = some item → change item = item) :
    catalog.modify key change = catalog := by
  refine ext_get? fun other => ?_
  rw [get?_modify]
  split
  next here =>
    rw [here]
    cases found : catalog.get? key with
    | none => rfl
    | some item => rw [Option.map_some, same item found]
  next => rfl

theorem keys_pairwise (catalog : Catalog α) : catalog.keys.Pairwise (· < ·) :=
  List.pairwise_map.mpr catalog.ascending

theorem mem_keys_iff (catalog : Catalog α) (key : String) :
    key ∈ catalog.keys ↔ catalog.contains key = true := by
  simp only [keys, contains, List.mem_map, Option.isSome_iff_exists]
  constructor
  · rintro ⟨⟨_, item⟩, inside, rfl⟩
    exact ⟨item, (mem_entries_iff catalog _ item).mp inside⟩
  · rintro ⟨item, found⟩
    exact ⟨(key, item), (mem_entries_iff catalog key item).mpr found, rfl⟩

end Catalog

section Dictionary

variable {κ α : Type} [DecidableEq κ]

theorem lookup_setEntry (key other : κ) (item : α) (entries : List (κ × α)) :
    (setEntry key item entries).lookup other = if other = key then some item else entries.lookup other := by
  induction entries with
  | nil => exact lookup_entry key other item []
  | cons first rest ih =>
      obtain ⟨name, value⟩ := first
      simp only [setEntry]
      split
      next same =>
        subst same
        by_cases here : other = key <;> simp [lookup_entry, here]
      next different =>
        by_cases here : other = name
        · subst here
          simp [Ne.symm different]
        · simp [lookup_entry, ih, here]

theorem lookup_changeEntry (key other : κ) (change : α → α) (entries : List (κ × α)) :
    (changeEntry key change entries).lookup other =
      if other = key then (entries.lookup key).map change else entries.lookup other := by
  induction entries with
  | nil => simp [changeEntry]
  | cons first rest ih =>
      obtain ⟨name, value⟩ := first
      rw [changeEntry] at ih
      rw [changeEntry, List.map_cons]
      by_cases same : name = key
      · subst same
        by_cases here : other = name <;> simp [lookup_entry, here, ih]
      · by_cases here : other = name
        · subst here
          simp [same]
        · simp [lookup_entry, same, here, ih, Ne.symm same]

theorem keys_changeEntry (key : κ) (change : α → α) (entries : List (κ × α)) :
    (changeEntry key change entries).map (·.1) = entries.map (·.1) := by
  rw [changeEntry, List.map_map]
  refine List.map_congr_left fun entry _ => ?_
  by_cases same : entry.1 = key <;> simp [same]

theorem mem_keys_setEntry (key other : κ) (item : α) (entries : List (κ × α)) :
    other ∈ (setEntry key item entries).map (·.1) ↔ other = key ∨ other ∈ entries.map (·.1) := by
  induction entries with
  | nil => simp [setEntry]
  | cons first rest ih =>
      simp only [setEntry]
      split
      next same => simp [same]
      next => simp only [List.map_cons, List.mem_cons, ih]; exact or_left_comm

theorem nodup_setEntry (key : κ) (item : α) (entries : List (κ × α))
    (distinct : (entries.map (·.1)).Nodup) : ((setEntry key item entries).map (·.1)).Nodup := by
  induction entries with
  | nil => simp [setEntry]
  | cons first rest ih =>
      obtain ⟨absent, rests⟩ := List.nodup_cons.mp distinct
      simp only [setEntry]
      split
      next same => simpa [same] using ⟨by simpa using absent, rests⟩
      next different =>
        refine List.nodup_cons.mpr ⟨fun inside => ?_, ih rests⟩
        rcases (mem_keys_setEntry key first.1 item rest).mp inside with same | inRest
        · exact different same.symm
        · exact absent inRest

theorem mem_iff_lookup_of_nodup (entries : List (κ × α)) (distinct : (entries.map (·.1)).Nodup)
    (key : κ) (item : α) : (key, item) ∈ entries ↔ entries.lookup key = some item := by
  induction entries with
  | nil => simp
  | cons first rest ih =>
      obtain ⟨name, value⟩ := first
      obtain ⟨absent, rests⟩ := List.nodup_cons.mp distinct
      by_cases same : key = name
      · subst same
        have notThere : (key, item) ∉ rest := fun inside => absent (List.mem_map_of_mem (f := (·.1)) inside)
        simp [notThere, eq_comm]
      · simp [lookup_entry, same, ih rests]

def keyUpTo (one other : String × α) : Bool := decide (one.1 ≤ other.1)

theorem keyUpTo_trans (one other third : String × α) (first : keyUpTo one other = true)
    (second : keyUpTo other third = true) : keyUpTo one third = true :=
  decide_eq_true (String.le_trans (of_decide_eq_true first) (of_decide_eq_true second))

theorem keyUpTo_total (one other : String × α) : (keyUpTo one other || keyUpTo other one) = true := by
  simpa [keyUpTo] using String.le_total one.1 other.1

namespace Catalog

structure Holds (catalog : Catalog α) (entries : List (String × α)) : Prop where
  distinct : (entries.map (·.1)).Nodup
  same : ∀ key, entries.lookup key = catalog.get? key

variable {catalog : Catalog α} {entries : List (String × α)}

theorem holds_empty : Holds (empty : Catalog α) [] := ⟨List.nodup_nil, fun _ => rfl⟩

theorem Holds.insert (holds : catalog.Holds entries) (key : String) (item : α) :
    (catalog.insert key item).Holds (setEntry key item entries) :=
  ⟨nodup_setEntry key item entries holds.distinct, fun other => by
    rw [lookup_setEntry, get?_insert, holds.same]⟩

theorem Holds.modify (holds : catalog.Holds entries) (key : String) (change : α → α) :
    (catalog.modify key change).Holds (changeEntry key change entries) :=
  ⟨keys_changeEntry key change entries ▸ holds.distinct, fun other => by
    rw [lookup_changeEntry, get?_modify, holds.same, holds.same]⟩

/-- The entries of a catalogue are those of the dictionary, sorted by key. -/
theorem Holds.sorted (holds : catalog.Holds entries) :
    catalog.entries = entries.mergeSort keyUpTo := by
  have perm := entries.mergeSort_perm keyUpTo
  have weakly := List.pairwise_mergeSort keyUpTo_trans keyUpTo_total entries
  have apart := List.pairwise_map.mp ((perm.map (·.1)).nodup_iff.mpr holds.distinct)
  refine entries_eq_of_mem_iff _ _ catalog.ascending ?_ fun entry => ?_
  · exact (weakly.and apart).imp fun both =>
      Std.lt_of_le_of_ne (of_decide_eq_true both.1) both.2
  · rw [mem_entries_iff, perm.mem_iff, mem_iff_lookup_of_nodup entries holds.distinct, holds.same]

/-- Whichever items are set one after another, a catalogue has the entries of a dictionary, sorted by key. -/
theorem entries_of_items (items : List (String × α)) :
    (items.foldl (fun (made : Catalog α) item => made.insert item.1 item.2) empty).entries =
      (items.foldl (fun made item => setEntry item.1 item.2 made) []).mergeSort keyUpTo := by
  have run (items : List (String × α)) (catalog : Catalog α) (entries : List (String × α))
      (holds : catalog.Holds entries) :
      (items.foldl (fun (made : Catalog α) item => made.insert item.1 item.2) catalog).Holds
        (items.foldl (fun made item => setEntry item.1 item.2 made) entries) := by
    induction items generalizing catalog entries with
    | nil => exact holds
    | cons first rest ih => exact ih _ _ (holds.insert first.1 first.2)
  exact (run items empty [] holds_empty).sorted

end Catalog

end Dictionary

end LinearProgram
