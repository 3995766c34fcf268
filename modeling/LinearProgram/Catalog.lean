/-!
Catalogues: items under text keys, in ascending order of the keys. The entries ascend strictly, so a
key occurs once and two catalogues with the same look-ups are equal.
-/

namespace LinearProgram

def putEntry {α : Type} (key : String) (item : α) : List (String × α) → List (String × α)
  | [] => [(key, item)]
  | entry :: rest =>
      if key < entry.1 then (key, item) :: entry :: rest
      else if key = entry.1 then (key, item) :: rest
      else entry :: putEntry key item rest

theorem mem_putEntry {α : Type} (key : String) (item : α) (entries : List (String × α))
    (entry : String × α) (member : entry ∈ putEntry key item entries) :
    entry = (key, item) ∨ entry ∈ entries := by
  induction entries with
  | nil => simpa [putEntry] using member
  | cons first rest ih =>
      simp only [putEntry] at member
      split at member
      · simpa using member
      · split at member
        · rcases List.mem_cons.mp member with same | inside
          · exact Or.inl same
          · exact Or.inr (List.mem_cons_of_mem _ inside)
        · rcases List.mem_cons.mp member with same | inside
          · exact Or.inr (by simp [same])
          · exact (ih inside).imp_right (List.mem_cons_of_mem _)

def Ascending {α : Type} (entries : List (String × α)) : Prop :=
  entries.Pairwise fun a b => a.1 < b.1

theorem ascending_putEntry {α : Type} (key : String) (item : α) (entries : List (String × α))
    (ascending : Ascending entries) : Ascending (putEntry key item entries) := by
  induction entries with
  | nil => simp [putEntry, Ascending]
  | cons first rest ih =>
      have rests := List.pairwise_cons.mp ascending
      simp only [putEntry]
      split
      next before =>
        refine List.pairwise_cons.mpr ⟨fun entry member => ?_, ascending⟩
        rcases List.mem_cons.mp member with same | inside
        · simpa [same] using before
        · exact String.lt_trans before (rests.1 entry inside)
      next notBefore =>
        split
        next same => exact List.pairwise_cons.mpr ⟨fun entry inside => same ▸ rests.1 entry inside, rests.2⟩
        next different =>
          refine List.pairwise_cons.mpr ⟨fun entry member => ?_, ih rests.2⟩
          rcases mem_putEntry key item rest entry member with same | inside
          · subst same
            exact Std.lt_of_le_of_ne (Std.not_lt.mp notBefore) (Ne.symm different)
          · exact rests.1 entry inside

structure Catalog (α : Type) where
  entries : List (String × α)
  ascending : Ascending entries

namespace Catalog

variable {α β : Type}

def empty : Catalog α := ⟨[], List.Pairwise.nil⟩

instance : Inhabited (Catalog α) := ⟨empty⟩

def keys (catalog : Catalog α) : List String := catalog.entries.map (·.1)

def size (catalog : Catalog α) : Nat := catalog.entries.length

def get? (catalog : Catalog α) (key : String) : Option α := catalog.entries.lookup key

def contains (catalog : Catalog α) (key : String) : Bool := (catalog.get? key).isSome

def insert (catalog : Catalog α) (key : String) (item : α) : Catalog α :=
  ⟨putEntry key item catalog.entries, ascending_putEntry key item _ catalog.ascending⟩

def modify (catalog : Catalog α) (key : String) (change : α → α) : Catalog α :=
  match catalog.get? key with
  | some item => catalog.insert key (change item)
  | none => catalog

def mapEntries (catalog : Catalog α) (change : List (String × α) → List (String × β))
    (sameKeys : ∀ entries, (change entries).map (·.1) = entries.map (·.1)) : Catalog β :=
  ⟨change catalog.entries, by
    have kept := List.pairwise_map.mpr catalog.ascending
    rw [← sameKeys] at kept
    exact List.pairwise_map.mp kept⟩

end Catalog

section Dictionary

variable {κ α : Type} [DecidableEq κ]

/-- The entries of a dictionary with an item under a key: in the place of the one before, else at the end. -/
def setEntry (key : κ) (item : α) : List (κ × α) → List (κ × α)
  | [] => [(key, item)]
  | entry :: rest => if key = entry.1 then (key, item) :: rest else entry :: setEntry key item rest

def changeEntry (key : κ) (change : α → α) (entries : List (κ × α)) : List (κ × α) :=
  entries.map fun entry => if entry.1 = key then (key, change entry.2) else entry

end Dictionary

end LinearProgram
