import LinearProgram.Proofs.Plans
import LinearProgram.Yaml.Reader

/-!
Documents. In a mapping a text is a key once, so a mapping has at most one value under a text. A file says
what the mapping under its key `solver` holds.
-/

namespace LinearProgram

theorem TextsOnce.unique {entries : List (Document × Document)} (once : TextsOnce entries) (key : String)
    (value other : Document) (inside : (.text key, value) ∈ entries) (also : (.text key, other) ∈ entries) :
    value = other := by
  induction entries with
  | nil => cases inside
  | cons entry rest ih =>
      obtain ⟨apart, onceLater⟩ := List.pairwise_cons.mp once
      rcases List.mem_cons.mp inside with rfl | later
      · rcases List.mem_cons.mp also with same | alsoLater
        · cases same
          rfl
        · exact absurd rfl (apart _ alsoLater key rfl)
      · rcases List.mem_cons.mp also with rfl | alsoLater
        · exact absurd rfl (apart _ later key rfl)
        · exact ih onceLater later alsoLater

namespace Document

theorem isText_iff (document : Document) (key : String) : document.isText key = true ↔ document = .text key := by
  unfold isText
  split
  next s => simp
  next other => exact iff_of_false (by decide) fun same => other key same

theorem entryOf?_eq_some_iff (entries : List (Document × Document)) (once : TextsOnce entries) (key : String)
    (value : Document) : entryOf? key entries = some value ↔ (.text key, value) ∈ entries := by
  unfold entryOf?
  constructor
  · intro found
    obtain ⟨⟨own, given⟩, there, rfl⟩ := Option.map_eq_some_iff.mp found
    have isKey := List.find?_some there
    rw [isText_iff] at isKey
    exact isKey ▸ List.mem_of_find?_eq_some there
  · intro inside
    cases found : entries.find? fun entry => entry.1.isText key with
    | none =>
        have missing := List.find?_eq_none.mp found _ inside
        exact absurd ((isText_iff _ key).mpr rfl) missing
    | some entry =>
        have isKey := List.find?_some found
        rw [isText_iff] at isKey
        have there := List.mem_of_find?_eq_some found
        rw [show entry = (.text key, entry.2) from Prod.ext isKey rfl] at there
        exact congrArg some (once.unique key entry.2 value there inside)

end Document

namespace SettingsSource

variable (source : SettingsSource)

def HasSolver (value : Document) : Prop :=
  ∃ bytes entries, source.contents = some bytes ∧
    source.reader.read (Text.readFile bytes) = .ok (.mapping entries) ∧ (.text "solver", value) ∈ entries

/-- The file has this value under a key of the mapping under `solver`. -/
def Says (key : String) (value : Document) : Prop :=
  ∃ entries, source.HasSolver (.mapping entries) ∧ (.text key, value) ∈ entries

theorem HasSolver.unique {source : SettingsSource} {value other : Document} (has : source.HasSolver value)
    (also : source.HasSolver other) : value = other := by
  obtain ⟨bytes, entries, isThere, reads, inside⟩ := has
  obtain ⟨same, again, isSame, readsAgain, isInside⟩ := also
  cases isThere.symm.trans isSame
  cases reads.symm.trans readsAgain
  exact (source.reader.textsOnce _ entries reads).1.unique "solver" value other inside isInside

theorem HasSolver.textsOnce {source : SettingsSource} {entries : List (Document × Document)}
    (has : source.HasSolver (.mapping entries)) : TextsOnce entries := by
  obtain ⟨bytes, outer, -, reads, inside⟩ := has
  exact (source.reader.textsOnce _ outer reads).2 _ inside entries rfl

theorem Says.unique {source : SettingsSource} {key : String} {value other : Document}
    (told : source.Says key value) (also : source.Says key other) : value = other := by
  obtain ⟨entries, has, inside⟩ := told
  obtain ⟨others, isOther, isInside⟩ := also
  cases has.unique isOther
  exact has.textsOnce.unique key value other inside isInside

-- What is no mapping counts as an empty one if it is false, and is refused else.
theorem section?_ok (path : String) (document : Document) (entries : List (Document × Document))
    (loads : section? path document = .ok entries) :
    ∃ values solver, document = .mapping values ∧ Document.entryOf? "solver" values = some solver ∧
      (solver = .mapping entries ∨ (∀ others, solver ≠ .mapping others) ∧ entries = []) := by
  have nowhere (counts : Bool) :
      (if counts = true then none else some []).bind (Document.entryOf? "solver") = none := by
    cases counts <;> rfl
  cases document with
  | mapping values =>
      simp only [section?, Option.bind_some] at loads
      cases found : Document.entryOf? "solver" values with
      | none =>
          rw [found] at loads
          cases loads
      | some solver =>
          rw [found] at loads
          refine ⟨values, solver, rfl, found, ?_⟩
          cases solver with
          | mapping others =>
              cases loads
              exact Or.inl rfl
          | _ =>
              dsimp only at loads
              split at loads
              · cases loads
              · cases loads
                exact Or.inr ⟨fun _ same => (by cases same), rfl⟩
  | _ =>
      simp only [section?, nowhere] at loads
      cases loads

/-- What a file says is what was loaded. -/
theorem says_iff (config : LoadedConfig) (loads : source.load = .ok config) (key : String) (value : Document) :
    source.Says key value ↔ Document.entryOf? key config.entries = some value := by
  unfold load at loads
  cases isThere : source.contents with
  | none =>
      have isEmpty : config.entries = [] := by
        rw [isThere] at loads
        dsimp only at loads
        split at loads
        · cases loads
        · cases loads
          rfl
      rw [isEmpty]
      refine iff_of_false ?_ (by simp [Document.entryOf?])
      rintro ⟨_, ⟨bytes, _, isBytes, -⟩, -⟩
      cases isThere.symm.trans isBytes
  | some bytes =>
      rw [isThere] at loads
      obtain ⟨document, reads, loads⟩ := bind_ok loads
      obtain ⟨entries, isSection, loads⟩ := bind_ok loads
      cases loads
      obtain ⟨values, solver, rfl, found, isSolver⟩ := section?_ok source.path document entries isSection
      have once := (source.reader.textsOnce _ values reads).1
      have has : source.HasSolver solver :=
        ⟨bytes, values, isThere, reads, (Document.entryOf?_eq_some_iff values once "solver" solver).mp found⟩
      rcases isSolver with rfl | ⟨noMapping, rfl⟩
      · rw [Document.entryOf?_eq_some_iff entries has.textsOnce]
        constructor
        · rintro ⟨others, isOther, inside⟩
          cases has.unique isOther
          exact inside
        · exact fun inside => ⟨entries, has, inside⟩
      · refine iff_of_false ?_ (by simp [Document.entryOf?])
        rintro ⟨others, isOther, -⟩
        exact noMapping others (has.unique isOther)

end SettingsSource

end LinearProgram
