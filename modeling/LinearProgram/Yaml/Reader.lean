import LinearProgram.Config.Loader
import LinearProgram.Yaml.Node

/-!
Reading settings from YAML files. In every mapping of a YAML document a text is a key once, since a key
that comes again takes the place of the one before.
-/

namespace LinearProgram

namespace Yaml

section Putting

variable (key value : Document)

-- An entry was there before, or has the new value under the new key or in the place of one that was there.
theorem mem_putMapping (entries : List (Document × Document)) (entry : Document × Document)
    (inside : entry ∈ putMapping key value entries) :
    entry ∈ entries ∨ entry.2 = value ∧ (entry.1 = key ∨ ∃ old ∈ entries, old.1 = entry.1) := by
  induction entries with
  | nil =>
      cases List.mem_singleton.mp inside
      exact Or.inr ⟨rfl, Or.inl rfl⟩
  | cons first rest ih =>
      rw [putMapping] at inside
      split at inside
      · rcases List.mem_cons.mp inside with rfl | later
        · exact Or.inr ⟨rfl, Or.inr ⟨first, List.mem_cons_self, rfl⟩⟩
        · exact Or.inl (List.mem_cons_of_mem _ later)
      · rcases List.mem_cons.mp inside with rfl | later
        · exact Or.inl List.mem_cons_self
        · refine (ih later).imp (List.mem_cons_of_mem _) fun ⟨isNew, place⟩ => ⟨isNew, ?_⟩
          exact place.imp_right fun ⟨old, here, same⟩ => ⟨old, List.mem_cons_of_mem _ here, same⟩

theorem sameKey_text (key : String) : sameKey (.text key) (.text key) = true := by
  simp [sameKey, Scalar.value, Value.equals]

-- A text that is a key already takes the new value in its place.
theorem textsOnce_putMapping (entries : List (Document × Document)) (once : TextsOnce entries) :
    TextsOnce (putMapping key value entries) := by
  induction entries with
  | nil => exact List.pairwise_singleton _ _
  | cons first rest ih =>
      obtain ⟨apart, onceLater⟩ := List.pairwise_cons.mp once
      rw [putMapping]
      split
      next => exact List.pairwise_cons.mpr ⟨apart, onceLater⟩
      next differs =>
        refine List.pairwise_cons.mpr ⟨fun entry inside text isText same => ?_, ih onceLater⟩
        rcases mem_putMapping key value rest entry inside with there | ⟨-, isKey | ⟨old, here, isOld⟩⟩
        · exact apart entry there text isText same
        · rw [isText, ← isKey, same] at differs
          exact differs (sameKey_text text)
        · exact apart old here text isText (isOld.trans same)

end Putting

def FromNode (document : Document) : Prop := ∃ node : Node, node.document = .ok document

structure IsMapping (entries : List (Document × Document)) : Prop where
  once : TextsOnce entries
  values : ∀ entry ∈ entries, FromNode entry.2

theorem isMapping_foldl (given entries : List (Document × Document))
    (values : ∀ entry ∈ given, FromNode entry.2) (isMapping : IsMapping entries) :
    IsMapping (given.foldl (fun built (key, value) => putMapping key value built) entries) := by
  induction given generalizing entries with
  | nil => exact isMapping
  | cons first rest ih =>
      refine ih _ (fun entry inside => values entry (List.mem_cons_of_mem _ inside)) ⟨?_, ?_⟩
      · exact textsOnce_putMapping first.1 first.2 entries isMapping.once
      · intro entry inside
        rcases mem_putMapping first.1 first.2 entries entry inside with there | ⟨isNew, -⟩
        · exact isMapping.values entry there
        · exact isNew ▸ values first List.mem_cons_self

theorem fromNode_entryDocuments (entries : List (Node × Node)) (built : List (Document × Document))
    (values : entryDocuments entries = .ok built) : ∀ entry ∈ built, FromNode entry.2 := by
  induction entries generalizing built with
  | nil =>
      rw [entryDocuments] at values
      cases values
      exact fun entry inside => by cases inside
  | cons first rest ih =>
      rw [entryDocuments] at values
      obtain ⟨entry, isEntry, values⟩ := bind_ok values
      obtain ⟨later, isLater, values⟩ := bind_ok values
      cases values
      rw [entryDocument] at isEntry
      obtain ⟨key, -, isEntry⟩ := bind_ok isEntry
      obtain ⟨value, isValue, isEntry⟩ := bind_ok isEntry
      cases isEntry
      intro entry inside
      rcases List.mem_cons.mp inside with rfl | inLater
      · exact ⟨first.2, isValue⟩
      · exact ih later isLater entry inLater

theorem isMapping_of_fromNode (entries : List (Document × Document)) (isNode : FromNode (.mapping entries)) :
    IsMapping entries := by
  obtain ⟨node, isDocument⟩ := isNode
  cases node with
  | scalar text plain =>
      rw [Node.document] at isDocument
      obtain ⟨scalar, -, isDocument⟩ := bind_ok isDocument
      cases isDocument
  | sequence items =>
      rw [Node.document] at isDocument
      obtain ⟨documents, -, isDocument⟩ := bind_ok isDocument
      cases isDocument
  | mapping given sound =>
      rw [Node.document] at isDocument
      obtain ⟨built, isBuilt, isDocument⟩ := bind_ok isDocument
      cases isDocument
      exact isMapping_foldl built [] (fromNode_entryDocuments given built isBuilt)
        ⟨List.Pairwise.nil, fun entry inside => by cases inside⟩

-- The whole text may hold no document, which is no mapping.
theorem isMapping_of_read (text : Text.Reading) (entries : List (Document × Document))
    (reads : read text = .ok (.mapping entries)) : IsMapping entries := by
  unfold read at reads
  dsimp only at reads
  split at reads
  · cases reads
  · cases reads
  next node _ =>
    split at reads
    · cases reads
    · exact isMapping_of_fromNode entries ⟨node, reads⟩

def reader : Reader where
  read := read
  textsOnce := fun text entries reads =>
    let isMapping := isMapping_of_read text entries reads
    ⟨isMapping.once, fun entry inside inner isInner =>
      (isMapping_of_fromNode inner (isInner ▸ isMapping.values entry inside)).once⟩

end Yaml

structure ConfigSource where
  path : String
  required : Bool
  contents : Option (List UInt8)
  environment : Environment := {}

namespace ConfigSource

def source (file : ConfigSource) : SettingsSource where
  path := file.path
  required := file.required
  contents := file.contents
  reader := Yaml.reader
  environment := file.environment

instance : Coe ConfigSource SettingsSource := ⟨source⟩

def load (file : ConfigSource) : Except Fault LoadedConfig := file.source.load

end ConfigSource

def defaultConfigFile : String :=
  "solver:\n  presolve: true\n  mip_gap: 0.0\n  time_limit: null\n"

end LinearProgram
