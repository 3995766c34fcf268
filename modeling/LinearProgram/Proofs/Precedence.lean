import LinearProgram.Proofs.Configured
import LinearProgram.Proofs.Documents

/-!
Which of its sources a setting comes from. A text of the environment comes before the file, and the file before
the default, for each setting by itself: what stands elsewhere for the other settings does not count.
-/

namespace LinearProgram

/-- The settings of a configuration, in the order in which they are read. -/
inductive Setting where
  | presolve
  | gap
  | timeLimit
  deriving DecidableEq

namespace Setting

def Result : Setting → Type
  | presolve => Bool
  | gap => Binary64
  | timeLimit => Option Binary64

def key : Setting → String
  | presolve => "presolve"
  | gap => "mip_gap"
  | timeLimit => "time_limit"

def builtIn : (setting : Setting) → setting.Result
  | presolve => true
  | gap => Binary64.zero
  | timeLimit => none

def text? : Setting → Environment → Option String
  | presolve, environment => environment.presolve
  | gap, environment => environment.gap
  | timeLimit, environment => environment.timeLimit

def parse : (setting : Setting) → Document → Except Fault setting.Result
  | presolve, value => value.toBool
  | gap, value => value.toBinary64
  | timeLimit, .null => .ok none
  | timeLimit, value => value.toBinary64.map some

def get : (setting : Setting) → LoadedConfig → Except Fault setting.Result
  | presolve, config => config.presolve
  | gap, config => config.gap
  | timeLimit, config => config.timeLimit

def of : (setting : Setting) → LoadedSettings → setting.Result
  | presolve, loaded => loaded.presolve
  | gap, loaded => loaded.gap
  | timeLimit, loaded => loaded.timeLimit

def before : Setting → List Setting
  | presolve => []
  | gap => [presolve]
  | timeLimit => [presolve, gap]

variable (setting : Setting) (config : LoadedConfig) (environment : Environment)

def given? : Option Document :=
  ((LoadedConfig.override? (setting.text? environment)).map fun text => .text text).or
    (Document.entryOf? setting.key config.entries)

-- A setting is what its value stands for. The default is one that could be given too.
theorem get_eq :
    setting.get { config with environment } =
      match setting.given? config environment with
      | some value => setting.parse value
      | none => .ok setting.builtIn := by
  cases setting with
  | presolve =>
      simp only [get, LoadedConfig.presolve, LoadedConfig.chosen, given?, text?, key]
      cases LoadedConfig.override? environment.presolve with
      | some text => rfl
      | none => cases Document.entryOf? "presolve" config.entries <;> rfl
  | gap =>
      simp only [get, LoadedConfig.gap, LoadedConfig.chosen, given?, text?, key]
      cases LoadedConfig.override? environment.gap with
      | some text => rfl
      | none => cases Document.entryOf? "mip_gap" config.entries <;> rfl
  | timeLimit =>
      simp only [get, LoadedConfig.timeLimit, LoadedConfig.chosen, given?, text?, key]
      cases LoadedConfig.override? environment.timeLimit with
      | some text => rfl
      | none =>
          cases Document.entryOf? "time_limit" config.entries with
          | none => rfl
          | some value =>
              cases value with
              | scalar scalar => cases scalar <;> rfl
              | _ => rfl

theorem given?_of_text (text : String) (isText : setting.text? environment = some text) (given : text ≠ "") :
    setting.given? config environment = some (.text text) := by
  have nonempty : (!text.isEmpty) = true := by simpa using given
  simp [given?, LoadedConfig.override?, isText, Option.filter_some, nonempty]

theorem given?_of_unset (unset : ∀ text, setting.text? environment = some text → text = "") :
    setting.given? config environment = Document.entryOf? setting.key config.entries := by
  unfold given? LoadedConfig.override?
  cases isText : setting.text? environment with
  | none => rfl
  | some text =>
      cases unset text isText
      rfl

end Setting

namespace LoadedConfig

variable (config : LoadedConfig)

theorem settings_ok_iff (loaded : LoadedSettings) :
    config.settings = .ok loaded ↔ ∀ setting : Setting, setting.get config = .ok (setting.of loaded) := by
  constructor
  · intro gets
    obtain ⟨presolve, isPresolve, gets⟩ := bind_ok gets
    obtain ⟨gap, isGap, gets⟩ := bind_ok gets
    obtain ⟨timeLimit, isTimeLimit, gets⟩ := bind_ok gets
    cases gets
    intro setting
    cases setting with
    | presolve => exact isPresolve
    | gap => exact isGap
    | timeLimit => exact isTimeLimit
  · intro each
    have presolve : config.presolve = .ok loaded.presolve := each .presolve
    have gap : config.gap = .ok loaded.gap := each .gap
    have timeLimit : config.timeLimit = .ok loaded.timeLimit := each .timeLimit
    rw [settings, presolve, gap, timeLimit]
    rfl

-- The first setting that fails is the one that counts.
theorem settings_error_iff (fault : Fault) :
    config.settings = .error fault ↔ ∃ setting : Setting, setting.get config = .error fault ∧
      ∀ earlier ∈ setting.before, ∃ result, earlier.get config = .ok result := by
  rw [settings, bind_error_iff]
  simp only [bind_error_iff]
  constructor
  · rintro (isPresolve | ⟨presolve, isPresolve, isGap | ⟨gap, isGap, isTimeLimit | ⟨_, _, impossible⟩⟩⟩)
    · exact ⟨.presolve, isPresolve, fun earlier inside => by cases inside⟩
    · refine ⟨.gap, isGap, fun earlier inside => ?_⟩
      cases List.mem_singleton.mp inside
      exact ⟨presolve, isPresolve⟩
    · refine ⟨.timeLimit, isTimeLimit, fun earlier inside => ?_⟩
      rcases List.mem_pair.mp inside with rfl | rfl
      · exact ⟨presolve, isPresolve⟩
      · exact ⟨gap, isGap⟩
    · cases impossible
  · rintro ⟨setting, fails, earlier⟩
    cases setting with
    | presolve => exact Or.inl fails
    | gap =>
        obtain ⟨presolve, isPresolve⟩ := earlier .presolve (by simp [Setting.before])
        exact Or.inr ⟨presolve, isPresolve, Or.inl fails⟩
    | timeLimit =>
        obtain ⟨presolve, isPresolve⟩ := earlier .presolve (by simp [Setting.before])
        obtain ⟨gap, isGap⟩ := earlier .gap (by simp [Setting.before])
        exact Or.inr ⟨presolve, isPresolve, Or.inr ⟨gap, isGap, Or.inl fails⟩⟩

end LoadedConfig

namespace SettingsSource

variable (source : SettingsSource) (config : LoadedConfig)

theorem environment_of_load (loads : source.load = .ok config) : config.environment = source.environment := by
  unfold load at loads
  split at loads
  · split at loads
    · cases loads
    · cases loads
      rfl
  · obtain ⟨document, -, loads⟩ := bind_ok loads
    obtain ⟨entries, -, loads⟩ := bind_ok loads
    cases loads
    rfl

-- What a file says about a setting is all that it contributes to it.
theorem given?_congr (loads : source.load = .ok config) (rival : SettingsSource) (other : LoadedConfig)
    (loadsToo : rival.load = .ok other) (setting : Setting) (environment another : Environment)
    (sameText : setting.text? environment = setting.text? another)
    (sameSays : ∀ value, source.Says setting.key value ↔ rival.Says setting.key value) :
    setting.given? config environment = setting.given? other another := by
  have sameEntry : Document.entryOf? setting.key config.entries = Document.entryOf? setting.key other.entries := by
    refine Option.ext fun value => ?_
    rw [← source.says_iff config loads, sameSays, rival.says_iff other loadsToo]
  rw [Setting.given?, Setting.given?, sameText, sameEntry]

/-- Each setting comes from the first of its sources that has it. A text of the environment that is not empty
counts alone, whatever the file says; without one the setting is what the file says under its key, where null is a
value like others, and the default if the file says nothing, has nothing under `solver` or is missing. Nothing else
counts: with the same text and the same value under its key a setting is the same, whatever there is for the other
two. All settings together are the three of them, or the first of their faults. -/
theorem setting_precedence (loads : source.load = .ok config) :
    (∀ (setting : Setting) (environment : Environment),
      let read := { config with environment }
      (∀ text, setting.text? environment = some text → text ≠ "" →
        setting.get read = setting.parse (.text text)) ∧
      ((∀ text, setting.text? environment = some text → text = "") →
        (∀ value, source.Says setting.key value → setting.get read = setting.parse value) ∧
        ((∀ value, ¬ source.Says setting.key value) → setting.get read = .ok setting.builtIn))) ∧
    (∀ key value other, source.Says key value → source.Says key other → value = other) ∧
    (source.contents = none ∨ source.HasSolver .null → ∀ key value, ¬ source.Says key value) ∧
    (∀ (setting : Setting) (rival : SettingsSource) (other : LoadedConfig) (environment another : Environment),
      rival.load = .ok other → setting.text? environment = setting.text? another →
      (∀ value, source.Says setting.key value ↔ rival.Says setting.key value) →
      setting.get { config with environment } = setting.get { other with environment := another }) ∧
    config.environment = source.environment ∧
    ∀ environment : Environment,
      let read := { config with environment }
      (∀ loaded, read.settings = .ok loaded ↔
        ∀ setting : Setting, setting.get read = .ok (setting.of loaded)) ∧
      ∀ fault, read.settings = .error fault ↔ ∃ setting : Setting, setting.get read = .error fault ∧
        ∀ earlier ∈ setting.before, ∃ result, earlier.get read = .ok result := by
  refine ⟨fun setting environment =>
      ⟨fun text isText given => ?_, fun unset => ⟨fun value told => ?_, fun untold => ?_⟩⟩,
    fun key value other told also => told.unique also, fun nothing key value told => ?_,
    fun setting rival other environment another loadsToo sameText sameSays => ?_,
    source.environment_of_load config loads,
    fun environment => ⟨LoadedConfig.settings_ok_iff _, LoadedConfig.settings_error_iff _⟩⟩
  · rw [setting.get_eq, setting.given?_of_text config environment text isText given]
  · rw [setting.get_eq, setting.given?_of_unset config environment unset,
      (source.says_iff config loads setting.key value).mp told]
  · have missing : Document.entryOf? setting.key config.entries = none :=
      Option.eq_none_iff_forall_ne_some.mpr fun value found =>
        untold value ((source.says_iff config loads setting.key value).mpr found)
    rw [setting.get_eq, setting.given?_of_unset config environment unset, missing]
  · obtain ⟨entries, has, -⟩ := told
    rcases nothing with missing | isNull
    · obtain ⟨bytes, -, isThere, -⟩ := has
      cases missing.symm.trans isThere
    · cases has.unique isNull
  · rw [setting.get_eq, setting.get_eq,
      source.given?_congr config loads rival other loadsToo setting environment another sameText sameSays]

def mixedConfig : SettingsSource where
  path := "solver.yaml"
  required := false
  contents := some "solver:\n  presolve: maybe\n  mip_gap: 0.25\n".toUTF8.toList
  reader := Yaml.reader
  environment := { presolve := some "On", timeLimit := some "" }

theorem mixedConfig_precedence :
    ∃ config, mixedConfig.load = .ok config ∧
      let read := { config with environment := mixedConfig.environment }
      Setting.presolve.get read = Document.toBool (.text "On") ∧
        (∃ value, mixedConfig.Says "mip_gap" value ∧ Setting.gap.get read = value.toBinary64) ∧
        Setting.timeLimit.get read = .ok none := by
  obtain ⟨config, loads⟩ := ok_of_isOk mixedConfig.load (by decide +kernel)
  have told_iff := mixedConfig.says_iff config loads
  have entry (key : String) : Document.entryOf? key config.entries =
      mixedConfig.load.toOption.bind fun loaded => Document.entryOf? key loaded.entries := by
    rw [loads]
    rfl
  obtain ⟨value, isValue⟩ : ∃ value, Document.entryOf? "mip_gap" config.entries = some value :=
    Option.isSome_iff_exists.mp (by rw [entry]; decide +kernel)
  have untold : Document.entryOf? "time_limit" config.entries = none :=
    Option.isNone_iff_eq_none.mp (by rw [entry]; decide +kernel)
  obtain ⟨settings, -⟩ := mixedConfig.setting_precedence config loads
  obtain ⟨overridden, -⟩ := settings .presolve mixedConfig.environment
  obtain ⟨-, gap⟩ := settings .gap mixedConfig.environment
  obtain ⟨-, timeLimit⟩ := settings .timeLimit mixedConfig.environment
  refine ⟨config, loads, overridden "On" rfl (by decide), ⟨value, (told_iff _ value).mpr isValue, ?_⟩, ?_⟩
  · exact (gap fun text isText => by cases isText).1 value ((told_iff _ value).mpr isValue)
  · refine (timeLimit fun text isText => by cases isText; rfl).2 fun other told => ?_
    cases untold.symm.trans ((told_iff _ other).mp told)

end SettingsSource

end LinearProgram
