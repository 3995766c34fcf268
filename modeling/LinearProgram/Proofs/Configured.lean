import LinearProgram.Proofs.Setters
import LinearProgram.Yaml.Reader

/-!
Settings from a configuration. Each of its values that is fit is applied whatever happens to the others, and
what it leaves out stays as it was: a configuration without a time limit does not take one away.
-/

namespace LinearProgram

namespace LoadedSettings

variable (loaded : LoadedSettings)

def gap? : Option Binary64 := (some loaded.gap).filter fun gap => (Value.float gap).IsGap

def limit? : Option Binary64 := loaded.timeLimit.filter fun limit => (Value.float limit).IsTimeLimit

def IsFit : Prop :=
  (Value.float loaded.gap).IsGap ∧ ∀ limit, loaded.timeLimit = some limit → (Value.float limit).IsTimeLimit

instance : Decidable loaded.IsFit :=
  decidable_of_iff ((Value.float loaded.gap).IsGap ∧
      ∀ limit ∈ loaded.timeLimit, (Value.float limit).IsTimeLimit) Iff.rfl

def exactly : Settings := { presolve := loaded.presolve, gap := loaded.gap, timeLimit := loaded.timeLimit }

end LoadedSettings

namespace Settings

variable (settings : Settings)

theorem setGap_float (x : Binary64) :
    (settings.setGap (.float x)).accepted = .ok (decide (Value.float x).IsGap) ∧
      (settings.setGap (.float x)).settings = { settings with
        gap := ((some x).filter fun gap => (Value.float gap).IsGap).getD settings.gap } := by
  by_cases isGap : (Value.float x).IsGap
  · have accepts := (acceptsGap_iff _).mpr isGap
    simp only [setGap, accepts, if_true, isGap, decide_true, Option.filter_some]
    exact ⟨rfl, rfl⟩
  · have refuses : acceptsGap (.float x) = false := by
      rw [← Bool.not_eq_true, acceptsGap_iff]
      exact isGap
    simp only [setGap, refuses, Bool.false_eq_true, if_false, isGap, decide_false, Option.filter_some]
    exact ⟨rfl, rfl⟩

theorem setTimeLimit_float (x : Binary64) :
    (settings.setTimeLimit (.float x)).accepted = .ok (decide (Value.float x).IsTimeLimit) ∧
      (settings.setTimeLimit (.float x)).settings = { settings with
        timeLimit := ((some x).filter fun limit => (Value.float limit).IsTimeLimit).or settings.timeLimit } := by
  by_cases isLimit : (Value.float x).IsTimeLimit
  · have accepts := (acceptsTimeLimit_iff _).mpr isLimit
    simp only [setTimeLimit, accepts, if_true, isLimit, decide_true, Option.filter_some]
    exact ⟨rfl, rfl⟩
  · have refuses : acceptsTimeLimit (.float x) = false := by
      rw [← Bool.not_eq_true, acceptsTimeLimit_iff]
      exact isLimit
    simp only [setTimeLimit, refuses, Bool.false_eq_true, if_false, isLimit, decide_false, Option.filter_some]
    exact ⟨rfl, rfl⟩

theorem andThen_ok (first : Tuned) (next : Settings → Tuned) (accepted later : Bool)
    (isFirst : first.accepted = .ok accepted) (isNext : (next first.settings).accepted = .ok later) :
    (andThen first next).accepted = .ok (later && accepted) ∧
      (andThen first next).settings = (next first.settings).settings := by
  unfold andThen
  rw [isFirst]
  dsimp only
  rw [isNext]
  exact ⟨rfl, rfl⟩

/-- Applying loaded settings is no fault, and applies each value that is fit. -/
theorem configure_loaded (loaded : LoadedSettings) :
    (settings.configure loaded.toConfig).accepted = .ok (decide loaded.IsFit) ∧
      (settings.configure loaded.toConfig).settings =
        { presolve := loaded.presolve, gap := loaded.gap?.getD settings.gap
          timeLimit := loaded.limit?.or settings.timeLimit } := by
  obtain ⟨presolve, gap, timeLimit⟩ := loaded
  -- presolve and the gap
  obtain ⟨takesGap, withGap⟩ := setGap_float { settings with presolve } gap
  obtain ⟨takesBoth, withBoth⟩ := andThen_ok (settings.setPresolve (.bool presolve))
    (fun s => s.setGap (.float gap)) true _ rfl takesGap
  replace withBoth := withBoth.trans withGap
  cases timeLimit with
  | none =>
      refine ⟨takesBoth.trans ?_, withBoth⟩
      simp [LoadedSettings.IsFit]
  | some limit =>
      unfold configure LoadedSettings.toConfig
      dsimp only [Option.map_some, Option.getD_some]
      generalize andThen (settings.setPresolve (.bool presolve)) (fun s => s.setGap (.float gap)) = both at *
      obtain ⟨takesLimit, withLimit⟩ := both.settings.setTimeLimit_float limit
      obtain ⟨takes, result⟩ := andThen_ok both (fun s => s.setTimeLimit (.float limit)) _ _ takesBoth takesLimit
      refine ⟨takes.trans ?_, ?_⟩
      · simp [LoadedSettings.IsFit, Bool.and_comm]
      · rw [result, withLimit, withBoth]
        rfl

end Settings

namespace LoadedSettings

variable (loaded : LoadedSettings)

theorem gap?_of_fit (fit : loaded.IsFit) : loaded.gap? = some loaded.gap := by
  rw [gap?, Option.filter_some, if_pos (decide_eq_true fit.1)]

theorem limit?_of_fit (fit : loaded.IsFit) : loaded.limit? = loaded.timeLimit := by
  unfold limit?
  cases given : loaded.timeLimit with
  | none => rfl
  | some limit => rw [Option.filter_some, if_pos (decide_eq_true (fit.2 limit given))]

end LoadedSettings

/-- The tuning calls tell the settings. -/
theorem Settings.tunings_inj (settings others : Settings) (presolve : settings.presolve = others.presolve)
    (gap : settings.gap = others.gap) :
    settings.tuningCalls.filterMap Call.tuning? = others.tuningCalls.filterMap Call.tuning? ↔
      settings.timeLimit = others.timeLimit := by
  rw [tunings_tuningCalls, tunings_tuningCalls, presolve, gap, List.append_cancel_left_eq]
  cases settings.timeLimit <;> cases others.timeLimit <;> simp

namespace Session

/-- What configuring a solver with loaded settings answers and leaves. -/
theorem step_configure_loaded (session : Session) (index : Nat) (solver : Solver)
    (there : session.solvers[index]? = some solver) (loaded : LoadedSettings) :
    (session.step (.configure index (.values loaded.toConfig))).2.answer =
        .ok (.flag (decide loaded.IsFit)) ∧
      (session.step (.configure index (.values loaded.toConfig))).1.solvers[index]? = some { solver with
        settings := { presolve := loaded.presolve, gap := loaded.gap?.getD solver.settings.gap
                      timeLimit := loaded.limit?.or solver.settings.timeLimit } } := by
  obtain ⟨inside, -⟩ := List.getElem?_eq_some_iff.mp there
  obtain ⟨accepted, settings⟩ := solver.settings.configure_loaded loaded
  simp only [step, configValues, configure, tune, session.solverAt_of_solver index solver there, accepted,
    settings, setSolver]
  exact ⟨rfl, List.getElem?_set_self inside⟩

/-- An accepted configuration determines presolve and the gap, and the time limit if it has one. Without one
the time limit stays, so that two solvers with the same configuration send the same settings exactly when it
has a time limit or they had the same before. -/
theorem accepted_config_determines (session elsewhere : Session) (index other : Nat) (solver rival : Solver)
    (there : session.solvers[index]? = some solver) (isOther : elsewhere.solvers[other]? = some rival)
    (loaded : LoadedSettings)
    (accepted : (session.step (.configure index (.values loaded.toConfig))).2.answer = .ok (.flag true)) :
    let next := (session.step (.configure index (.values loaded.toConfig))).1
    let changed := elsewhere.step (.configure other (.values loaded.toConfig))
    (∃ configured, next.solvers[index]? = some configured ∧
      configured.settings = { loaded.exactly with
        timeLimit := loaded.timeLimit.or solver.settings.timeLimit } ∧
      (configured.settings = loaded.exactly ↔
        loaded.timeLimit ≠ none ∨ solver.settings.timeLimit = none)) ∧
    changed.2.answer = .ok (.flag true) ∧
    ∀ target goal engine answers,
      let calls := (next.step (.solve index target engine)).2.calls
      let others := (changed.1.step (.solve other goal answers)).2.calls
      calls.any Call.isOptimize = true → others.any Call.isOptimize = true →
        (calls.filterMap Call.tuning? = others.filterMap Call.tuning? ↔
          loaded.timeLimit ≠ none ∨ solver.settings.timeLimit = rival.settings.timeLimit) := by
  intro next changed
  obtain ⟨answer, configured⟩ := session.step_configure_loaded index solver there loaded
  obtain ⟨answers, others⟩ := elsewhere.step_configure_loaded other rival isOther loaded
  have fit : loaded.IsFit := by
    rw [answer] at accepted
    simpa using accepted
  rw [loaded.gap?_of_fit fit, loaded.limit?_of_fit fit] at configured others
  have kept (before after : Option Binary64) : loaded.timeLimit.or before = loaded.timeLimit.or after ↔
      loaded.timeLimit ≠ none ∨ before = after := by
    cases loaded.timeLimit <;> simp
  refine ⟨⟨_, configured, rfl, ?_⟩, ?_, ?_⟩
  · have same := kept solver.settings.timeLimit none
    rw [Option.or_none] at same
    simpa [LoadedSettings.exactly] using same
  · rw [show changed.2.answer = _ from answers, decide_eq_true fit]
  · intro target goal engine replies calls rivals reached too
    rw [(next.tunings_of_solve index target engine _ configured reached).1,
      (changed.1.tunings_of_solve other goal replies _ others too).1]
    refine (Settings.tunings_inj _ _ ?_ ?_).trans (kept solver.settings.timeLimit rival.settings.timeLimit)
    · rfl
    · rfl

def limited : Session :=
  { problems := [{}], solvers := [{ settings := { timeLimit := some (.ofInt 60) } }, {}] }

def boundedConfig : LoadedSettings := { presolve := false, gap := .infinity false, timeLimit := some .zero }

theorem limited_configured :
    let next := limited.step (.configure 0 (.values boundedConfig.toConfig))
    let changed := limited.step (.configure 1 (.values boundedConfig.toConfig))
    next.2.answer = .ok (.flag true) ∧
      (∃ configured, next.1.solvers[0]? = some configured ∧ configured.settings = boundedConfig.exactly) ∧
      (next.1.step (.solve 0 0 plainAnswers)).2.calls.filterMap Call.tuning? =
        (changed.1.step (.solve 1 0 plainAnswers)).2.calls.filterMap Call.tuning? := by
  intro next changed
  have fit : boundedConfig.IsFit := by decide +kernel
  have accepted : next.2.answer = .ok (.flag true) := by
    rw [(limited.step_configure_loaded 0 _ rfl boundedConfig).1, decide_eq_true fit]
  have bounded : boundedConfig.timeLimit ≠ none := by decide
  obtain ⟨⟨configured, there, -, exact⟩, -, same⟩ :=
    accepted_config_determines limited limited 0 1 _ _ rfl rfl boundedConfig accepted
  exact ⟨accepted, ⟨configured, there, exact.mpr (Or.inl bounded)⟩,
    (same 0 0 plainAnswers plainAnswers (by decide +kernel) (by decide +kernel)).mpr (Or.inl bounded)⟩

def unlimitedConfig : LoadedSettings := { presolve := true, gap := .zero, timeLimit := none }

/-- A configuration without a time limit can be accepted and leave one. -/
theorem accepted_config_leaves_limit :
    let session := (Session.run {} [.solver false, .setTimeLimit 0 (.int 60)]).1
    let configured := session.step (.configure 0 (.values unlimitedConfig.toConfig))
    configured.2.answer = .ok (.flag true) ∧ configured.1.settingsAt 0 ≠ unlimitedConfig.exactly := by
  intro session configured
  have fit : unlimitedConfig.IsFit := by decide +kernel
  have there : session.solvers[0]?.isSome = true := by decide +kernel
  obtain ⟨solver, isSolver⟩ := Option.isSome_iff_exists.mp there
  have answer := (session.step_configure_loaded 0 solver isSolver unlimitedConfig).1
  rw [decide_eq_true fit] at answer
  exact ⟨answer, by decide +kernel⟩

/-- Loaded settings make a solver whatever they are: presolve as loaded, the gap if it is at least zero and
else zero, the time limit if there is one from zero to the greatest and else none. -/
theorem loaded_config_makes_solver (config : LoadedConfig) (loaded : LoadedSettings)
    (gets : config.settings = .ok loaded) (session : Session) :
    ∃ made : Settings,
      (session.addSolver (.ok loaded.toConfig)).2.answer = .ok (.settings made) ∧
      (session.addSolver (.ok loaded.toConfig)).1 =
        { session with solvers := session.solvers ++ [{ settings := made }] } ∧
      made.presolve = loaded.presolve ∧
      made.gap = (if (Value.float loaded.gap).IsGap then loaded.gap else .zero) ∧
      made.timeLimit = loaded.timeLimit.filter (fun limit => (Value.float limit).IsTimeLimit) ∧
      ∀ source : SettingsSource, source.load = .ok config →
        session.step (.solverFromConfig (.source source)) = session.addSolver (.ok loaded.toConfig) := by
  obtain ⟨accepted, settings⟩ := Settings.configure_loaded {} loaded
  refine ⟨(Settings.configure {} loaded.toConfig).settings, ?_, ?_, ?_, ?_, ?_, ?_⟩
  · simp only [addSolver, accepted]
  · simp only [addSolver, accepted]
  · rw [settings]
  · rw [settings, LoadedSettings.gap?, Option.filter_some]
    by_cases isGap : (Value.float loaded.gap).IsGap <;> simp [isGap]
  · rw [settings, Option.or_none]
    rfl
  · intro source loads
    have values : configValues (.source source) = .ok loaded.toConfig := by
      rw [configValues, loads]
      change (config.settings >>= fun loaded => pure loaded.toConfig) = _
      rw [gets]
      rfl
    rw [step, values]

def strayConfig : SettingsSource where
  path := "solver.yaml"
  required := true
  contents := some "solver:\n  presolve: off\n  mip_gap: -1\n".toUTF8.toList
  reader := Yaml.reader
  environment := { timeLimit := some "nan" }

theorem strayConfig_makes_solver : ∃ made : Settings,
    (Session.step {} (.solverFromConfig (.source strayConfig))).2.answer = .ok (.settings made) ∧
      made.presolve = false ∧ made.gap = .zero ∧ made.timeLimit = none := by
  obtain ⟨config, loads⟩ := ok_of_isOk strayConfig.load (by decide +kernel)
  have settings : (strayConfig.load >>= (·.settings)).toOption =
      some { presolve := false, gap := .ofInt (-1), timeLimit := some .nan } := by decide +kernel
  rw [loads] at settings
  obtain ⟨made, answers, -, presolve, gap, timeLimit, steps⟩ :=
    loaded_config_makes_solver config _ (ok_of_toOption _ _ settings) {}
  rw [if_neg (by decide +kernel)] at gap
  rw [steps strayConfig loads]
  exact ⟨made, answers, presolve, gap, timeLimit.trans (by decide +kernel)⟩

end Session

end LinearProgram
