import LinearProgram.Proofs.NumberLine
import LinearProgram.Proofs.Tuning
import Mathlib.Tactic.NormNum

/-!
What a setter answers. It takes its value, or rejects it and leaves all as it was, except that a gap may be a
whole number too large to convert, and that a rejected value may hold a whole number too long to be reported:
then it raises.
-/

namespace LinearProgram

section Conversion

theorem isGap_int_iff (n : ℤ) : (Value.int n).IsGap ↔ 0 ≤ n := by
  have point : (Value.int n).line? = some (((n : ℚ) : WithTop ℚ) : Line) := rfl
  unfold Value.IsGap
  rw [point]
  simp only [Option.some.injEq, exists_eq_left', WithBot.coe_nonneg, WithTop.coe_nonneg, Int.cast_nonneg_iff]

theorem toBinary64_of_number (value : Value) (x : Number) (isNumber : value.number? = some x) :
    value.toBinary64 = match x.toBinary64? with
      | some y => .ok y
      | none => .error .wholeNumberTooLarge := by
  unfold Value.toBinary64
  split
  next => cases isNumber
  next => cases converted : x.toBinary64? <;> simp only [isNumber, converted]

theorem toBinary64_int (n : ℤ) : (Value.int n).toBinary64 =
    if (Binary64.ofInt n).isInfinite then .error .wholeNumberTooLarge else .ok (Binary64.ofInt n) := by
  have converts : (Number.int n).toBinary64? =
      if (Binary64.ofInt n).isInfinite then none else some (Binary64.ofInt n) := rfl
  rw [toBinary64_of_number _ _ rfl, converts]
  cases (Binary64.ofInt n).isInfinite <;> rfl

-- A whole number and its opposite are too large alike.
theorem isInfinite_ofInt (n : ℤ) : (Binary64.ofInt n).isInfinite = true ↔ Binary64.overflow ≤ n.natAbs := by
  rw [← isInfinite_ofInt_iff]
  simp only [Binary64.ofInt, Binary64.ofRatio, Binary64.ofRank, Binary64.isInfinite, Int.natAbs_natCast]

namespace Value

variable (value : Value)

def IsNumeric : Prop := ∃ x, value.number? = some x

def IsOversized : Prop := ∃ n : ℤ, value = .int n ∧ Binary64.overflow ≤ n.natAbs

def IsHuge : Prop := ∃ n : ℤ, value = .int n ∧ (Binary64.overflow : ℤ) ≤ n

theorem toBinary64_of_isOversized (oversized : value.IsOversized) :
    value.toBinary64 = .error .wholeNumberTooLarge := by
  obtain ⟨n, rfl, large⟩ := oversized
  rw [toBinary64_int, if_pos ((isInfinite_ofInt n).mpr large)]

/-- A number converts unless it is a whole one that is too large. -/
theorem toBinary64_of_isNumeric (numeric : value.IsNumeric) (moderate : ¬ value.IsOversized) :
    ∃ x, value.toBinary64 = .ok x := by
  obtain ⟨x, isNumber⟩ := numeric
  cases value with
  | number x =>
      cases x with
      | int n =>
          have finite : ¬ (Binary64.ofInt n).isInfinite = true := fun infinite =>
            moderate ⟨n, rfl, (isInfinite_ofInt n).mp infinite⟩
          exact ⟨_, (toBinary64_int n).trans (if_neg finite)⟩
      | float x => exact ⟨x, rfl⟩
  | bool b => exact ok_of_isOk _ (by cases b <;> decide +kernel)
  | _ => cases isNumber

theorem isGap_of_isHuge (huge : value.IsHuge) : value.IsGap := by
  obtain ⟨n, rfl, large⟩ := huge
  exact (isGap_int_iff n).mpr ((Int.natCast_nonneg _).trans large)

theorem isHuge_iff : value.IsHuge ↔ value.IsGap ∧ value.IsOversized := by
  constructor
  · intro huge
    refine ⟨value.isGap_of_isHuge huge, ?_⟩
    obtain ⟨n, rfl, large⟩ := huge
    exact ⟨n, rfl, by omega⟩
  · rintro ⟨isGap, n, rfl, large⟩
    have nonnegative := (isGap_int_iff n).mp isGap
    exact ⟨n, rfl, by omega⟩

theorem toBinary64_of_isHuge (huge : value.IsHuge) : value.toBinary64 = .error .wholeNumberTooLarge :=
  value.toBinary64_of_isOversized (value.isHuge_iff.mp huge).2

/-- A number at least zero converts unless it is too large. -/
theorem toBinary64_of_isGap (isGap : value.IsGap) (moderate : ¬ value.IsHuge) :
    ∃ x, value.toBinary64 = .ok x := by
  have numeric : value.IsNumeric := by
    obtain ⟨a, point, -⟩ := isGap
    obtain ⟨x, isNumber, -⟩ := Option.bind_eq_some_iff.mp point
    exact ⟨x, isNumber⟩
  exact value.toBinary64_of_isNumeric numeric fun oversized => moderate (value.isHuge_iff.mpr ⟨isGap, oversized⟩)

theorem isGap_of_isTimeLimit (isTimeLimit : value.IsTimeLimit) : value.IsGap := by
  obtain ⟨a, point, atLeast, -⟩ := isTimeLimit
  exact ⟨a, point, atLeast⟩

theorem not_isHuge_of_isTimeLimit (isTimeLimit : value.IsTimeLimit) : ¬ value.IsHuge := by
  rintro ⟨n, rfl, large⟩
  obtain ⟨_, ⟨⟩, -, within⟩ := isTimeLimit
  have few : (n : ℚ) ≤ Settings.limitSeconds := by simpa using within
  have seconds : n < 2147484 := by
    have less : (n : ℚ) < 2147484 := few.trans_lt (by rw [Settings.limitSeconds]; norm_num)
    exact_mod_cast less
  have threshold : (2147484 : ℤ) ≤ Binary64.overflow := by decide +kernel
  exact absurd (threshold.trans large) seconds.not_ge

end Value

end Conversion

namespace SetterCall

/-- The value of the call is one that its setter is for: any presolve, a gap at least zero, a time limit from
zero to the greatest. -/
def IsFit : SetterCall → Prop
  | presolve _ => True
  | gap value => value.IsGap
  | timeLimit value => value.IsTimeLimit

def value : SetterCall → Value
  | presolve value | gap value | timeLimit value => value

inductive Sets : SetterCall → Settings → Settings → Prop
  | presolve (value : Value) (before : Settings) :
      Sets (.presolve value) before { before with presolve := value.isTruthy }
  | gap (value : Value) (before : Settings) (x : Binary64) (converts : value.toBinary64 = .ok x) :
      Sets (.gap value) before { before with gap := x }
  | timeLimit (value : Value) (before : Settings) (x : Binary64) (converts : value.toBinary64 = .ok x) :
      Sets (.timeLimit value) before { before with timeLimit := some x }

/-- The faults of a setter call: a fit gap that is too large to convert, and a value that is not fit and
holds a whole number too long to be reported. -/
inductive Raises : SetterCall → Fault → Prop
  | huge (value : Value) (isHuge : value.IsHuge) : Raises (.gap value) .wholeNumberTooLarge
  | long (call : SetterCall) (unfit : ¬ call.IsFit) (isLong : call.value.holdsLong = true) :
      Raises call (.tooManyDigits none)

inductive Outcome (call : SetterCall) (before : Settings) : Settings → Except Fault Bool → Prop
  | taken (fit : call.IsFit) (after : Settings) (sets : call.Sets before after) :
      Outcome call before after (.ok true)
  | rejected (unfit : ¬ call.IsFit) (short : call.value.holdsLong = false) :
      Outcome call before before (.ok false)
  | raised (fault : Fault) (raises : call.Raises fault) : Outcome call before before (.error fault)

variable (call : SetterCall) (settings : Settings)

theorem outcome_reject (value : Value) (notice : Notice) (unfit : ¬ call.IsFit) (isValue : call.value = value) :
    call.Outcome settings (settings.reject value notice).settings
      (settings.reject value notice).accepted := by
  subst isValue
  unfold Settings.reject
  cases isLong : call.value.holdsLong with
  | true => exact .raised _ (.long call unfit isLong)
  | false => exact .rejected unfit isLong

theorem outcome_setGap (value : Value) : (gap value).Outcome settings
    (settings.setGap value).settings (settings.setGap value).accepted := by
  unfold Settings.setGap
  by_cases isGap : value.IsGap
  · rw [if_pos ((Settings.acceptsGap_iff value).mpr isGap)]
    by_cases huge : value.IsHuge
    · rw [value.toBinary64_of_isHuge huge]
      exact .raised _ (.huge value huge)
    · obtain ⟨x, converts⟩ := value.toBinary64_of_isGap isGap huge
      rw [converts]
      exact .taken (show IsFit (.gap value) from isGap) _ (.gap value settings x converts)
  · rw [if_neg (mt (Settings.acceptsGap_iff value).mp isGap)]
    exact outcome_reject _ settings value _ isGap rfl

theorem outcome_setTimeLimit (value : Value) : (timeLimit value).Outcome settings
    (settings.setTimeLimit value).settings (settings.setTimeLimit value).accepted := by
  unfold Settings.setTimeLimit
  by_cases isTimeLimit : value.IsTimeLimit
  · rw [if_pos ((Settings.acceptsTimeLimit_iff value).mpr isTimeLimit)]
    obtain ⟨x, converts⟩ := value.toBinary64_of_isGap (value.isGap_of_isTimeLimit isTimeLimit)
      (value.not_isHuge_of_isTimeLimit isTimeLimit)
    rw [converts]
    exact .taken (show IsFit (.timeLimit value) from isTimeLimit) _ (.timeLimit value settings x converts)
  · rw [if_neg (mt (Settings.acceptsTimeLimit_iff value).mp isTimeLimit)]
    exact outcome_reject _ settings value _ isTimeLimit rfl

theorem not_raises_of_taken {call : SetterCall} {before after : Settings} (fit : call.IsFit)
    (sets : call.Sets before after) (fault : Fault) : ¬ call.Raises fault := by
  rintro (⟨value, isHuge⟩ | ⟨_, unfit, -⟩)
  · cases sets with
    | gap _ _ x converts =>
        rw [value.toBinary64_of_isHuge isHuge] at converts
        cases converts
  · exact unfit fit

theorem not_raises_of_rejected {call : SetterCall} (unfit : ¬ call.IsFit)
    (short : call.value.holdsLong = false) (fault : Fault) : ¬ call.Raises fault := by
  rintro (⟨value, isHuge⟩ | ⟨_, -, isLong⟩)
  · exact unfit (value.isGap_of_isHuge isHuge)
  · rw [short] at isLong
    cases isLong

theorem Raises.unique {call : SetterCall} {fault other : Fault} (raises : call.Raises fault)
    (others : call.Raises other) : fault = other := by
  cases raises with
  | huge value isHuge =>
      cases others with
      | huge => rfl
      | long _ unfit => exact absurd (value.isGap_of_isHuge isHuge) unfit
  | long _ unfit =>
      cases others with
      | huge value isHuge => exact absurd (value.isGap_of_isHuge isHuge) unfit
      | long => rfl

/-- Every setter call has one of the outcomes. -/
theorem outcome_on : call.Outcome settings (call.on settings).settings (call.on settings).accepted := by
  cases call with
  | presolve value => exact .taken (show IsFit (.presolve value) from trivial) _ (.presolve value settings)
  | gap value => exact outcome_setGap settings value
  | timeLimit value => exact outcome_setTimeLimit settings value

end SetterCall

namespace Session

/-- A setter answers true exactly when its value is fit and does not raise, and then the setting is the
converted value. It raises for a huge gap and for an unfit value that is too long to be reported, answers false
for all other unfit values, and unless it answers true nothing changes. -/
theorem setter_answers (session : Session) (index : Nat) (solver : Solver)
    (there : session.solvers[index]? = some solver) (call : SetterCall) :
    ((session.step (call.step index)).2.answer = .ok (.flag true) ↔
        call.IsFit ∧ ∀ fault, ¬ call.Raises fault) ∧
      ((session.step (call.step index)).2.answer = .ok (.flag false) ↔
        ¬ call.IsFit ∧ ∀ fault, ¬ call.Raises fault) ∧
      (∀ fault, (session.step (call.step index)).2.answer = .error fault ↔ call.Raises fault) ∧
      ((session.step (call.step index)).2.answer = .ok (.flag true) → ∃ settings,
        call.Sets solver.settings settings ∧
        (session.step (call.step index)).1 = session.setSolver index { solver with settings }) ∧
      ((session.step (call.step index)).2.answer ≠ .ok (.flag true) →
        (session.step (call.step index)).1 = session) := by
  have outcome := call.outcome_on solver.settings
  have kept := session.setSolver_self index solver there
  rw [step_setter, tune, session.solverAt_of_solver index solver there]
  dsimp only
  generalize call.on solver.settings = tuned at outcome ⊢
  obtain ⟨settings, accepted, notices⟩ := tuned
  dsimp only at outcome ⊢
  cases outcome with
  | taken fit _ sets =>
      have quiet := SetterCall.not_raises_of_taken fit sets
      refine ⟨?_, ?_, ?_, fun _ => ⟨settings, sets, rfl⟩, fun untaken => absurd rfl untaken⟩
      · exact ⟨fun _ => ⟨fit, quiet⟩, fun _ => rfl⟩
      · exact ⟨by rintro ⟨⟩, fun unfit => absurd fit unfit.1⟩
      · exact fun fault => ⟨by rintro ⟨⟩, fun raises => absurd raises (quiet fault)⟩
  | rejected unfit short =>
      have quiet := SetterCall.not_raises_of_rejected unfit short
      refine ⟨?_, ?_, ?_, by rintro ⟨⟩, fun _ => kept⟩
      · exact ⟨by rintro ⟨⟩, fun fit => absurd fit.1 unfit⟩
      · exact ⟨fun _ => ⟨unfit, quiet⟩, fun _ => rfl⟩
      · exact fun fault => ⟨by rintro ⟨⟩, fun raises => absurd raises (quiet fault)⟩
  | raised fault raises =>
      refine ⟨?_, ?_, ?_, by rintro ⟨⟩, fun _ => kept⟩
      · exact ⟨by rintro ⟨⟩, fun quiet => absurd raises (quiet.2 fault)⟩
      · exact ⟨by rintro ⟨⟩, fun quiet => absurd raises (quiet.2 fault)⟩
      · intro other
        constructor
        · rintro ⟨⟩
          exact raises
        · intro others
          rw [raises.unique others]
          rfl

def withSolver : Session := { solvers := [{}] }

theorem withSolver_huge_gap :
    (withSolver.step (.setGap 0 (.int (10 ^ 400)))).2.answer = .error .wholeNumberTooLarge ∧
      (withSolver.step (.setGap 0 (.int (10 ^ 400)))).1 = withSolver := by
  obtain ⟨-, -, raises, -, kept⟩ := setter_answers withSolver 0 {} rfl (.gap (.int (10 ^ 400)))
  have raised := (raises _).mpr (.huge (.int (10 ^ 400)) ⟨10 ^ 400, rfl, by decide +kernel⟩)
  refine ⟨raised, kept fun taken => ?_⟩
  cases raised.symm.trans taken

/-- A setter can raise: the gap compares as at least zero and is too large to convert. -/
theorem huge_gap_raises :
    ∃ fault, (withSolver.step (.setGap 0 (.int (10 ^ 400)))).2.answer = .error fault := by
  have accepts : Settings.acceptsGap (.int (10 ^ 400)) = true := by decide +kernel
  have converts : (Value.int (10 ^ 400)).toBinary64 = .error .wholeNumberTooLarge :=
    Value.toBinary64_of_isHuge _ ⟨10 ^ 400, rfl, by decide +kernel⟩
  refine ⟨.wholeNumberTooLarge, ?_⟩
  simp only [step, tune, withSolver, solverAt, List.getElem?_cons_zero, Settings.setGap, accepts, if_true,
    converts]
  rfl

end Session

end LinearProgram
