import LinearProgram.Proofs.Meaning
import LinearProgram.Solver.Settings

/-!
Settings by the setters that were called. A setter that does not accept its value changes nothing; after any
calls the settings are valid, and each is what was last accepted for it.
-/

namespace LinearProgram

section Conversion

theorem log2_mul_pow (n k : Nat) (positive : 0 < n) : (n * 2 ^ k).log2 = n.log2 + k := by
  obtain ⟨atLeast, below⟩ := (Nat.log2_eq_iff positive.ne').mp (rfl : n.log2 = n.log2)
  rw [Nat.log2_eq_iff (Nat.mul_pos positive (Nat.two_pow_pos k)).ne']
  constructor
  · rw [Nat.pow_add]
    exact Nat.mul_le_mul_right _ atLeast
  · rw [Nat.add_right_comm, Nat.pow_add]
    exact Nat.mul_lt_mul_of_pos_right below (Nat.two_pow_pos k)

theorem quantaPerUnit_eq : Binary64.quantaPerUnit = 2 ^ 1074 := by decide +kernel

-- From the second block on a rank is a block of quanta and a rest, doubled with each block.
theorem quanta_rank (block rest : Nat) (small : rest < rankBlock) :
    Binary64.quanta ((block + 1) * rankBlock + rest) = (rankBlock + rest) * 2 ^ block := by
  have positive : 0 < rankBlock := Nat.pow_pos (by decide)
  have quotient : ((block + 1) * rankBlock + rest) / rankBlock = block + 1 := by
    rw [Nat.mul_comm, Nat.mul_add_div positive, Nat.div_eq_of_lt small, Nat.add_zero]
  have remainder : ((block + 1) * rankBlock + rest) % rankBlock = rest := by
    rw [Nat.mul_comm, Nat.mul_add_mod, Nat.mod_eq_of_lt small]
  have large : ¬ (block + 1) * rankBlock + rest < rankBlock := by
    rw [Nat.succ_mul]
    omega
  unfold Binary64.quanta
  rw [if_neg large, quotient, remainder, Nat.add_sub_cancel]
  rfl

/-- A whole number is rounded to fifty-three binary digits, and its rank is their count of blocks and them. -/
theorem ofInt_eq_ofRank (n : Nat) (positive : 0 < n) : Binary64.ofInt n = Binary64.ofRank false
    ((n.log2 + 1022) * rankBlock + roundHalfEven (n * Binary64.quantaPerUnit) (2 ^ (n.log2 + 1022))) := by
  have nonnegative : decide ((n : Int) < 0) = false := by simp
  have scaled : (n * Binary64.quantaPerUnit).log2 - 52 = n.log2 + 1022 := by
    rw [quantaPerUnit_eq, log2_mul_pow n 1074 positive]
    rfl
  unfold Binary64.ofInt Binary64.ofRatio
  simp only [nonnegative, Int.natAbs_natCast, Nat.div_one, Nat.one_mul, scaled, Nat.pow_eq]

/-- A whole number of at most fifty-three binary digits converts exactly. -/
theorem quanta?_ofInt (n : Nat) (small : n < 2 ^ 53) :
    (Binary64.ofInt n).quanta? = some ((n * Binary64.quantaPerUnit : Nat) : Int) := by
  rcases Nat.eq_zero_or_pos n with rfl | positive
  · decide +kernel
  · obtain ⟨atLeast, below⟩ := (Nat.log2_eq_iff positive.ne').mp (rfl : n.log2 = n.log2)
    have few : n.log2 < 53 := (Nat.log2_lt positive.ne').mpr small
    have rank := ofInt_eq_ofRank n positive
    generalize n.log2 = d at atLeast below few rank
    -- the fifty-three digits of the number, the last of which are zeros
    obtain ⟨rest, isRest, restSmall⟩ : ∃ rest, n * 2 ^ (52 - d) = rankBlock + rest ∧ rest < rankBlock := by
      have low := Nat.mul_le_mul_right (2 ^ (52 - d)) atLeast
      have high := Nat.mul_lt_mul_of_pos_right below (Nat.two_pow_pos (52 - d))
      rw [← Nat.pow_add, show d + (52 - d) = 52 by omega] at low
      rw [← Nat.pow_add, show d + 1 + (52 - d) = 53 by omega] at high
      have block : rankBlock = 2 ^ 52 := rfl
      exact ⟨n * 2 ^ (52 - d) - 2 ^ 52, by omega, by omega⟩
    have exact : n * Binary64.quantaPerUnit = (rankBlock + rest) * 2 ^ (d + 1022) := by
      have unit : Binary64.quantaPerUnit = 2 ^ (52 - d + (d + 1022)) := by
        rw [quantaPerUnit_eq, show 52 - d + (d + 1022) = 1074 by omega]
      rw [unit, Nat.pow_add, ← Nat.mul_assoc, isRest]
    have rounded : roundHalfEven (n * Binary64.quantaPerUnit) (2 ^ (d + 1022)) = rankBlock + rest := by
      rw [exact, roundHalfEven_of_dvd _ _ (Nat.two_pow_pos _) (Nat.dvd_mul_left _ _)]
      exact Nat.mul_div_cancel _ (Nat.two_pow_pos _)
    rw [rounded, ← Nat.add_assoc, ← Nat.succ_mul] at rank
    have finite : (d + 1023) * rankBlock + rest < infiniteRank := by
      have blocks : (d + 1023 + 1) * rankBlock ≤ infiniteRank :=
        Nat.mul_le_mul_right rankBlock (by omega)
      rw [Nat.succ_mul] at blocks
      omega
    rw [rank]
    unfold Binary64.ofRank Binary64.quanta?
    simp only [Nat.min_eq_left finite.le, finite.ne, if_false, quanta_rank _ rest restSmall, exact]
    rfl

theorem converted_number (value : Value) (x : Number) (y : Binary64) (isNumber : value.number? = some x)
    (converts : value.toBinary64 = .ok y) : x.toBinary64? = some y := by
  unfold Value.toBinary64 at converts
  split at converts
  next => cases isNumber
  next =>
    rw [isNumber] at converts
    dsimp only at converts
    split at converts
    next found =>
      cases converts
      exact found
    next => cases converts

def Binary64.Nonnegative (x : Binary64) : Prop := Number.atMost (.int 0) (.float x) = true

theorem isNaN_of_nonnegative (x : Binary64) (nonnegative : x.Nonnegative) : x.isNaN = false := by
  cases x with
  | nan => cases nonnegative
  | signed => rfl

theorem atMost_of_places (x y : Number) (m n : Int) (first : x.place? = some (0, m))
    (second : y.place? = some (0, n)) : x.atMost y = true ↔ m ≤ n := by
  unfold Number.atMost Number.compare?
  rw [first, second]
  simp [Int.compare_eq_lt, Int.le_iff_lt_or_eq]

theorem place?_int (n : Int) : (Number.int n).place? = some (0, n * Binary64.quantaPerUnit) := rfl

theorem nonnegative_ofRank (rank : Nat) : (Binary64.ofRank false rank).Nonnegative := by
  have zero : (Number.int 0).place? = some (0, 0) := by rw [place?_int, Int.zero_mul]
  cases quanta : (Binary64.ofRank false rank).quanta? with
  | some n =>
      have place := place?_of_quanta? _ n quanta
      refine (atMost_of_places _ _ 0 n zero place).mpr ?_
      simp only [Binary64.ofRank, Binary64.quanta?, Bool.false_eq_true, if_false] at quanta
      split at quanta
      · cases quanta
      · cases quanta
        exact Int.natCast_nonneg _
  | none =>
      have place : (Number.float (Binary64.ofRank false rank)).place? = some (1, 0) := by
        unfold Binary64.ofRank at quanta ⊢
        simp only [Number.place?, quanta]
        rfl
      unfold Binary64.Nonnegative Number.atMost Number.compare?
      rw [zero, place]
      rfl

theorem nonnegative_of_atMost (n : Int) (atLeast : Number.atMost (.int 0) (.int n) = true) : 0 ≤ n := by
  have positive : (0 : Int) < Binary64.quantaPerUnit := by decide +kernel
  have ordered := (atMost_of_places _ _ _ _ (place?_int 0) (place?_int n)).mp atLeast
  exact Int.le_of_mul_le_mul_right ordered positive

theorem ofInt_of_converted (n : Int) (y : Binary64) (converted : (Number.int n).toBinary64? = some y) :
    y = Binary64.ofInt n := by
  simp only [Number.toBinary64?, Binary64.ofInt?] at converted
  split at converted
  · cases converted
  · exact (Option.some.inj converted).symm

/-- A number at least zero converts to one. -/
theorem converted_nonnegative (value : Value) (x : Number) (y : Binary64) (isNumber : value.number? = some x)
    (atLeast : Number.atMost (.int 0) x = true) (converts : value.toBinary64 = .ok y) : y.Nonnegative := by
  have converted := converted_number value x y isNumber converts
  cases x with
  | float z =>
      cases converted
      exact atLeast
  | int n =>
      have sign : decide (n < 0) = false := by simpa using nonnegative_of_atMost n atLeast
      rw [ofInt_of_converted n y converted, Binary64.ofInt, Binary64.ofRatio, sign]
      exact nonnegative_ofRank _

/-- A number between zero and the greatest time limit converts to one that is not greater. -/
theorem converted_limit (value : Value) (x : Number) (y : Binary64) (isNumber : value.number? = some x)
    (atLeast : Number.atMost (.int 0) x = true)
    (within : x.atMost (.float Settings.greatestTimeLimit) = true) (converts : value.toBinary64 = .ok y) :
    Number.atMost (.float y) (.float Settings.greatestTimeLimit) = true := by
  have converted := converted_number value x y isNumber converts
  cases x with
  | float z =>
      cases converted
      exact within
  | int n =>
      obtain ⟨k, rfl⟩ := Int.eq_ofNat_of_zero_le (nonnegative_of_atMost n atLeast)
      obtain ⟨limit, quanta, few⟩ : ∃ limit, Settings.greatestTimeLimit.quanta? = some limit ∧
          limit < 2 ^ 53 * (Binary64.quantaPerUnit : Int) := by
        have finite : (Settings.greatestTimeLimit.quanta?.any fun limit =>
            decide (limit < 2 ^ 53 * (Binary64.quantaPerUnit : Int))) = true := by decide +kernel
        obtain ⟨limit, quanta, few⟩ := (Option.any_eq_true _ _).mp finite
        exact ⟨limit, quanta, of_decide_eq_true few⟩
      have greatest := place?_of_quanta? _ limit quanta
      have bound := (atMost_of_places _ _ _ _ (place?_int k) greatest).mp within
      have small : k < 2 ^ 53 := by
        have ordered : (k : Int) * Binary64.quantaPerUnit < 2 ^ 53 * Binary64.quantaPerUnit := by omega
        have less := Int.lt_of_mul_lt_mul_right ordered (Int.natCast_nonneg _)
        exact_mod_cast less
      -- the whole number is small enough to convert exactly
      have place := place?_of_quanta? _ _ (quanta?_ofInt k small)
      rw [ofInt_of_converted k y converted]
      refine (atMost_of_places _ _ _ _ place greatest).mpr ?_
      rw [Int.natCast_mul]
      exact bound

end Conversion

inductive SetterCall where
  | presolve (value : Value)
  | gap (value : Value)
  | timeLimit (value : Value)

def Tuned.isAccepted (tuned : Tuned) : Bool := tuned.accepted.toOption == some true

namespace SetterCall

def on (call : SetterCall) (settings : Settings) : Tuned :=
  match call with
  | presolve value => settings.setPresolve value
  | gap value => settings.setGap value
  | timeLimit value => settings.setTimeLimit value

/-- Whether a setter accepts its value does not depend on the settings. -/
def isAccepted (call : SetterCall) : Bool := (call.on {}).isAccepted

def presolve? : SetterCall → Option Bool
  | presolve value => if (presolve value).isAccepted then some value.isTruthy else none
  | _ => none

def gap? : SetterCall → Option Binary64
  | gap value => if (gap value).isAccepted then value.toBinary64.toOption else none
  | _ => none

def timeLimit? : SetterCall → Option Binary64
  | timeLimit value => if (timeLimit value).isAccepted then value.toBinary64.toOption else none
  | _ => none

end SetterCall

/-- The setter calls that applying a configuration makes: presolve, the gap, and the time limit if there is
one and the gap was no fault. -/
def SolverConfig.setterCalls (config : SolverConfig) : List SetterCall :=
  [.presolve config.presolve, .gap config.gap] ++
    if ((SetterCall.gap config.gap).on {}).accepted.isOk then
      match config.timeLimit with
      | .null => []
      | limit => [.timeLimit limit]
    else []

namespace Settings

structure Valid (settings : Settings) : Prop where
  gap : settings.gap.Nonnegative ∧ settings.gap.isNaN = false
  timeLimit : ∀ limit, settings.timeLimit = some limit → limit.Nonnegative ∧ limit.isNaN = false ∧
    Number.atMost (.float limit) (.float greatestTimeLimit) = true

/-- Each setting is what was last accepted for it among some calls, or its default. -/
structure IsLastOf (settings : Settings) (calls : List SetterCall) : Prop where
  presolve : settings.presolve = (calls.filterMap SetterCall.presolve?).getLast?.getD true
  gap : settings.gap = (calls.filterMap SetterCall.gap?).getLast?.getD .zero
  timeLimit : settings.timeLimit = (calls.filterMap SetterCall.timeLimit?).getLast?

def after (settings : Settings) (calls : List SetterCall) : Settings :=
  calls.foldl (fun settings call => (call.on settings).settings) settings

variable (settings : Settings) (call : SetterCall)

theorem after_append (calls others : List SetterCall) :
    settings.after (calls ++ others) = (settings.after calls).after others :=
  List.foldl_append

@[simp] theorem settings_reject (value : Value) (notice : Notice) :
    (settings.reject value notice).settings = settings := by
  unfold reject
  split <;> rfl

theorem accepted_reject (value : Value) (notice : Notice) : (settings.reject value notice).accepted =
    if value.holdsLong then .error (.tooManyDigits none) else .ok false := by
  unfold reject
  split <;> rfl

theorem accepted_setGap (value : Value) : (settings.setGap value).accepted =
    if acceptsGap value then value.toBinary64.map fun _ => true
    else if value.holdsLong then .error (.tooManyDigits none) else .ok false := by
  unfold setGap
  split
  · cases value.toBinary64 <;> rfl
  · exact settings.accepted_reject value _

theorem accepted_setTimeLimit (value : Value) : (settings.setTimeLimit value).accepted =
    if acceptsTimeLimit value then value.toBinary64.map fun _ => true
    else if value.holdsLong then .error (.tooManyDigits none) else .ok false := by
  unfold setTimeLimit
  split
  · cases value.toBinary64 <;> rfl
  · exact settings.accepted_reject value _

/-- Whether a setter accepts its value does not depend on the settings. -/
theorem accepted_on : (call.on settings).accepted = (call.on {}).accepted := by
  cases call with
  | presolve _ => rfl
  | gap value => exact (settings.accepted_setGap value).trans (accepted_setGap {} value).symm
  | timeLimit value => exact (settings.accepted_setTimeLimit value).trans (accepted_setTimeLimit {} value).symm

theorem gap?_gap (value : Value) :
    (SetterCall.gap value).gap? = if acceptsGap value then value.toBinary64.toOption else none := by
  simp only [SetterCall.gap?, SetterCall.isAccepted, SetterCall.on, Tuned.isAccepted, accepted_setGap]
  by_cases accepts : acceptsGap value = true
  · cases converts : value.toBinary64 <;> simp [accepts, Except.toOption, Except.map]
  · cases value.holdsLong <;> simp [accepts, Except.toOption]

theorem timeLimit?_timeLimit (value : Value) : (SetterCall.timeLimit value).timeLimit? =
    if acceptsTimeLimit value then value.toBinary64.toOption else none := by
  simp only [SetterCall.timeLimit?, SetterCall.isAccepted, SetterCall.on, Tuned.isAccepted,
    accepted_setTimeLimit]
  by_cases accepts : acceptsTimeLimit value = true
  · cases converts : value.toBinary64 <;> simp [accepts, Except.toOption, Except.map]
  · cases value.holdsLong <;> simp [accepts, Except.toOption]

/-- A call sets what it accepts and leaves everything else. -/
theorem settings_on : (call.on settings).settings =
    { presolve := call.presolve?.getD settings.presolve, gap := call.gap?.getD settings.gap
      timeLimit := call.timeLimit?.or settings.timeLimit } := by
  cases call with
  | presolve _ => rfl
  | gap value =>
      simp only [SetterCall.on, setGap, gap?_gap]
      split
      · cases value.toBinary64 <;> rfl
      · exact settings.settings_reject value _
  | timeLimit value =>
      simp only [SetterCall.on, setTimeLimit, timeLimit?_timeLimit]
      split
      · cases value.toBinary64 <;> rfl
      · exact settings.settings_reject value _

/-- A call that is not accepted changes nothing. -/
theorem settings_of_unaccepted (unaccepted : (call.on settings).isAccepted = false) :
    (call.on settings).settings = settings := by
  have refused : call.isAccepted = false := by
    rw [SetterCall.isAccepted, Tuned.isAccepted, ← accepted_on settings]
    exact unaccepted
  rw [settings_on]
  cases call <;> simp [SetterCall.presolve?, SetterCall.gap?, SetterCall.timeLimit?, refused]

theorem number_of_acceptsGap (value : Value) (accepts : acceptsGap value = true) :
    ∃ x, value.number? = some x ∧ Number.atMost (.int 0) x = true := by
  unfold acceptsGap at accepts
  split at accepts
  next x isNumber => exact ⟨x, isNumber, accepts⟩
  next => cases accepts

theorem number_of_acceptsTimeLimit (value : Value) (accepts : acceptsTimeLimit value = true) :
    ∃ x, value.number? = some x ∧ Number.atMost (.int 0) x = true ∧
      x.atMost (.float greatestTimeLimit) = true := by
  unfold acceptsTimeLimit at accepts
  split at accepts
  next x isNumber => exact ⟨x, isNumber, (Bool.and_eq_true_iff.mp accepts)⟩
  next => cases accepts

theorem gap?_valid (gap : Binary64) (given : call.gap? = some gap) : gap.Nonnegative := by
  cases call with
  | gap value =>
      rw [gap?_gap, Option.ite_none_right_eq_some] at given
      obtain ⟨x, isNumber, atLeast⟩ := number_of_acceptsGap value given.1
      exact converted_nonnegative value x gap isNumber atLeast (ok_of_toOption _ gap given.2)
  | _ => cases given

theorem timeLimit?_valid (limit : Binary64) (given : call.timeLimit? = some limit) :
    limit.Nonnegative ∧ Number.atMost (.float limit) (.float greatestTimeLimit) = true := by
  cases call with
  | timeLimit value =>
      rw [timeLimit?_timeLimit, Option.ite_none_right_eq_some] at given
      obtain ⟨x, isNumber, atLeast, within⟩ := number_of_acceptsTimeLimit value given.1
      have converts := ok_of_toOption _ limit given.2
      exact ⟨converted_nonnegative value x limit isNumber atLeast converts,
        converted_limit value x limit isNumber atLeast within converts⟩
  | _ => cases given

/-- Every call keeps the settings valid. -/
theorem Valid.on {settings : Settings} (valid : settings.Valid) (call : SetterCall) :
    (call.on settings).settings.Valid := by
  rw [settings_on]
  constructor
  · cases given : call.gap? with
    | none => exact valid.gap
    | some gap =>
        have nonnegative := gap?_valid call gap given
        exact ⟨nonnegative, isNaN_of_nonnegative gap nonnegative⟩
  · cases given : call.timeLimit? with
    | none => exact valid.timeLimit
    | some limit =>
        obtain ⟨nonnegative, within⟩ := timeLimit?_valid call limit given
        rintro other ⟨⟩
        exact ⟨nonnegative, isNaN_of_nonnegative limit nonnegative, within⟩

theorem Valid.after {settings : Settings} (valid : settings.Valid) (calls : List SetterCall) :
    (settings.after calls).Valid := by
  induction calls generalizing settings with
  | nil => exact valid
  | cons call rest ih => exact ih (valid.on call)

theorem valid_default : Valid {} := by
  have nonnegative : Binary64.zero.Nonnegative := nonnegative_ofRank 0
  refine ⟨⟨nonnegative, rfl⟩, ?_⟩
  intro limit given
  cases given

theorem foldl_getLast {σ α β : Type} (act : σ → β → σ) (read : σ → α) (given? : β → Option α)
    (each : ∀ state call, read (act state call) = (given? call).getD (read state)) (calls : List β)
    (state : σ) : read (calls.foldl act state) = (calls.filterMap given?).getLast?.getD (read state) := by
  induction calls generalizing state with
  | nil => rfl
  | cons call rest ih =>
      rw [List.foldl_cons, ih, each, List.filterMap_cons]
      cases given? call with
      | none => rfl
      | some x => rw [List.getLast?_cons]; rfl

/-- From the defaults on, each setting is what was last accepted for it. -/
theorem isLastOf_after (calls : List SetterCall) : (Settings.after {} calls).IsLastOf calls := by
  constructor
  · exact foldl_getLast _ Settings.presolve SetterCall.presolve?
      (fun settings call => by rw [settings_on]) calls {}
  · exact foldl_getLast _ Settings.gap SetterCall.gap? (fun settings call => by rw [settings_on]) calls {}
  · have last := foldl_getLast (fun settings call => (SetterCall.on call settings).settings)
      Settings.timeLimit (fun call => call.timeLimit?.map some)
      (fun settings call => by rw [settings_on]; cases call.timeLimit? <;> rfl) calls {}
    rw [← List.map_filterMap, List.getLast?_map] at last
    refine last.trans ?_
    cases (calls.filterMap SetterCall.timeLimit?).getLast? <;> rfl

theorem settings_andThen (first : Tuned) (next : Settings → Tuned) : (andThen first next).settings =
    if first.accepted.isOk then (next first.settings).settings else first.settings := by
  unfold andThen
  cases first.accepted <;> rfl

theorem isOk_andThen (first : Tuned) (next : Settings → Tuned) : (andThen first next).accepted.isOk =
    (first.accepted.isOk && (next first.settings).accepted.isOk) := by
  unfold andThen
  cases accepted : first.accepted with
  | error _ =>
      dsimp only
      rw [accepted]
      rfl
  | ok _ =>
      dsimp only
      cases (next first.settings).accepted <;> rfl

/-- Applying a configuration is calling its setters. -/
theorem configure_eq_after (config : SolverConfig) :
    (settings.configure config).settings = settings.after config.setterCalls := by
  have gap := accepted_on (settings.setPresolve config.presolve).settings (.gap config.gap)
  have first : (andThen (settings.setPresolve config.presolve) fun s => s.setGap config.gap).settings =
      settings.after [.presolve config.presolve, .gap config.gap] := by
    rw [settings_andThen]
    rfl
  have whole : (andThen (settings.setPresolve config.presolve) fun s => s.setGap config.gap).accepted.isOk =
      ((SetterCall.gap config.gap).on {}).accepted.isOk := by
    rw [isOk_andThen, ← gap]
    rfl
  unfold configure SolverConfig.setterCalls
  rw [← whole]
  unfold after at first ⊢
  rw [List.foldl_append, ← first]
  cases config.timeLimit with
  | null =>
      dsimp only
      rw [ite_self]
      rfl
  | _ =>
      dsimp only
      rw [settings_andThen]
      split <;> rfl

end Settings

end LinearProgram
