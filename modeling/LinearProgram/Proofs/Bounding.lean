import LinearProgram.Proofs.BuildOrder
import LinearProgram.Proofs.Steps

/-!
Setting bounds. The lower bound is stored before the upper one is converted. So an upper bound that is no number
leaves the new lower bound beside the old upper one.
-/

namespace LinearProgram

namespace Value

inductive StoredAs : Value → Value → Prop where
  | absent : StoredAs .null .null
  | number (value : Value) (x : Binary64) : value ≠ .null → value.toBinary64 = .ok x → StoredAs value (.float x)

def NoBound (value : Value) (fault : Fault) : Prop := value ≠ .null ∧ value.toBinary64 = .error fault

end Value

namespace Attributes

inductive Bounded (before : Attributes) (lower upper : Value) : Attributes → Except Fault Unit → Prop where
  | both (low high : Value) : lower.StoredAs low → upper.StoredAs high →
      Bounded before lower upper { before with lower := low, upper := high } (.ok ())
  | none (fault : Fault) : lower.NoBound fault → Bounded before lower upper before (.error fault)
  | half (low : Value) (fault : Fault) : lower.StoredAs low → upper.NoBound fault →
      Bounded before lower upper { before with lower := low } (.error fault)

theorem bound_of_ne (value : Value) (given : value ≠ .null) : bound value = value.toBinary64.map .float := by
  cases value with
  | null => exact absurd rfl given
  | _ => rfl

theorem bound_ok_iff (value stored : Value) : bound value = .ok stored ↔ value.StoredAs stored := by
  by_cases given : value = .null
  · subst given
    constructor
    · rintro ⟨⟩
      exact .absent
    · rintro (_ | ⟨_, _, notNull, _⟩)
      · rfl
      · exact absurd rfl notNull
  · rw [bound_of_ne value given]
    constructor
    · intro stores
      obtain ⟨x, converts, rfl⟩ := map_ok stores
      exact .number value x given converts
    · rintro (_ | ⟨_, x, _, converts⟩)
      · exact absurd rfl given
      · rw [converts]
        rfl

theorem bound_error_iff (value : Value) (fault : Fault) : bound value = .error fault ↔ value.NoBound fault := by
  by_cases given : value = .null
  · subst given
    exact iff_of_false (fun fails => by cases fails) fun noBound => noBound.1 rfl
  · rw [bound_of_ne value given, Value.NoBound]
    cases value.toBinary64 <;> simp [Except.map, given]

theorem bounded_setBounds (before : Attributes) (lower upper : Value) :
    before.Bounded lower upper (before.setBounds lower upper).1 (before.setBounds lower upper).2 := by
  unfold setBounds
  cases low : bound lower with
  | error fault => exact .none fault ((bound_error_iff lower fault).mp low)
  | ok stored =>
      have isLow := (bound_ok_iff lower stored).mp low
      cases high : bound upper with
      | error fault => exact .half stored fault isLow ((bound_error_iff upper fault).mp high)
      | ok other => exact .both stored other isLow ((bound_ok_iff upper other).mp high)

end Attributes

namespace Value

theorem StoredAs.unique {value one other : Value} (stored : value.StoredAs one) (again : value.StoredAs other) :
    one = other := by
  rw [← Attributes.bound_ok_iff] at stored again
  exact Except.ok.inj (stored.symm.trans again)

theorem NoBound.unique {value : Value} {one other : Fault} (noBound : value.NoBound one)
    (again : value.NoBound other) : one = other :=
  Except.error.inj (noBound.2.symm.trans again.2)

theorem StoredAs.not_noBound {value stored : Value} {fault : Fault} (stores : value.StoredAs stored) :
    ¬ value.NoBound fault := by
  rw [← Attributes.bound_ok_iff] at stores
  rw [← Attributes.bound_error_iff, stores]
  exact fun fails => by cases fails

end Value

namespace Attributes.Bounded

variable {before after : Attributes} {lower upper : Value} {outcome : Except Fault Unit}

theorem error_iff (bounded : before.Bounded lower upper after outcome) (fault : Fault) :
    outcome = .error fault ↔ lower.NoBound fault ∨ (∃ low, lower.StoredAs low) ∧ upper.NoBound fault := by
  cases bounded with
  | both low high isLow isHigh =>
      refine iff_of_false (fun fails => by cases fails) ?_
      rintro (noLow | ⟨-, noHigh⟩)
      · exact isLow.not_noBound noLow
      · exact isHigh.not_noBound noHigh
  | none other noLow =>
      constructor
      · rintro ⟨⟩
        exact Or.inl noLow
      · rintro (again | ⟨⟨low, isLow⟩, -⟩)
        · rw [noLow.unique again]
        · exact absurd noLow isLow.not_noBound
  | half low other isLow noHigh =>
      constructor
      · rintro ⟨⟩
        exact Or.inr ⟨⟨low, isLow⟩, noHigh⟩
      · rintro (noLow | ⟨-, again⟩)
        · exact absurd noLow isLow.not_noBound
        · rw [noHigh.unique again]

theorem of_ok (bounded : before.Bounded lower upper after outcome) (succeeds : outcome = .ok ()) :
    ∃ low high, lower.StoredAs low ∧ upper.StoredAs high ∧
      after = { before with lower := low, upper := high } := by
  cases bounded with
  | both low high isLow isHigh => exact ⟨low, high, isLow, isHigh, rfl⟩
  | none | half => cases succeeds

theorem of_half (bounded : before.Bounded lower upper after outcome) (low : Value) (fault : Fault)
    (isLow : lower.StoredAs low) (noHigh : upper.NoBound fault) : after = { before with lower := low } := by
  cases bounded with
  | both _ _ _ isHigh => exact absurd noHigh isHigh.not_noBound
  | none _ noLow => exact absurd noLow isLow.not_noBound
  | half other _ isOther => rw [isOther.unique isLow]

-- A failure has changed at most the lower bound.
theorem kept_iff (bounded : before.Bounded lower upper after outcome) (fails : ∃ fault, outcome = .error fault) :
    after = before ↔ ∀ low, lower.StoredAs low → low = before.lower := by
  cases bounded with
  | both => simp at fails
  | none _ noLow => exact iff_of_true rfl fun low isLow => absurd noLow isLow.not_noBound
  | half low _ isLow =>
      constructor
      · intro same other isOther
        rw [isOther.unique isLow]
        exact congrArg Attributes.lower same
      · intro stored
        rw [stored low isLow]

end Attributes.Bounded

theorem EntityRef.same_self (ref : EntityRef) : ref.same ref = true := by
  simp [EntityRef.same_eq, Problem.sameEntity, Value.sameKey_self]

namespace Session

def attributes? (session : Session) (ref : EntityRef) : Option Attributes :=
  (session.problems[ref.problem]?).bind (·.attributes? ref.kind ref.key)

variable (session : Session) (ref : EntityRef)

-- The attributes of one entity are replaced, whichever reference leads to it.
theorem attributes?_changed (problem : Problem) (found : session.problems[ref.problem]? = some problem)
    (after : Attributes) (other : EntityRef) :
    (session.setProblem ref.problem (problem.changeAttributes ref.kind ref.key fun _ => after)).attributes?
        other =
      if other.same ref then (session.attributes? other).map fun _ => after else session.attributes? other := by
  unfold attributes?
  rw [session.getElem?_setProblem ref.problem other.problem problem _ found, EntityRef.same_eq]
  by_cases here : other.problem = ref.problem
  · rw [if_pos here, here, found, Option.bind_some, Option.bind_some, Problem.attributes?_changeAttributes]
    simp
  · simp [here]

theorem step_setBounds (problem : Problem) (found : session.problems[ref.problem]? = some problem)
    (before : Attributes) (has : problem.attributes? ref.kind ref.key = some before) (lower upper : Value) :
    let next := session.setProblem ref.problem
      (problem.changeAttributes ref.kind ref.key fun _ => (before.setBounds lower upper).1)
    session.step (.setBounds (some ref) lower upper) =
      match (before.setBounds lower upper).2 with
      | .ok _ => next.present ref
      | .error fault => next.fail fault := by
  have there := (problemAt_ok session ref.problem problem).mpr found
  cases outcome : (before.setBounds lower upper).2 with
  | error fault => simp only [step, Session.on, setBounds, there, Problem.setBounds, has, outcome]
  | ok _ => simp only [step, Session.on, setBounds, there, Problem.setBounds, has, outcome]

theorem present_of_attributes (after : Attributes) (has : session.attributes? ref = some after) :
    ∃ view, session.present ref = session.answer (.entity ref view) ∧ view.attributes = after := by
  obtain ⟨problem, found, there⟩ := Option.bind_eq_some_iff.mp has
  obtain ⟨view, shown, same⟩ := Option.map_eq_some_iff.mp there
  refine ⟨view, ?_, same⟩
  simp [present, inspect, (problemAt_ok session ref.problem problem).mpr found, shown, answer, bind, Except.bind]

theorem has_attributes (isIn : ref.IsIn session) :
    ∃ problem before, session.problems[ref.problem]? = some problem ∧
      problem.attributes? ref.kind ref.key = some before := by
  obtain ⟨problem, view, found, shown, -⟩ := isIn
  exact ⟨problem, view.attributes, found, by rw [Problem.attributes?, shown]; rfl⟩

theorem setBounds_ways (lower upper : Value) (isIn : ref.IsIn session) :
    ∃ before after outcome, session.attributes? ref = some before ∧ before.Bounded lower upper after outcome ∧
      let bounded := session.step (.setBounds (some ref) lower upper)
      (∀ other, bounded.1.attributes? other =
        if other.same ref then (session.attributes? other).map fun _ => after else session.attributes? other) ∧
      (∀ fault, bounded.2.answer = .error fault ↔ outcome = .error fault) ∧
      (outcome = .ok () → ∃ view, bounded.2.answer = .ok (.entity ref view) ∧ view.attributes = after) := by
  obtain ⟨problem, before, found, has⟩ := session.has_attributes ref isIn
  have own : session.attributes? ref = some before := by rw [attributes?, found, Option.bind_some, has]
  have changed := session.attributes?_changed ref problem found (before.setBounds lower upper).1
  have now := (changed ref).trans (by rw [own, if_pos ref.same_self, Option.map_some])
  refine ⟨before, _, _, own, before.bounded_setBounds lower upper, ?_⟩
  rw [session.step_setBounds ref problem found before has lower upper]
  cases (before.setBounds lower upper).2 with
  | error fault =>
      refine ⟨changed, fun other => ?_, fun succeeds => by cases succeeds⟩
      simp [fail]
  | ok _ =>
      obtain ⟨view, presents, shows⟩ := present_of_attributes _ ref _ now
      simp only [presents]
      exact ⟨changed, fun other => by simp [answer], fun _ => ⟨view, rfl, shows⟩⟩

/-- Bounds are stored as far as they convert. Setting both fails if and only if one of them is given and is no
number. What does not fail stores both, each as nothing or as the number that it converts to. What fails because of
the lower bound changes nothing, but what fails because of the upper one has stored the lower one: a failing call
leaves both bounds as they were if and only if the lower one does not convert, or converts to what was stored
before. Other entities keep their attributes. -/
theorem bounds_store_what_converts (lower upper : Value) (isIn : ref.IsIn session) :
    ∃ before, session.attributes? ref = some before ∧
      let bounded := session.step (.setBounds (some ref) lower upper)
      (∀ fault, bounded.2.answer = .error fault ↔
        lower.NoBound fault ∨ (∃ low, lower.StoredAs low) ∧ upper.NoBound fault) ∧
      ((∀ fault, bounded.2.answer ≠ .error fault) → ∃ low high view,
        lower.StoredAs low ∧ upper.StoredAs high ∧ bounded.2.answer = .ok (.entity ref view) ∧
        view.attributes = { before with lower := low, upper := high } ∧
        bounded.1.attributes? ref = some { before with lower := low, upper := high }) ∧
      (∀ low fault, lower.StoredAs low → upper.NoBound fault →
        bounded.1.attributes? ref = some { before with lower := low }) ∧
      ((∃ fault, bounded.2.answer = .error fault) →
        (bounded.1.attributes? ref = some before ↔ ∀ low, lower.StoredAs low → low = before.lower)) ∧
      ∀ other, other.same ref = false → bounded.1.attributes? other = session.attributes? other := by
  obtain ⟨before, after, outcome, own, ways, changed, fails, answers⟩ :=
    session.setBounds_ways ref lower upper isIn
  refine ⟨before, own, ?_⟩
  intro bounded
  have now : bounded.1.attributes? ref = some after :=
    (changed ref).trans (by rw [own, if_pos ref.same_self, Option.map_some])
  rw [now]
  refine ⟨fun fault => (fails fault).trans (ways.error_iff fault), fun clear => ?_,
    fun low fault isLow noHigh => ?_, fun ⟨fault, failing⟩ => ?_, fun other apart => ?_⟩
  · have succeeds : outcome = .ok () := by
      cases isOutcome : outcome with
      | error fault => exact absurd ((fails fault).mpr isOutcome) (clear fault)
      | ok _ => rfl
    obtain ⟨low, high, isLow, isHigh, rfl⟩ := ways.of_ok succeeds
    obtain ⟨view, isAnswer, shows⟩ := answers succeeds
    exact ⟨low, high, view, isLow, isHigh, isAnswer, shows, rfl⟩
  · rw [ways.of_half low fault isLow noHigh]
  · rw [Option.some.injEq]
    exact ways.kept_iff ⟨fault, (fails fault).mp failing⟩
  · exact (changed other).trans (by simp [apart])

section Blend

theorem blend_bounds :
    let session := (run {} blendSteps).1
    let oil : EntityRef := ⟨0, .column, .text "oil"⟩
    ∃ before one, session.attributes? oil = some before ∧ Value.toBinary64 (.int 1) = .ok one ∧
      (session.step (.setBounds (some oil) (.int 1) (.text "much"))).2.answer =
        .error (.unreadableNumber "'much'") ∧
      (session.step (.setBounds (some oil) (.int 1) (.text "much"))).1.attributes? oil =
        some { before with lower := .float one } := by
  intro session oil
  have isIn : oil.IsIn session := by decide +kernel
  clear_value session
  obtain ⟨one, isOne⟩ := ok_of_isOk (Value.toBinary64 (.int 1)) (by decide +kernel)
  have isLow : Value.StoredAs (.int 1) (.float one) := .number _ one (by rintro ⟨⟩) isOne
  have noHigh : Value.NoBound (.text "much") (.unreadableNumber "'much'") := ⟨by rintro ⟨⟩, rfl⟩
  obtain ⟨before, own, fails, -, half, -⟩ :=
    session.bounds_store_what_converts oil (.int 1) (.text "much") isIn
  exact ⟨before, one, own, isOne, (fails _).mpr (Or.inr ⟨⟨_, isLow⟩, noHigh⟩), half _ _ isLow noHigh⟩

-- A column without bounds has a lower bound after a call that failed.
theorem failed_bounds_leave_lower :
    let session := (run {} [.problem (.text "plan"), .column 0 (.text "x") []]).1
    let x : EntityRef := ⟨0, .column, .text "x"⟩
    let bounded := session.step (.setBounds (some x) (.int 1) (.text "much"))
    x.IsIn session ∧ bounded.2.answer = .error (.unreadableNumber "'much'") ∧
      (session.attributes? x).map (·.lower) = some .null ∧
      ∃ one, Value.toBinary64 (.int 1) = .ok one ∧
        (bounded.1.attributes? x).map (·.lower) = some (.float one) := by
  intro session x bounded
  have isIn : x.IsIn session := by decide +kernel
  have unbounded : (session.attributes? x).map (·.lower) = some .null := rfl
  clear_value session
  obtain ⟨one, isOne⟩ := ok_of_isOk (Value.toBinary64 (.int 1)) (by decide +kernel)
  have isLow : Value.StoredAs (.int 1) (.float one) := .number _ one (by rintro ⟨⟩) isOne
  have noHigh : Value.NoBound (.text "much") (.unreadableNumber "'much'") := ⟨by rintro ⟨⟩, rfl⟩
  obtain ⟨before, after, outcome, own, ways, changed, fails, -⟩ :=
    session.setBounds_ways x (.int 1) (.text "much") isIn
  have failed := (ways.error_iff _).mpr (Or.inr ⟨⟨_, isLow⟩, noHigh⟩)
  refine ⟨isIn, (fails _).mpr failed, unbounded, one, isOne, ?_⟩
  rw [changed x, own, if_pos x.same_self, ways.of_half _ _ isLow noHigh]
  rfl

end Blend

end Session

end LinearProgram
