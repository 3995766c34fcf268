import LinearProgram.Proofs.Listed
import LinearProgram.Proofs.NumberTexts

/-!
Constraint lines read back. The words of a line are those of the terms, four for each, with those of the bounds
around them. Their count and the first of them tell how the bounds stand, so a line shows one list of terms and one
pair of bounds.
-/

namespace LinearProgram

section Words

def words (text : String) : List String := (text.toList.splitOn ' ').map String.ofList

theorem words_append (first second : String) : words (first ++ " " ++ second) = words first ++ words second := by
  have blank : " ".toList = [' '] := rfl
  rw [words, String.toList_append, String.toList_append, blank, List.append_assoc, List.singleton_append,
    List.splitOn_append_cons_self, List.map_append]
  rfl

theorem words_of_blankless (text : String) (blank : ' ' ∉ text.toList) : words text = [text] := by
  rw [words, List.splitOn_eq_singleton blank, List.map_singleton, String.ofList_toList]

theorem words_intercalate (text : String) (texts : List String) :
    words (" ".intercalate (text :: texts)) = (text :: texts).flatMap words := by
  induction texts generalizing text with
  | nil => rw [String.intercalate_singleton, List.flatMap_singleton]
  | cons next rest ih => rw [String.intercalate_cons_cons, words_append, ih, ← List.flatMap_cons]

end Words

section Terms

structure IsTerm (term : String × Binary64) : Prop where
  blankless : ' ' ∉ term.1.toList
  number : term.2.isNaN = false

def termWords (term : String × Binary64) : List String :=
  [if term.2.isBelowZero then "-" else "+", term.2.abs.amount, "*", term.1]

def sumWords : List (String × Binary64) → List String
  | [] => ["0"]
  | terms => terms.flatMap termWords

theorem amount_words (x : Binary64) (number : x.isNaN = false) : words x.amount = [x.amount] := by
  obtain ⟨place, -, amount⟩ := amount_of_number x number
  exact words_of_blankless _ amount.blank

theorem words_cellText (term : String × Binary64) (isTerm : IsTerm term) :
    words (Listing.cellText term) = termWords term := by
  have spaced : Listing.cellText term =
      (if term.2.isBelowZero then "-" else "+") ++ " " ++ (term.2.abs.amount ++ " " ++ ("*" ++ " " ++ term.1)) := by
    have times : " * " = " " ++ ("*" ++ " ") := by decide
    unfold Listing.cellText Listing.termText
    rw [times]
    cases term.2.isBelowZero <;> simp [← String.toList_inj]
  have sign : words (if term.2.isBelowZero then "-" else "+") = [if term.2.isBelowZero then "-" else "+"] := by
    cases term.2.isBelowZero <;> decide
  rw [spaced, words_append, words_append, words_append, sign,
    amount_words _ ((isNaN_abs term.2).trans isTerm.number), words_of_blankless "*" (by decide),
    words_of_blankless term.1 isTerm.blankless]
  rfl

theorem words_sumText (terms : List (String × Binary64)) (areTerms : ∀ term ∈ terms, IsTerm term) :
    words (Listing.sumText (terms.map Listing.cellText)) = sumWords terms := by
  cases terms with
  | nil => decide
  | cons first rest =>
      rw [List.map_cons, Listing.sumText, words_intercalate, ← List.map_cons, List.flatMap_map, sumWords]
      · exact List.flatMap_congr fun term inside => words_cellText term (areTerms term inside)
      all_goals simp

def SameTerm (term other : String × Binary64) : Prop :=
  term.1 = other.1 ∧ Number.equals (.float term.2) (.float other.2) = true

theorem sameTerm_of_words (term other : String × Binary64) (isTerm : IsTerm term) (isOther : IsTerm other)
    (same : termWords term = termWords other) : SameTerm term other := by
  simp only [termWords, List.cons.injEq, and_true] at same
  obtain ⟨signs, amounts, -, keys⟩ := same
  have sign : term.2.isBelowZero = other.2.isBelowZero := by
    cases first : term.2.isBelowZero <;> cases second : other.2.isBelowZero <;> simp [first, second] at signs ⊢
  exact ⟨keys, equals_of_place? _ _ isTerm.number
    (place?_of_abs_amount _ _ isTerm.number isOther.number sign amounts)⟩

-- Four words for each term, so the words of all give those of each.
theorem sameTerms_of_flatMap (terms others : List (String × Binary64)) (areTerms : ∀ term ∈ terms, IsTerm term)
    (areOthers : ∀ other ∈ others, IsTerm other) (same : terms.flatMap termWords = others.flatMap termWords) :
    List.Forall₂ SameTerm terms others := by
  induction terms generalizing others with
  | nil =>
      cases others with
      | nil => exact .nil
      | cons other rest => cases same
  | cons term rest ih =>
      cases others with
      | nil => cases same
      | cons other remaining =>
          rw [List.flatMap_cons, List.flatMap_cons] at same
          obtain ⟨words, later⟩ := List.append_inj same rfl
          rw [List.forall_mem_cons] at areTerms areOthers
          exact .cons (sameTerm_of_words term other areTerms.1 areOthers.1 words)
            (ih remaining areTerms.2 areOthers.2 later)

/-- The words of a sum are a zero alone, or begin with a sign and are four for each term. -/
theorem sumWords_cases (terms : List (String × Binary64)) :
    terms = [] ∧ sumWords terms = ["0"] ∨
      (∃ sign rest, sumWords terms = sign :: rest ∧ (sign = "+" ∨ sign = "-")) ∧
        sumWords terms = terms.flatMap termWords ∧ (sumWords terms).length = 4 * terms.length := by
  cases terms with
  | nil => exact Or.inl ⟨rfl, rfl⟩
  | cons first rest =>
      refine Or.inr ⟨⟨_, _, rfl, ?_⟩, rfl, ?_⟩
      · cases first.2.isBelowZero <;> simp
      · have four : (fun term => (termWords term).length) = fun _ => 4 := rfl
        rw [sumWords, List.length_flatMap, four, List.map_const', List.sum_replicate_nat, mul_comm]
        simp

end Terms

namespace BoundForm

def front : BoundForm → List String
  | between lower _ => [lower.amount, "<="]
  | _ => []

def back : BoundForm → List String
  | free => []
  | atLeast bound => [">=", bound.amount]
  | atMost bound => ["<=", bound.amount]
  | equal bound => ["=", bound.amount]
  | between _ upper => ["<=", upper.amount]

def AreNumbers : BoundForm → Prop
  | free => True
  | atLeast bound | atMost bound | equal bound => bound.isNaN = false
  | between lower upper => lower.isNaN = false ∧ upper.isNaN = false

def lowerPlace? : BoundForm → Option (ℤ × ℤ)
  | free | atMost _ => none
  | atLeast bound | equal bound | between bound _ => (Number.float bound).place?

def upperPlace? : BoundForm → Option (ℤ × ℤ)
  | free | atLeast _ => none
  | atMost bound | equal bound | between _ bound => (Number.float bound).place?

variable {form other : BoundForm}

theorem words_write (areNumbers : form.AreNumbers) (sum : String) :
    words (form.write sum) = form.front ++ (words sum ++ form.back) := by
  have related (text relation next : String) (blankless : ' ' ∉ relation.toList) :
      words (text ++ (" " ++ relation ++ " ") ++ next) = words text ++ relation :: words next := by
    have spaced : text ++ (" " ++ relation ++ " ") ++ next = text ++ " " ++ (relation ++ " " ++ next) := by
      simp only [String.append_assoc]
    rw [spaced, words_append, words_append, words_of_blankless relation blankless]
    rfl
  cases form with
  | free => exact (List.append_nil _).symm
  | atLeast bound => exact (related sum ">=" _ (by decide)).trans (by rw [amount_words bound areNumbers]; rfl)
  | atMost bound => exact (related sum "<=" _ (by decide)).trans (by rw [amount_words bound areNumbers]; rfl)
  | equal bound => exact (related sum "=" _ (by decide)).trans (by rw [amount_words bound areNumbers]; rfl)
  | between lower upper =>
      refine (related _ "<=" _ (by decide)).trans ?_
      rw [amount_words upper areNumbers.2]
      refine (congrArg (· ++ _) (related lower.amount "<=" sum (by decide))).trans ?_
      rw [amount_words lower areNumbers.1]
      simp [front, back]

/-- The words around a sum tell the places of the bounds. -/
theorem places_of_words (areNumbers : form.AreNumbers) (otherNumbers : other.AreNumbers)
    (fronts : form.front = other.front) (backs : form.back = other.back) :
    form.lowerPlace? = other.lowerPlace? ∧ form.upperPlace? = other.upperPlace? := by
  -- bounds of two forms differ in their relation or in what stands in front of the sum
  cases form <;> cases other <;>
    simp only [front, back, List.cons.injEq, String.reduceEq, reduceCtorEq, and_true, true_and, false_and]
      at fronts backs
  case free.free => exact ⟨rfl, rfl⟩
  case atLeast.atLeast bound another =>
    exact ⟨place?_of_amount _ _ areNumbers otherNumbers backs, rfl⟩
  case atMost.atMost bound another =>
    exact ⟨rfl, place?_of_amount _ _ areNumbers otherNumbers backs⟩
  case equal.equal bound another =>
    have same := place?_of_amount _ _ areNumbers otherNumbers backs
    exact ⟨same, same⟩
  case between.between =>
    exact ⟨place?_of_amount _ _ areNumbers.1 otherNumbers.1 fronts,
      place?_of_amount _ _ areNumbers.2 otherNumbers.2 backs⟩

/-- In front of a sum there is nothing, with at most a relation and a number behind it, or there are a number and a
relation, with as much behind. -/
theorem front_cases (form : BoundForm) (areNumbers : form.AreNumbers) :
    form.front = [] ∧ (form.back.length = 0 ∨ form.back.length = 2) ∨
      ∃ bound : Binary64, bound.isNaN = false ∧ form.front = [bound.amount, "<="] ∧ form.back.length = 2 := by
  cases form with
  | free => exact Or.inl ⟨rfl, Or.inl rfl⟩
  | atLeast | atMost | equal => exact Or.inl ⟨rfl, Or.inr rfl⟩
  | between lower => exact Or.inr ⟨lower, areNumbers.1, rfl, rfl⟩

end BoundForm

section Lines

-- A number and a relation do not stand in front of a sum where the other line has nothing.
theorem front_apart (bound : Binary64) (number : bound.isNaN = false) (terms others : List (String × Binary64))
    (back behind : List String) (two : back.length = 2) (few : behind.length = 0 ∨ behind.length = 2) :
    [bound.amount, "<="] ++ (sumWords terms ++ back) ≠ [] ++ (sumWords others ++ behind) := by
  intro same
  obtain ⟨place, -, amount⟩ := amount_of_number bound number
  rcases sumWords_cases others with ⟨-, zero⟩ | ⟨⟨sign, rest, sum, isSign⟩, -, -⟩
  · have lengths := congrArg List.length same
    rw [zero] at lengths
    simp only [List.length_append, List.length_cons, List.length_nil] at lengths
    rcases sumWords_cases terms with ⟨-, alone⟩ | ⟨⟨_, _, filled, -⟩, -, -⟩
    · rw [alone, List.length_singleton] at lengths
      omega
    · rw [filled, List.length_cons] at lengths
      omega
  · rw [sum] at same
    obtain ⟨first, -⟩ := List.cons.inj same
    rcases isSign with rfl | rfl
    · exact amount.ne_sign.1 first
    · exact amount.ne_sign.2 first

theorem length_sumWords (terms : List (String × Binary64)) :
    (sumWords terms).length = 1 ∨ ∃ count, (sumWords terms).length = 4 * count := by
  rcases sumWords_cases terms with ⟨-, alone⟩ | ⟨-, -, length⟩
  · exact Or.inl (by rw [alone]; rfl)
  · exact Or.inr ⟨_, length⟩

/-- The words of a line come apart in one way. -/
theorem parts_of_words (form other : BoundForm) (areNumbers : form.AreNumbers) (otherNumbers : other.AreNumbers)
    (terms others : List (String × Binary64))
    (same : form.front ++ (sumWords terms ++ form.back) = other.front ++ (sumWords others ++ other.back)) :
    form.front = other.front ∧ sumWords terms = sumWords others ∧ form.back = other.back := by
  rcases form.front_cases areNumbers with ⟨front, few⟩ | ⟨bound, number, front, two⟩ <;>
    rcases other.front_cases otherNumbers with ⟨before, many⟩ | ⟨another, alsoNumber, before, also⟩ <;>
    rw [front, before] at same
  · -- the counts of all words tell whether two of them stand behind the sum
    rw [List.nil_append, List.nil_append] at same
    have counts := congrArg List.length same
    rw [List.length_append, List.length_append] at counts
    have backs : form.back.length = other.back.length := by
      rcases length_sumWords terms with one | ⟨count, four⟩ <;>
        rcases length_sumWords others with alone | ⟨total, fours⟩ <;> omega
    obtain ⟨sums, behind⟩ := List.append_inj' same backs
    exact ⟨front.trans before.symm, sums, behind⟩
  · exact absurd same.symm (front_apart another alsoNumber others terms _ _ also few)
  · exact absurd same (front_apart bound number terms others _ _ two many)
  · obtain ⟨fronts, rest⟩ := List.append_inj same rfl
    obtain ⟨sums, behind⟩ := List.append_inj' rest (two.trans also.symm)
    exact ⟨(front.trans fronts).trans before.symm, sums, behind⟩

theorem sameTerms_of_sumWords (terms others : List (String × Binary64)) (areTerms : ∀ term ∈ terms, IsTerm term)
    (areOthers : ∀ other ∈ others, IsTerm other) (same : sumWords terms = sumWords others) :
    List.Forall₂ SameTerm terms others := by
  refine sameTerms_of_flatMap terms others areTerms areOthers ?_
  rcases sumWords_cases terms with ⟨empty, alone⟩ | ⟨⟨sign, rest, sum, isSign⟩, flat, -⟩ <;>
    rcases sumWords_cases others with ⟨none, zero⟩ | ⟨⟨mark, later, filled, isMark⟩, spread, -⟩
  · rw [empty, none]
  · rw [alone, filled] at same
    rcases isMark with rfl | rfl <;> simp at same
  · rw [sum, zero] at same
    rcases isSign with rfl | rfl <;> simp at same
  · rw [← flat, ← spread, same]

end Lines

section Bounds

def Value.IsNumberBound (bound : Value) : Prop :=
  bound = .null ∨ ∃ x : Binary64, bound = .float x ∧ x.isNaN = false

def Value.SameBound (bound other : Value) : Prop :=
  bound = .null ∧ other = .null ∨
    ∃ x y, bound = .float x ∧ other = .float y ∧ Number.equals (.float x) (.float y) = true

theorem stored_of_number (bound : Value) (isNumber : bound.IsNumberBound) : bound.IsStoredBound :=
  isNumber.imp_right fun ⟨x, isFloat, _⟩ => ⟨x, isFloat⟩

def Value.place? (bound : Value) : Option (ℤ × ℤ) := bound.number?.bind Number.place?

theorem sameBound_of_place? (bound other : Value) (isNumber : bound.IsNumberBound)
    (isOther : other.IsNumberBound) (same : bound.place? = other.place?) : bound.SameBound other := by
  have placed (x : Binary64) (number : x.isNaN = false) : (Value.float x).place? ≠ none := by
    obtain ⟨place, isPlace, -⟩ := amount_of_number x number
    exact fun none => Option.some_ne_none place (isPlace.symm.trans none)
  rcases isNumber with rfl | ⟨x, rfl, number⟩ <;> rcases isOther with rfl | ⟨y, rfl, another⟩
  · exact Or.inl ⟨rfl, rfl⟩
  · exact absurd same.symm (placed y another)
  · exact absurd same (placed x number)
  · exact Or.inr ⟨x, y, rfl, rfl, equals_of_place? x y number same⟩

/-- The form of two bounds has their places. -/
theorem places_ofBounds (lower upper : Value) (isLower : lower.IsNumberBound) (isUpper : upper.IsNumberBound) :
    (BoundForm.ofBounds lower upper).AreNumbers ∧
      (BoundForm.ofBounds lower upper).lowerPlace? = lower.place? ∧
      (BoundForm.ofBounds lower upper).upperPlace? = upper.place? := by
  rcases isLower with rfl | ⟨low, rfl, number⟩ <;> rcases isUpper with rfl | ⟨high, rfl, another⟩
  · exact ⟨trivial, rfl, rfl⟩
  · exact ⟨another, rfl, rfl⟩
  · exact ⟨number, rfl, rfl⟩
  · have form : BoundForm.ofBounds (.float low) (.float high) =
        if (Value.float low).equals (.float high) then .equal low else .between low high := rfl
    rw [form]
    split
    next same =>
      obtain ⟨place, first, second⟩ := (equals_iff_place? (.float low) (.float high)).mp
        (by simpa [Value.equals, Value.number?] using same)
      exact ⟨number, rfl, first.trans second.symm⟩
    next => exact ⟨⟨number, another⟩, rfl, rfl⟩

end Bounds

theorem written_of_rowLine (key : Value) (terms : List (String × Binary64)) (lower upper : Value) (line : String)
    (shown : Listing.rowLine key terms lower upper = .ok line) : ∃ name, key.written = .ok name := by
  unfold Listing.rowLine at shown
  dsimp only at shown
  split at shown
  · obtain ⟨name, written, -⟩ := bind_ok shown
    exact ⟨name, written⟩
  · obtain ⟨clauses, -, rest⟩ := bind_ok shown
    obtain ⟨name, written, -⟩ := bind_ok rest
    exact ⟨name, written⟩

/-- A constraint line shows its row unambiguously. Lines of one key with the same text have terms for the same
columns in the same order, with equal numbers, and equal bounds on each side or none. -/
theorem rowLine_unambiguous (key : Value) (terms others : List (String × Binary64)) (lower upper low high : Value)
    (areTerms : ∀ term ∈ terms, IsTerm term) (areOthers : ∀ other ∈ others, IsTerm other)
    (isLower : lower.IsNumberBound) (isUpper : upper.IsNumberBound) (isLow : low.IsNumberBound)
    (isHigh : high.IsNumberBound) (line : String) (shown : Listing.rowLine key terms lower upper = .ok line)
    (same : Listing.rowLine key others low high = .ok line) :
    List.Forall₂ SameTerm terms others ∧ lower.SameBound low ∧ upper.SameBound high := by
  obtain ⟨name, written⟩ := written_of_rowLine key terms lower upper line shown
  obtain ⟨numbers, lowerPlace, upperPlace⟩ := places_ofBounds lower upper isLower isUpper
  obtain ⟨otherNumbers, lowPlace, highPlace⟩ := places_ofBounds low high isLow isHigh
  rw [rowLine_eq key name written terms lower upper (stored_of_number _ isLower) (stored_of_number _ isUpper)]
    at shown
  rw [rowLine_eq key name written others low high (stored_of_number _ isLow) (stored_of_number _ isHigh),
    ← shown, Except.ok.injEq, String.append_left_inj, String.append_right_inj] at same
  have parts := congrArg words same.symm
  rw [BoundForm.words_write numbers, BoundForm.words_write otherNumbers, words_sumText terms areTerms,
    words_sumText others areOthers] at parts
  obtain ⟨fronts, sums, backs⟩ := parts_of_words _ _ numbers otherNumbers terms others parts
  obtain ⟨lowers, uppers⟩ := BoundForm.places_of_words numbers otherNumbers fronts backs
  refine ⟨sameTerms_of_sumWords terms others areTerms areOthers sums, ?_, ?_⟩
  · exact sameBound_of_place? lower low isLower isLow (lowerPlace.symm.trans (lowers.trans lowPlace))
  · exact sameBound_of_place? upper high isUpper isHigh (upperPlace.symm.trans (uppers.trans highPlace))

/-- Zeros of both signs have one text, here beside a fraction and an infinity. -/
theorem zeros_unambiguous :
    let line := "s.t. still: - 2.5 * x + 0 * y + inf * z = 0;"
    let terms := [("x", Binary64.ofRatio true 5 2), ("y", .ofRank false 0), ("z", .infinity false)]
    let others := [("x", Binary64.ofRatio true 5 2), ("y", .ofRank true 0), ("z", .infinity false)]
    Listing.rowLine (.text "still") terms (.float (.ofRank false 0)) (.float (.ofRank true 0)) = .ok line ∧
      Listing.rowLine (.text "still") others (.float (.ofRank true 0)) (.float (.ofRank false 0)) = .ok line ∧
      List.Forall₂ SameTerm terms others ∧
      (Value.float (.ofRank false 0)).SameBound (.float (.ofRank true 0)) ∧
      (Value.float (.ofRank true 0)).SameBound (.float (.ofRank false 0)) := by
  intro line terms others
  have shown : Listing.rowLine (.text "still") terms (.float (.ofRank false 0)) (.float (.ofRank true 0)) =
      .ok line := ok_of_toOption _ _ (by decide +kernel)
  have same : Listing.rowLine (.text "still") others (.float (.ofRank true 0)) (.float (.ofRank false 0)) =
      .ok line := ok_of_toOption _ _ (by decide +kernel)
  have areTerms (term : String × Binary64) (inside : term ∈ terms) : IsTerm term :=
    ⟨by revert term; decide +kernel, by revert term; decide +kernel⟩
  have areOthers (other : String × Binary64) (inside : other ∈ others) : IsTerm other :=
    ⟨by revert other; decide +kernel, by revert other; decide +kernel⟩
  have zero (negative : Bool) : (Value.float (.ofRank negative 0)).IsNumberBound := Or.inr ⟨_, rfl, rfl⟩
  exact ⟨shown, same, rowLine_unambiguous _ terms others _ _ _ _ areTerms areOthers (zero false) (zero true)
    (zero true) (zero false) line shown same⟩

end LinearProgram
