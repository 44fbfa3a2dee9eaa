import PredicateRules.Proofs.Evaluation.Decision
import PredicateRules.Proofs.Value.Order

namespace PredicateRules

def Evaluated.Mismatched (result : Evaluated Bool) : Prop :=
  ∃ function expected found, result = .error (.typeMismatch function expected found)

/-- Exactly one of less, equal and greater is true, and what the operators tell agrees with it. -/
structure Evaluated.Trichotomy (tells : ComparisonOperator → Evaluated Bool) (less equal greater : Bool) :
    Prop where
  one : [less, equal, greater].count true = 1
  lessThan : tells .lessThan = .ok less
  lessThanOrEqual : tells .lessThanOrEqual = .ok (less || equal)
  equalTo : tells .equalTo = .ok equal
  greaterThan : tells .greaterThan = .ok greater
  greaterThanOrEqual : tells .greaterThanOrEqual = .ok (greater || equal)

namespace ComparisonOperator

variable {operator : ComparisonOperator} {options : ComparisonOptions} {left right : Value}

def ordering : List ComparisonOperator := [lessThan, lessThanOrEqual, greaterThan, greaterThanOrEqual]

theorem order_eq_ok_iff {outcome : Ordering} :
    operator.order left right = .ok outcome ↔ left.order? right = some outcome := by
  unfold order
  cases left.order? right <;> simp

theorem mismatched_of_order? (listed : operator ∈ ordering) (apart : left.order? right = none) :
    Evaluated.Mismatched (operator.apply options left right) := by
  have refused : operator.order left right =
      .error (operator.mismatch "comparable values" (if left.isNull then left else right)) := by
    rw [order, apart]
  simp only [ordering, List.mem_cons, List.not_mem_nil, or_false] at listed
  rcases listed with rfl | rfl | rfl | rfl <;> rw [apply, refused] <;> exact ⟨_, _, _, rfl⟩

theorem trichotomy_of_order? {outcome : Ordering} (compared : left.order? right = some outcome) :
    Evaluated.Trichotomy (fun operator => operator.apply options left right)
      (outcome == .lt) (outcome == .eq) (outcome == .gt) := by
  have found : ∀ operator : ComparisonOperator, operator.order left right = .ok outcome :=
    fun _ => order_eq_ok_iff.mpr compared
  refine ⟨by cases outcome <;> rfl, ?_, ?_, ?equal, ?_, ?_⟩
  case equal => exact congrArg Except.ok (Value.equal_of_order? compared)
  all_goals
    rw [apply, found]
    cases outcome <;> rfl

/-- Two values are refused in both orders, or one case is told in one order and its mirror in the other. -/
theorem mismatched_or_trichotomy (left right : Value) :
    (∀ operator ∈ ordering, Evaluated.Mismatched (operator.apply options left right) ∧
        Evaluated.Mismatched (operator.apply options right left)) ∨
      ∃ less equal greater,
        Evaluated.Trichotomy (fun operator => operator.apply options left right) less equal greater ∧
        Evaluated.Trichotomy (fun operator => operator.apply options right left) greater equal less := by
  have turned := Value.order?_swap left right
  cases compared : left.order? right with
  | none =>
      rw [compared] at turned
      exact .inl fun operator listed =>
        ⟨mismatched_of_order? listed compared, mismatched_of_order? listed turned⟩
  | some outcome =>
      rw [compared] at turned
      have mirror : (outcome.swap == .lt) = (outcome == .gt) ∧ (outcome.swap == .eq) = (outcome == .eq) ∧
        (outcome.swap == .gt) = (outcome == .lt) := by cases outcome <;> decide
      refine .inr ⟨outcome == .lt, outcome == .eq, outcome == .gt, trichotomy_of_order? compared, ?_⟩
      rw [← mirror.1, ← mirror.2.1, ← mirror.2.2]
      exact trichotomy_of_order? turned

theorem lessThan_of_order? {outcome : Ordering} (compared : left.order? right = some outcome) :
    lessThan.apply options left right = .ok outcome.isLT := by
  rw [apply, order_eq_ok_iff.mpr compared]
  rfl

theorem betweenBounds_eq_ok {low high : Value} {held : Bool}
    (holds : operator.betweenBounds left (.list [low, high]) = .ok held) :
    ∃ above below, low.order? left = some above ∧ left.order? high = some below ∧
      held = (above.isLT && below.isLT) := by
  have bounds : (do
      let above ← operator.order low left
      let below ← operator.order left high
      return above.isLT && below.isLT) = Except.ok held := holds
  cases first : operator.order low left with
  | error cause => rw [first] at bounds; cases bounds
  | ok above =>
      cases second : operator.order left high with
      | error cause => rw [first, second] at bounds; cases bounds
      | ok below =>
          rw [first, second] at bounds
          exact ⟨above, below, order_eq_ok_iff.mp first, order_eq_ok_iff.mp second,
            (Except.ok.inj bounds).symm⟩

variable {container needle : Value}

theorem membership_eq_ok_iff {held : Bool} : operator.membership container needle = .ok held ↔
    container.isTruthy = false ∧ held = false ∨
      container.isTruthy = true ∧ container.contains? needle = some held := by
  unfold membership
  cases truthy : container.isTruthy with
  | false => simp [eq_comm]
  | true => cases found : container.contains? needle <;> simp

theorem membership_elements {items : List Value} (elements : container.elements? = some items) :
    operator.membership container needle = .ok (ValueSet.holds items needle) := by
  rw [membership_eq_ok_iff]
  cases container with
  | list own => cases elements; cases items <;> simp [Value.isTruthy, Value.contains?, ValueSet.holds]
  | set own => cases elements; cases items <;> simp [Value.isTruthy, Value.contains?, ValueSet.holds]
  | _ => cases elements

theorem applyToAny_equalTo (items : List Value) :
    equalTo.applyToAny options needle items = .ok (ValueSet.holds items needle) := by
  induction items with
  | nil => rfl
  | cons item items ih =>
      have step : ValueSet.holds (item :: items) needle =
        (item == needle || ValueSet.holds items needle) := List.any_cons
      rw [applyToAny, ih, apply, step]
      cases item == needle <;> rfl

end ComparisonOperator

theorem ComparisonOptions.elements?_foldValue (options : ComparisonOptions) {value : Value}
    {items : List Value} (elements : value.elements? = some items) :
    ∃ folded, (options.foldValue value).elements? = some folded := by
  unfold foldValue
  cases options.foldsText with
  | false => exact ⟨items, elements⟩
  | true =>
      cases value with
      | list | set => exact ⟨_, rfl⟩
      | _ => cases elements

namespace Predicate

theorem evaluate_direct {world : World} {object : Value} {left right : Expression} {value other : Value}
    (found : left.evaluate world object [0] = .ok value)
    (foundRight : right.evaluate world object [1] = .ok other) (operator : ComparisonOperator) :
    (direct left operator right).evaluate world object = operator.apply .none value other := by
  have decided : (direct left operator right).evaluate world object =
      Comparison.decide ⟨left, right, .direct, operator, .none⟩ value other :=
    Comparison.evaluate_eq_decide found foundRight
  rw [decided, Comparison.decide]
  by_cases pattern : operator = .matchesPattern
  · rw [if_pos pattern]; rfl
  · rw [if_neg pattern]; rfl

theorem evaluate_conjunction {world : World} {object : Value} {first second : Predicate} {held other : Bool}
    (holds : first.evaluate (world.within .condition) object = .ok held)
    (holdsOther : second.evaluate ((world.within .otherConditions).within .condition) object = .ok other) :
    (conjunction [first, second]).evaluate world object = .ok (held && other) := by
  simp only [conjunction, evaluate, evaluateAll, holds, holdsOther, bind, Except.bind]
  cases held <;> cases other <;> rfl

theorem conjunction_of_between {world : World} {object value low high : Value} {held : Bool}
    (between : (direct (.constant value) .between (.aggregate [.constant low, .constant high])).evaluate
      world object = .ok held) :
    (conjunction [direct (.constant low) .lessThan (.constant value),
      direct (.constant value) .lessThan (.constant high)]).evaluate world object = .ok held := by
  have listed : (Expression.aggregate [.constant low, .constant high]).evaluate world object [1] =
    .ok (.list [low, high]) := rfl
  have bounds : ComparisonOperator.between.betweenBounds value (.list [low, high]) = .ok held :=
    (evaluate_direct rfl listed .between).symm.trans between
  obtain ⟨above, below, compared, comparedHigh, rfl⟩ := ComparisonOperator.betweenBounds_eq_ok bounds
  apply evaluate_conjunction
  · exact (evaluate_direct rfl rfl .lessThan).trans (ComparisonOperator.lessThan_of_order? compared)
  · exact (evaluate_direct rfl rfl .lessThan).trans (ComparisonOperator.lessThan_of_order? comparedHigh)

end Predicate

namespace Comparison

/-- Folding turns a list or a set into one again, whose elements the three questions go through. -/
theorem membership_of_elements (world : World) (object value : Value) {container : Value}
    {items : List Value} (elements : container.elements? = some items) (options : ComparisonOptions) :
    ∃ held,
      (⟨.constant value, .constant container, .direct, .isIn, options⟩ : Comparison).evaluate
        world object = .ok held ∧
      (⟨.constant container, .constant value, .direct, .contains, options⟩ : Comparison).evaluate
        world object = .ok held ∧
      (⟨.constant container, .constant value, .any, .equalTo, options⟩ : Comparison).evaluate
        world object = .ok held := by
  obtain ⟨folded, found⟩ := options.elements?_foldValue elements
  refine ⟨ValueSet.holds folded (options.foldValue value), ?isIn, ?contains, ?any⟩
  case isIn =>
    rw [evaluate_constants world object value container (by decide) options]
    exact ComparisonOperator.membership_elements found
  case contains =>
    rw [evaluate_constants world object container value (by decide) options]
    exact ComparisonOperator.membership_elements found
  case any =>
    rw [evaluate_eq_decide rfl rfl]
    simp only [decide, found]
    exact ComparisonOperator.applyToAny_equalTo folded

/-- For any two values, either the operators that ask for an order all refuse them, in both orders, or
they and equality agree on which one of less, equal and greater there is. BETWEEN tells what the two
comparisons with the bounds tell together. With any options, IN tells what CONTAINS tells with the
operands turned round, and of a list or a set what ANY tells with equality. -/
theorem operators_cohere (world : World) (object a b low high : Value) (options : ComparisonOptions) :
    let direct (left : Value) (operator : ComparisonOperator) (right : Value) : Predicate :=
      .direct (.constant left) operator (.constant right)
    let tells (left right : Value) (operator : ComparisonOperator) : Evaluated Bool :=
      (direct left operator right).evaluate world object
    let asks (left : Value) (modifier : ComparisonModifier) (operator : ComparisonOperator) (right : Value) :
        Evaluated Bool :=
      (⟨.constant left, .constant right, modifier, operator, options⟩ : Comparison).evaluate world object
    ((∀ operator ∈ ComparisonOperator.ordering,
        (tells a b operator).Mismatched ∧ (tells b a operator).Mismatched) ∨
      ∃ less equal greater, Evaluated.Trichotomy (tells a b) less equal greater ∧
        Evaluated.Trichotomy (tells b a) greater equal less) ∧
    (∀ held, (Predicate.direct (.constant a) .between (.aggregate [.constant low, .constant high])).evaluate
          world object = .ok held →
        (Predicate.conjunction [direct low .lessThan a, direct a .lessThan high]).evaluate world object =
          .ok held) ∧
    (∀ held, asks a .direct .isIn b = .ok held ↔ asks b .direct .contains a = .ok held) ∧
    ∀ items, b.elements? = some items → ∃ held, asks a .direct .isIn b = .ok held ∧
      asks b .direct .contains a = .ok held ∧ asks b .any .equalTo a = .ok held := by
  intro direct tells asks
  refine ⟨?order, fun _ between => Predicate.conjunction_of_between between, ?membership,
    fun _ elements => membership_of_elements world object a elements options⟩
  case order =>
    have applied : ∀ left right, tells left right = fun operator => operator.apply .none left right :=
      fun _ _ => funext fun operator => Predicate.evaluate_direct rfl rfl operator
    rw [applied, applied]
    exact ComparisonOperator.mismatched_or_trichotomy a b
  case membership =>
    intro held
    have inside : asks a .direct .isIn b = _ := evaluate_constants world object a b (by decide) options
    have containing : asks b .direct .contains a = _ :=
      evaluate_constants world object b a (by decide) options
    rw [inside, containing]
    exact ComparisonOperator.membership_eq_ok_iff.trans ComparisonOperator.membership_eq_ok_iff.symm

/-- A number between two bounds, and in a set of which two strings become one. -/
theorem operators_cohere_between :
    let five := Expression.constant (.int 5)
    let container := Expression.constant (.set [.string "B", .int 5, .string "b"])
    let options : ComparisonOptions := ⟨true, false, false⟩
    let world : World := ⟨fun _ => .silent, fun _ _ _ => .ok .null⟩
    ((Predicate.direct five .between (.aggregate [.constant (.int 1), .constant (.int 6)])).evaluate
        world .null = .ok true ∧
      (Predicate.conjunction [.direct (.constant (.int 1)) .lessThan five,
        .direct five .lessThan (.constant (.int 6))]).evaluate world .null = .ok true) ∧
    ∃ held, (⟨five, container, .direct, .isIn, options⟩ : Comparison).evaluate world .null = .ok held ∧
      (⟨container, five, .direct, .contains, options⟩ : Comparison).evaluate world .null = .ok held ∧
      (⟨container, five, .any, .equalTo, options⟩ : Comparison).evaluate world .null = .ok held := by
  intro five container options world
  obtain ⟨_, between, _, elements⟩ := operators_cohere world .null (.int 5)
    (.set [.string "B", .int 5, .string "b"]) (.int 1) (.int 6) options
  have bounds : (Predicate.direct five .between
    (.aggregate [.constant (.int 1), .constant (.int 6)])).evaluate world .null = .ok true := rfl
  exact ⟨⟨bounds, between true bounds⟩, elements _ rfl⟩

end Comparison

end PredicateRules
