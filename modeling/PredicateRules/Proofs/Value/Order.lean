import PredicateRules.Proofs.Value.Equality
import PredicateRules.Value.Order

namespace PredicateRules

namespace Float64

open Float.Model

theorem magnitudes_swap (exponent other : Int) (mantissa otherMantissa : Nat) :
    (compare other exponent).then (compare otherMantissa mantissa) =
      ((compare exponent other).then (compare mantissa otherMantissa)).swap := by
  rw [Ordering.swap_then, ← Std.OrientedOrd.eq_swap, ← Std.OrientedOrd.eq_swap]

theorem compare_swap (left right : UnpackedFloat) :
    right.compare left = (left.compare right).map Ordering.swap := by
  rcases left with ⟨_ | _⟩ | _ | ⟨_ | _⟩ | ⟨_ | _, mantissa, exponent, positive⟩ <;>
    rcases right with ⟨_ | _⟩ | _ | ⟨_ | _⟩ | ⟨_ | _, otherMantissa, other, positiveOther⟩ <;>
    first
    | rfl
    | exact congrArg some (magnitudes_swap ..)
    | exact congrArg (some ∘ Ordering.swap) (magnitudes_swap ..)

theorem lt_iff {left right : Float} :
    left < right ↔ left.toModel.unpack.compare right.toModel.unpack = some .lt := by
  show decide (left.toModel.unpack.lt right.toModel.unpack = true) = true ↔ _
  rw [decide_eq_true_iff]
  show (left.toModel.unpack.compare right.toModel.unpack == some .lt) = true ↔ _
  rw [beq_iff_eq]

theorem order?_eq (left right : Float) :
    order? left right = left.toModel.unpack.compare right.toModel.unpack := by
  have turned := compare_swap left.toModel.unpack right.toModel.unpack
  unfold order?
  simp only [lt_iff, beq_iff, turned]
  cases left.toModel.unpack.compare right.toModel.unpack with
  | none => rfl
  | some ordering => cases ordering <;> rfl

theorem order?_swap (left right : Float) : order? right left = (order? left right).map Ordering.swap := by
  rw [order?_eq, order?_eq, compare_swap]

theorem beq_of_order? {left right : Float} {ordering : Ordering}
    (compared : order? left right = some ordering) :
    (left == right) = (ordering == .eq) := by
  rw [order?_eq] at compared
  rw [Bool.eq_iff_iff, beq_iff, compared, Option.some.injEq, beq_iff_eq]

end Float64

namespace DateTime

theorem order_swap (left right : DateTime) : right.order left = (left.order right).swap := by
  show (compare right.year left.year).then (compare (right.fields.drop 1) (left.fields.drop 1)) =
    ((compare left.year right.year).then (compare (left.fields.drop 1) (right.fields.drop 1))).swap
  rw [Ordering.swap_then, ← Std.OrientedOrd.eq_swap, ← Std.OrientedOrd.eq_swap]

theorem order_eq_iff {left right : DateTime} : left.order right = .eq ↔ left = right := by
  obtain ⟨year, month, day, hour, minute, second, nanosecond⟩ := left
  obtain ⟨otherYear, otherMonth, otherDay, otherHour, otherMinute, otherSecond, otherNanosecond⟩ := right
  simp [order, compareLex, fields, Ordering.then_eq_eq]

end DateTime

namespace Value

theorem order?_swap_leaf {left : Value} (isLeaf : left.isLeaf = true) (right : Value) :
    right.order? left = (left.order? right).map Ordering.swap := by
  cases left with
  | list | set | map => cases isLeaf
  | int number =>
      cases right with
      | int other => exact congrArg some Std.OrientedOrd.eq_swap
      | float other => exact Float64.order?_swap _ _
      | _ => rfl
  | float number =>
      cases right with
      | int other => exact Float64.order?_swap _ _
      | float other => exact Float64.order?_swap _ _
      | _ => rfl
  | string text =>
      cases right with
      | string other => exact congrArg some Std.OrientedOrd.eq_swap
      | _ => rfl
  | bool value =>
      cases right with
      | bool other => exact congrArg some Std.OrientedOrd.eq_swap
      | _ => rfl
  | dateTime moment =>
      cases right with
      | dateTime other => exact congrArg some (moment.order_swap other)
      | _ => rfl
  | _ => cases right <;> rfl

theorem beq_eq_compare {α : Type} [BEq α] [LawfulBEq α] [Ord α] [Std.LawfulEqOrd α] (left right : α) :
    (left == right) = (compare left right == .eq) := by
  rw [Bool.eq_iff_iff, beq_iff_eq, beq_iff_eq, Std.LawfulEqOrd.compare_eq_iff_eq]

theorem equal_of_order?_leaf {left right : Value} (isLeaf : left.isLeaf = true) {ordering : Ordering}
    (compared : left.order? right = some ordering) : (left == right) = (ordering == .eq) := by
  cases left with
  | list | set | map => cases isLeaf
  | int number =>
      cases right with
      | int other => cases compared; exact beq_eq_compare number other
      | float other => exact Float64.beq_of_order? compared
      | _ => cases compared
  | float number =>
      cases right with
      | int other => exact Float64.beq_of_order? compared
      | float other => exact Float64.beq_of_order? compared
      | _ => cases compared
  | string text =>
      cases right with
      | string other => cases compared; exact beq_eq_compare text other
      | _ => cases compared
  | bool value =>
      cases right with
      | bool other => cases compared; exact beq_eq_compare value other
      | _ => cases compared
  | dateTime moment =>
      cases right with
      | dateTime other =>
          cases compared
          show (moment == other) = (moment.order other == .eq)
          rw [Bool.eq_iff_iff, beq_iff_eq, beq_iff_eq, DateTime.order_eq_iff]
      | _ => cases compared
  | _ => cases right <;> cases compared

section

variable {lefts : List Value}

theorem orderEach?_swap
    (each : ∀ left ∈ lefts, ∀ right, order? right left = (order? left right).map Ordering.swap)
    (rights : List Value) : orderEach? rights lefts = (orderEach? lefts rights).map Ordering.swap := by
  induction lefts generalizing rights with
  | nil => cases rights <;> rfl
  | cons left lefts ih =>
      cases rights with
      | nil => rfl
      | cons right rights =>
          rw [orderEach?, orderEach?, each left List.mem_cons_self]
          cases left.order? right with
          | none => rfl
          | some ordering =>
              cases ordering with
              | eq => exact ih (fun left member => each left (List.mem_cons_of_mem _ member)) rights
              | _ => rfl

theorem equal_of_orderEach?
    (each : ∀ left ∈ lefts, ∀ right ordering, left.order? right = some ordering →
      (left == right) = (ordering == .eq))
    {rights : List Value} {ordering : Ordering} (compared : orderEach? lefts rights = some ordering) :
    (list lefts == list rights) = (ordering == .eq) := by
  show agreesEach false lefts rights = _
  induction lefts generalizing rights with
  | nil => cases rights <;> cases compared <;> rfl
  | cons left lefts ih =>
      cases rights with
      | nil => cases compared; rfl
      | cons right rights =>
          rw [orderEach?] at compared
          rw [agreesEach]
          cases first : left.order? right with
          | none => rw [first] at compared; cases compared
          | some difference =>
              have own : agrees false left right = (difference == .eq) :=
                each left List.mem_cons_self right difference first
              rw [first] at compared
              rw [own]
              cases difference with
              | eq => exact ih (fun left member => each left (List.mem_cons_of_mem _ member)) compared
              | _ => cases compared; rfl

end

/-- Either neither order has a result, or the one is the other turned round. -/
theorem order?_swap (left right : Value) : right.order? left = (left.order? right).map Ordering.swap := by
  induction left using byParts generalizing right with
  | leaf left isLeaf => exact order?_swap_leaf isLeaf right
  | list lefts ih =>
      cases right with
      | list rights => exact orderEach?_swap ih rights
      | _ => rfl
  | _ => cases right <;> rfl

theorem equal_of_order? {left right : Value} {ordering : Ordering}
    (compared : left.order? right = some ordering) : (left == right) = (ordering == .eq) := by
  induction left using byParts generalizing right ordering with
  | leaf left isLeaf => exact equal_of_order?_leaf isLeaf compared
  | list lefts ih =>
      cases right with
      | list rights => exact equal_of_orderEach? (fun left member right ordering => ih left member) compared
      | _ => cases compared
  | _ => cases right <;> cases compared

end Value

end PredicateRules
