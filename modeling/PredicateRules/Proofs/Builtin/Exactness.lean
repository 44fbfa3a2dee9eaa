import Mathlib.Algebra.Order.Group.Unbundled.Int
import Mathlib.Algebra.Ring.Int.Defs
import PredicateRules.Proofs.Inference.Completion

namespace PredicateRules.Builtin

theorem toInt_ofInt_of_mem {value : Int}
    (within : Int64.minValue.toInt ≤ value ∧ value ≤ Int64.maxValue.toInt) :
    (Int64.ofInt value).toInt = value := by
  have least : Int64.minValue.toInt = -2 ^ 63 := rfl
  have greatest : Int64.maxValue.toInt = 2 ^ 63 - 1 := rfl
  exact Int64.toInt_ofInt_of_le (by omega) (by omega)

theorem toInt_of_checked {value : Int} {number : Int64} (fits : checked value = some number) :
    number.toInt = value := by
  unfold checked at fits
  split at fits
  next within =>
    obtain rfl := Option.some.inj fits
    exact toInt_ofInt_of_mem within
  next => cases fits

theorem tmod_shifted_of_pos (dividend : Int) {divisor : Int} (positive : 0 < divisor) :
    (dividend.tmod divisor + divisor).tmod divisor = dividend.fmod divisor := by
  have above : 0 ≤ dividend.tmod divisor + divisor := by
    have := Int.lt_tmod_of_pos dividend positive
    omega
  have whole := Int.tmod_add_mul_tdiv dividend divisor
  calc (dividend.tmod divisor + divisor).tmod divisor
      = (dividend.tmod divisor + divisor) % divisor := Int.tmod_eq_emod_of_nonneg above
    _ = dividend.tmod divisor % divisor := Int.add_emod_right _ _
    _ = (dividend.tmod divisor + divisor * dividend.tdiv divisor) % divisor :=
        (Int.add_mul_emod_self_left _ _ _).symm
    _ = dividend.fmod divisor := by rw [whole, Int.fmod_eq_emod_of_nonneg _ positive.le]

theorem tmod_shifted (dividend : Int) {divisor : Int} (nonzero : divisor ≠ 0) :
    (dividend.tmod divisor + divisor).tmod divisor = dividend.fmod divisor := by
  rcases Int.lt_or_gt_of_ne nonzero with negative | positive
  · have turned := tmod_shifted_of_pos (-dividend) (Int.neg_pos_of_neg negative)
    rw [Int.tmod_neg, Int.neg_tmod, ← Int.neg_add, Int.tmod_neg, Int.neg_tmod,
      Int.neg_fmod_neg] at turned
    exact Int.neg_inj.mp turned
  · exact tmod_shifted_of_pos dividend positive

theorem fmod_mem (dividend : Int) {divisor : Int64} (nonzero : divisor.toInt ≠ 0) :
    Int64.minValue.toInt ≤ dividend.fmod divisor.toInt ∧
      dividend.fmod divisor.toInt ≤ Int64.maxValue.toInt := by
  have least := Int64.minValue_le_toInt divisor
  have greatest := Int64.toInt_le divisor
  have below := Int64.toInt_minValue_lt_zero
  have above : 0 < Int64.maxValue.toInt := by decide
  rcases Int.lt_or_gt_of_ne nonzero with negative | positive
  · have lower := Int.fmod_nonneg_of_pos (-dividend) (Int.neg_pos_of_neg negative)
    have upper := Int.fmod_lt_of_pos (-dividend) (Int.neg_pos_of_neg negative)
    rw [Int.neg_fmod_neg] at lower upper
    omega
  · have lower := Int.fmod_nonneg_of_pos dividend positive
    have upper := Int.fmod_lt_of_pos dividend positive
    omega

section

variable {function : Builtin} {left right : Value} {result : Value} {number : Int64}

theorem float_of_floatArithmetic {onFloats : Float → Float → Float}
    (gives : function.floatArithmetic onFloats left right = .ok result) :
    ∃ float, result = .float float := by
  unfold floatArithmetic at gives
  cases first : function.number left with
  | error cause =>
      rw [first] at gives
      cases gives
  | ok leftNumber =>
      cases second : function.number right with
      | error cause =>
          rw [first, second] at gives
          cases gives
      | ok rightNumber =>
          rw [first, second] at gives
          exact ⟨_, (Except.ok.inj gives).symm⟩

theorem arithmetic_ints (onInts : Int → Int → Int) (onFloats : Float → Float → Float)
    (left right : Int64) :
    function.arithmetic onInts onFloats (.int left) (.int right) =
      match checked (onInts left.toInt right.toInt) with
      | some result => .ok (.int result)
      | none => function.floatArithmetic onFloats (.int left) (.int right) := rfl

theorem exact_of_arithmetic {onInts : Int → Int → Int} {onFloats : Float → Float → Float}
    {left right : Int64}
    (gives : function.arithmetic onInts onFloats (.int left) (.int right) = .ok (.int number)) :
    number.toInt = onInts left.toInt right.toInt := by
  rw [arithmetic_ints] at gives
  cases fits : checked (onInts left.toInt right.toInt) with
  | some exact =>
      rw [fits] at gives
      obtain rfl := Value.int.inj (Except.ok.inj gives)
      exact toInt_of_checked fits
  | none =>
      rw [fits] at gives
      obtain ⟨float, same⟩ := float_of_floatArithmetic gives
      cases same

theorem modulusValues_ints (left right : Int64) :
    function.modulusValues (.int left) (.int right) =
      if right == 0 then .error (.divisionByZero function.selector)
      else
        .ok (.int (Int64.ofInt ((left.toInt.tmod right.toInt + right.toInt).tmod right.toInt))) :=
  rfl

theorem exact_of_modulusValues {left right : Int64}
    (gives : function.modulusValues (.int left) (.int right) = .ok (.int number)) :
    number.toInt = left.toInt.fmod right.toInt := by
  rw [modulusValues_ints] at gives
  split at gives
  next => cases gives
  next nonzero =>
    have divides : right.toInt ≠ 0 := fun zero =>
      nonzero (beq_iff_eq.mpr (Int64.toInt_inj.mp zero))
    rw [tmod_shifted _ divides] at gives
    obtain rfl := Value.int.inj (Except.ok.inj gives)
    exact toInt_ofInt_of_mem (fmod_mem _ divides)

theorem exact_of_negated {operand : Int64}
    (gives : function.negated (.int operand) = .ok (.int number)) :
    number.toInt = -operand.toInt := by
  unfold negated at gives
  dsimp only at gives
  cases fits : checked (-operand.toInt) with
  | some exact =>
      rw [fits] at gives
      obtain rfl := Value.int.inj (Except.ok.inj gives)
      exact toInt_of_checked fits
  | none =>
      rw [fits] at gives
      cases gives

theorem magnitude_exact_iff {operand : Int64}
    (gives : function.magnitude (.int operand) = .ok (.int number)) :
    number.toInt = |operand.toInt| ↔ operand ≠ Int64.minValue := by
  obtain rfl := Value.int.inj (Except.ok.inj gives)
  have least := Int64.minValue_le_toInt operand
  have greatest := Int64.toInt_le operand
  have minimum : Int64.minValue.toInt = -2 ^ 63 := rfl
  have maximum : Int64.maxValue.toInt = 2 ^ 63 - 1 := rfl
  rw [clampToInt64, toInt_ofInt_of_mem (by omega), Int.abs_eq_natAbs, ne_eq, ← Int64.toInt_inj]
  omega

end

section

variable {function : Builtin} {result : Value} {number : Int64}

theorem float_of_addValues_float {float : Float} {value : Value}
    (gives : function.addValues (.float float) value = .ok result) :
    ∃ sum, result = .float sum :=
  float_of_floatArithmetic gives

theorem float_of_foldlM_float {float : Float} {items : List Value}
    (gives : items.foldlM function.addValues (.float float) = .ok result) :
    ∃ sum, result = .float sum := by
  induction items generalizing float with
  | nil => exact ⟨float, (Except.ok.inj gives).symm⟩
  | cons item items ih =>
      rw [List.foldlM_cons] at gives
      cases first : function.addValues (.float float) item with
      | error cause =>
          rw [first] at gives
          cases gives
      | ok next =>
          obtain ⟨sum, rfl⟩ := float_of_addValues_float first
          rw [first] at gives
          exact ih gives

/-- A total that is an integer has never left 64 bits on the way. -/
theorem exact_of_foldlM {numbers : List Int64} {start : Int64}
    (gives : (numbers.map Value.int).foldlM function.addValues (.int start) = .ok (.int number)) :
    number.toInt = start.toInt + (numbers.map Int64.toInt).sum := by
  induction numbers generalizing start with
  | nil =>
      obtain rfl := Value.int.inj (Except.ok.inj gives)
      exact (Int.add_zero _).symm
  | cons item numbers ih =>
      rw [List.map_cons, List.foldlM_cons] at gives
      cases first : function.addValues (.int start) (.int item) with
      | error cause =>
          rw [first] at gives
          cases gives
      | ok next =>
          rw [first] at gives
          have sum : function.arithmetic (· + ·) (· + ·) (.int start) (.int item) = .ok next := first
          rw [arithmetic_ints] at sum
          cases fits : checked (start.toInt + item.toInt) with
          | some exact =>
              rw [fits] at sum
              obtain rfl := Except.ok.inj sum
              rw [ih gives, toInt_of_checked fits, List.map_cons, List.sum_cons, Int.add_assoc]
          | none =>
              rw [fits] at sum
              obtain ⟨float, rfl⟩ := float_of_floatArithmetic sum
              obtain ⟨other, same⟩ := float_of_foldlM_float gives
              cases same

end

def exactResult? : Builtin → List Int64 → Option Int
  | add, [left, right] => some (left.toInt + right.toInt)
  | subtract, [left, right] => some (left.toInt - right.toInt)
  | multiply, [left, right] => some (left.toInt * right.toInt)
  | modulus, [left, right] => some (left.toInt.fmod right.toInt)
  | changeSign, [operand] => some (-operand.toInt)
  | abs, [operand] => some |operand.toInt|
  | ceiling, [operand] => some operand.toInt
  | _, _ => none

variable {world : World} {site : Site}

theorem exact_iff_of_call {function : Builtin} {numbers : List Int64} {exact : Int} {number : Int64}
    (means : function.exactResult? numbers = some exact)
    (gives : function.call world site (numbers.map Value.int) = .ok (.int number)) :
    number.toInt = exact ↔ ¬(function = abs ∧ numbers = [Int64.minValue]) := by
  unfold exactResult? at means
  split at means
  case h_1 left right =>
    obtain rfl := Option.some.inj means
    have sum : number.toInt = left.toInt + right.toInt := exact_of_arithmetic gives
    simp [sum]
  case h_2 left right =>
    obtain rfl := Option.some.inj means
    have difference : number.toInt = left.toInt - right.toInt := exact_of_arithmetic gives
    simp [difference]
  case h_3 left right =>
    obtain rfl := Option.some.inj means
    have product : number.toInt = left.toInt * right.toInt := exact_of_arithmetic gives
    simp [product]
  case h_4 left right =>
    obtain rfl := Option.some.inj means
    have remainder : number.toInt = left.toInt.fmod right.toInt := exact_of_modulusValues gives
    simp [remainder]
  case h_5 operand =>
    obtain rfl := Option.some.inj means
    have turned : changeSign.negated (.int operand) = .ok (.int number) := gives
    simp [exact_of_negated turned]
  case h_6 operand =>
    obtain rfl := Option.some.inj means
    have bare : abs.magnitude (.int operand) = .ok (.int number) := gives
    simpa using magnitude_exact_iff bare
  case h_7 operand =>
    obtain rfl := Option.some.inj means
    obtain rfl := Value.int.inj (Except.ok.inj gives)
    simp
  case h_8 => cases means

theorem exact_of_sum {collection : Value} {numbers : List Int64} {number : Int64}
    (elements : collection.elements? = some (numbers.map Value.int))
    (gives : sum.call world site [collection] = .ok (.int number)) :
    number.toInt = (numbers.map Int64.toInt).sum := by
  have items : sum.items collection = .ok (numbers.map Value.int) := by
    unfold Builtin.items
    rw [elements]
  have total : (numbers.map Value.int).foldlM sum.addValues (.int 0) = .ok (.int number) := by
    have whole : (sum.items collection >>= sum.total) = .ok (.int number) := gives
    rw [items] at whole
    exact whole
  rw [exact_of_foldlM total]
  exact Int.zero_add _

/-- Wherever a function of integers gives an integer, it is the exact number, but for the magnitude of
the least integer; and so is every sum over a list or a set of integers that is an integer. -/
theorem integer_exact_iff (world : World) (site : Site) :
    (∀ (function : Builtin) (numbers : List Int64) (exact : Int),
      function.exactResult? numbers = some exact → ∀ number : Int64,
        function.call world site (numbers.map Value.int) = .ok (.int number) →
          (number.toInt = exact ↔ ¬(function = abs ∧ numbers = [Int64.minValue]))) ∧
      ∀ (collection : Value) (numbers : List Int64),
        collection.elements? = some (numbers.map Value.int) → ∀ number : Int64,
          sum.call world site [collection] = .ok (.int number) →
            number.toInt = (numbers.map Int64.toInt).sum :=
  ⟨fun _ _ _ means _ gives => exact_iff_of_call means gives,
    fun _ _ elements _ gives => exact_of_sum elements gives⟩

theorem integer_exact_iff_remainder :
    let world : World := ⟨fun _ => .silent, fun _ _ _ => .ok .null⟩
    (modulus.call world [] [.int Int64.minValue, .int (-10)] = .ok (.int (-8)) ∧
        (-8 : Int64).toInt = Int64.minValue.toInt.fmod (-10 : Int64).toInt) ∧
      sum.call world [] [.set [.int Int64.maxValue, .int (-1)]] = .ok (.int (Int64.maxValue - 1)) ∧
        (Int64.maxValue - 1).toInt = Int64.maxValue.toInt + ((-1 : Int64).toInt + 0) := by
  intro world
  have remainder : modulus.call world [] [.int Int64.minValue, .int (-10)] = .ok (.int (-8)) := rfl
  have total : sum.call world [] [.set [.int Int64.maxValue, .int (-1)]] =
      .ok (.int (Int64.maxValue - 1)) := rfl
  obtain ⟨exactly, sums⟩ := integer_exact_iff world []
  refine ⟨⟨remainder, ?_⟩, total, ?_⟩
  · exact (exactly modulus [Int64.minValue, -10] _ rfl _ remainder).mpr (by decide)
  · exact sums (.set [.int Int64.maxValue, .int (-1)]) [Int64.maxValue, -1] rfl _ total

/-- The magnitude of the least integer is an integer, and one less than it should be. -/
theorem not_integer_exact :
    abs.call (⟨fun _ => .silent, fun _ _ _ => .ok .null⟩ : World) [] [.int Int64.minValue] =
        .ok (.int Int64.maxValue) ∧
      Int64.maxValue.toInt ≠ |Int64.minValue.toInt| :=
  ⟨rfl, by decide⟩

end PredicateRules.Builtin
