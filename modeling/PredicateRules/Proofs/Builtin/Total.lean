import Mathlib.Algebra.BigOperators.Group.List.Basic
import Mathlib.Algebra.Order.BigOperators.Group.List
import PredicateRules.Proofs.Builtin.Exactness

namespace PredicateRules.Builtin

def Fits (value : Int) : Prop := Int64.minValue.toInt ≤ value ∧ value ≤ Int64.maxValue.toInt

instance (value : Int) : Decidable (Fits value) := inferInstanceAs (Decidable (_ ∧ _))

theorem fits_toInt (number : Int64) : Fits number.toInt :=
  ⟨Int64.minValue_le_toInt number, Int64.toInt_le number⟩

theorem checked_of_fits {value : Int} (fits : Fits value) :
    ∃ number : Int64, checked value = some number ∧ number.toInt = value :=
  ⟨Int64.ofInt value, if_pos fits, toInt_ofInt_of_mem fits⟩

/-- What the numbers come to, whatever its size. -/
def exactTotal (numbers : List Int64) : Int := (numbers.map Int64.toInt).sum

@[simp]
theorem exactTotal_nil : exactTotal [] = 0 := rfl

@[simp]
theorem exactTotal_cons (number : Int64) (numbers : List Int64) :
    exactTotal (number :: numbers) = number.toInt + exactTotal numbers := rfl

@[simp]
theorem exactTotal_append (front behind : List Int64) :
    exactTotal (front ++ behind) = exactTotal front + exactTotal behind := by
  simp [exactTotal]

theorem exactTotal_nonneg {numbers : List Int64} (nonneg : ∀ number ∈ numbers, 0 ≤ number.toInt) :
    0 ≤ exactTotal numbers :=
  List.sum_nonneg (List.forall_mem_map.mpr nonneg)

theorem exactTotal_nonpos {numbers : List Int64} (nonpos : ∀ number ∈ numbers, number.toInt ≤ 0) :
    exactTotal numbers ≤ 0 :=
  le_of_le_of_eq (List.sum_le_card_nsmul _ 0 (List.forall_mem_map.mpr nonpos)) (nsmul_zero _)

theorem exactTotal_perm {numbers others : List Int64} (order : numbers.Perm others) :
    exactTotal numbers = exactTotal others :=
  (order.map _).sum_eq

/-- Added to `start` from the left, the numbers never lead out of 64 bits. -/
def FitsFrom (start : Int) (numbers : List Int64) : Prop :=
  ∀ front, front <+: numbers → Fits (start + exactTotal front)

theorem FitsFrom.fits {start : Int} {numbers : List Int64} (fits : FitsFrom start numbers) : Fits start := by
  simpa using fits [] List.nil_prefix

theorem fitsFrom_nil {start : Int} : FitsFrom start [] ↔ Fits start := by
  simp [FitsFrom]

theorem fitsFrom_cons {start : Int} {number : Int64} {numbers : List Int64} :
    FitsFrom start (number :: numbers) ↔ Fits start ∧ FitsFrom (start + number.toInt) numbers := by
  simp only [FitsFrom, List.prefix_cons_iff]
  constructor
  · intro fits
    refine ⟨by simpa using fits [] (.inl rfl), fun front begins => ?_⟩
    simpa [Int.add_assoc] using fits (number :: front) (.inr ⟨front, rfl, begins⟩)
  · rintro ⟨first, rest⟩ front (rfl | ⟨front, rfl, begins⟩)
    · simpa using first
    · simpa [Int.add_assoc] using rest front begins

section

variable (function : Builtin) {left right start : Int64} {numbers : List Int64}

theorem addValues_of_fits (fits : Fits (left.toInt + right.toInt)) :
    ∃ number : Int64, number.toInt = left.toInt + right.toInt ∧
      function.addValues (.int left) (.int right) = .ok (.int number) := by
  obtain ⟨number, found, exact⟩ := checked_of_fits fits
  refine ⟨number, exact, (arithmetic_ints (· + ·) (· + ·) left right).trans ?_⟩
  simp only [found]

theorem addValues_of_not_fits (leaves : ¬ Fits (left.toInt + right.toInt)) :
    ∃ float, function.addValues (.int left) (.int right) = .ok (.float float) := by
  have none : checked (left.toInt + right.toInt) = none := if_neg leaves
  refine ⟨Float.ofInt left.toInt + Float.ofInt right.toInt,
    (arithmetic_ints (· + ·) (· + ·) left right).trans ?_⟩
  simp only [none]
  rfl

theorem foldlM_float (float : Float) (numbers : List Int64) :
    ∃ sum, (numbers.map Value.int).foldlM function.addValues (.float float) = .ok (.float sum) := by
  induction numbers generalizing float with
  | nil => exact ⟨float, rfl⟩
  | cons number numbers ih => exact ih (float + Float.ofInt number.toInt)

theorem foldlM_of_fits (fits : FitsFrom start.toInt numbers) :
    ∃ sum, (numbers.map Value.int).foldlM function.addValues (.int start) = .ok (.int sum) := by
  induction numbers generalizing start with
  | nil => exact ⟨start, rfl⟩
  | cons next numbers ih =>
      obtain ⟨-, rest⟩ := fitsFrom_cons.mp fits
      obtain ⟨sum, exact, added⟩ := addValues_of_fits function rest.fits
      rw [← exact] at rest
      rw [List.map_cons, List.foldlM_cons, added]
      exact ih rest

theorem foldlM_of_not_fits (leaves : ¬ FitsFrom start.toInt numbers) :
    ∃ sum, (numbers.map Value.int).foldlM function.addValues (.int start) = .ok (.float sum) := by
  induction numbers generalizing start with
  | nil => exact absurd (fitsFrom_nil.mpr (fits_toInt start)) leaves
  | cons next numbers ih =>
      rw [List.map_cons, List.foldlM_cons]
      by_cases fits : Fits (start.toInt + next.toInt)
      · obtain ⟨sum, exact, added⟩ := addValues_of_fits function fits
        rw [added]
        refine ih fun rest => leaves (fitsFrom_cons.mpr ⟨fits_toInt start, ?_⟩)
        rwa [← exact]
      · obtain ⟨float, added⟩ := addValues_of_not_fits function fits
        rw [added]
        exact foldlM_float function float numbers

end

/-- The sum over a list of the numbers is the integer that they come to. -/
def SumsExactly (world : World) (site : Site) (numbers : List Int64) : Prop :=
  ∃ number : Int64, number.toInt = exactTotal numbers ∧
    sum.call world site [.list (numbers.map Value.int)] = .ok (.int number)

section

variable (world : World) (site : Site) {numbers : List Int64}

theorem sum_of_not_fits (leaves : ¬ FitsFrom 0 numbers) :
    ∃ float, sum.call world site [.list (numbers.map Value.int)] = .ok (.float float) :=
  foldlM_of_not_fits sum leaves

theorem sumsExactly_iff_fits : SumsExactly world site numbers ↔ FitsFrom 0 numbers := by
  constructor
  · rintro ⟨number, _, gives⟩
    by_contra leaves
    obtain ⟨float, other⟩ := sum_of_not_fits world site leaves
    rw [gives] at other
    cases other
  · intro fits
    have start : FitsFrom (0 : Int64).toInt numbers := fits
    obtain ⟨number, gives⟩ := foldlM_of_fits sum start
    exact ⟨number, (exact_of_foldlM gives).trans (Int.zero_add _), gives⟩

end

def positives (numbers : List Int64) : List Int64 := numbers.filter fun number => 0 < number.toInt

def negatives (numbers : List Int64) : List Int64 := numbers.filter fun number => number.toInt < 0

section

variable {numbers : List Int64}

theorem exactTotal_positives_cons (number : Int64) (numbers : List Int64) :
    exactTotal (positives (number :: numbers)) = Max.max number.toInt 0 + exactTotal (positives numbers) := by
  unfold positives
  by_cases positive : 0 < number.toInt
  · rw [List.filter_cons_of_pos (by simpa using positive), exactTotal_cons, max_eq_left positive.le]
  · rw [List.filter_cons_of_neg (by simpa using positive), max_eq_right (not_lt.mp positive), Int.zero_add]

theorem exactTotal_negatives_cons (number : Int64) (numbers : List Int64) :
    exactTotal (negatives (number :: numbers)) = Min.min number.toInt 0 + exactTotal (negatives numbers) := by
  unfold negatives
  by_cases negative : number.toInt < 0
  · rw [List.filter_cons_of_pos (by simpa using negative), exactTotal_cons, min_eq_left negative.le]
  · rw [List.filter_cons_of_neg (by simpa using negative), min_eq_right (not_lt.mp negative), Int.zero_add]

theorem exactTotal_parts (numbers : List Int64) :
    exactTotal numbers = exactTotal (positives numbers) + exactTotal (negatives numbers) ∧
      0 ≤ exactTotal (positives numbers) ∧ exactTotal (negatives numbers) ≤ 0 := by
  induction numbers with
  | nil => exact ⟨rfl, le_rfl, le_rfl⟩
  | cons number numbers ih =>
      rw [exactTotal_positives_cons, exactTotal_negatives_cons, exactTotal_cons]
      omega

theorem fitsFrom_of_parts (fits : Fits (exactTotal (positives numbers)))
    (fitsNegative : Fits (exactTotal (negatives numbers))) : FitsFrom 0 numbers := by
  rintro front ⟨behind, rfl⟩
  obtain ⟨total, above, below⟩ := exactTotal_parts front
  obtain ⟨-, aboveBehind, belowBehind⟩ := exactTotal_parts behind
  rw [positives, List.filter_append, exactTotal_append, ← positives, ← positives] at fits
  rw [negatives, List.filter_append, exactTotal_append, ← negatives, ← negatives] at fitsNegative
  have upper := fits.2
  have lower := fitsNegative.1
  exact ⟨by omega, by omega⟩

/-- What one part of the numbers comes to is a sum on the way when that part is added first. -/
theorem fits_of_every_order (every : ∀ order : List Int64, order.Perm numbers → FitsFrom 0 order)
    (test : Int64 → Bool) : Fits (exactTotal (numbers.filter test)) := by
  have first := every _ (List.filter_append_perm test numbers) (numbers.filter test) (List.prefix_append _ _)
  rwa [Int.zero_add] at first

theorem every_order_fits_iff :
    (∀ order : List Int64, order.Perm numbers → FitsFrom 0 order) ↔
      Fits (exactTotal (positives numbers)) ∧ Fits (exactTotal (negatives numbers)) := by
  constructor
  · exact fun every => ⟨fits_of_every_order every _, fits_of_every_order every _⟩
  · rintro ⟨fits, fitsNegative⟩ order same
    apply fitsFrom_of_parts
    · rwa [positives, exactTotal_perm (same.filter _)]
    · rwa [negatives, exactTotal_perm (same.filter _)]

theorem side_of_leaves {start : Int} (fits : Fits start) {number : Int64}
    (leaves : ¬ Fits (start + number.toInt)) :
    (0 ≤ start → 0 ≤ number.toInt) ∧ (start ≤ 0 → number.toInt ≤ 0) := by
  have bounds := fits_toInt number
  simp only [Fits] at *
  omega

/-- As long as the total fits, one of the numbers can be added next: if each of them led out of the range
on the side of the sum so far, the total would lie out there too. -/
theorem exists_next {start : Int} (fits : Fits start) {first : Int64} {rest : List Int64}
    (total : Fits (start + exactTotal (first :: rest))) :
    ∃ number ∈ first :: rest, Fits (start + number.toInt) := by
  by_contra none
  have leaves : ∀ number ∈ first :: rest, ¬ Fits (start + number.toInt) :=
    fun number member adds => none ⟨number, member, adds⟩
  have outside := leaves first List.mem_cons_self
  have side : ∀ number ∈ rest, _ :=
    fun number member => side_of_leaves fits (leaves number (List.mem_cons_of_mem first member))
  have least : Int64.minValue.toInt ≤ 0 := by decide
  have greatest : 0 ≤ Int64.maxValue.toInt := by decide
  have bounds := fits_toInt first
  simp only [Fits, exactTotal_cons] at fits total outside bounds
  rcases Int.le_total 0 start with above | below
  · have others : 0 ≤ exactTotal rest := exactTotal_nonneg fun number member => (side number member).1 above
    omega
  · have others : exactTotal rest ≤ 0 := exactTotal_nonpos fun number member => (side number member).2 below
    omega

/-- Numbers whose total fits can be put in an order in which every sum on the way fits. -/
theorem exists_order {start : Int} (fits : Fits start) (total : Fits (start + exactTotal numbers)) :
    ∃ order : List Int64, order.Perm numbers ∧ FitsFrom start order := by
  induction length : numbers.length generalizing start numbers with
  | zero =>
      obtain rfl := List.eq_nil_of_length_eq_zero length
      exact ⟨[], .nil, fitsFrom_nil.mpr fits⟩
  | succ count ih =>
      cases numbers with
      | nil => cases length
      | cons first rest =>
          obtain ⟨number, member, adds⟩ := exists_next fits total
          have moved := List.perm_cons_erase member
          rw [exactTotal_perm moved, exactTotal_cons, ← Int.add_assoc] at total
          have fewer : ((first :: rest).erase number).length = count := by
            rw [List.length_erase_of_mem member, length, Nat.add_sub_cancel]
          obtain ⟨order, same, way⟩ := ih adds total fewer
          exact ⟨number :: order, (same.cons number).trans moved.symm, fitsFrom_cons.mpr ⟨fits, way⟩⟩

end

/-- The sum over a list of integers is their exact total just if every sum on the way fits into 64 bits.
In whatever order they stand, it is that total or a float. Some order has it exact just if the total fits,
and every order just if the positive and the negative ones fit by themselves. -/
theorem sums_exactly_iff (world : World) (site : Site) (numbers : List Int64) :
    (SumsExactly world site numbers ↔ ∀ front, front <+: numbers → Fits (exactTotal front)) ∧
      (∀ order : List Int64, order.Perm numbers →
        (∃ number : Int64, number.toInt = exactTotal numbers ∧
          sum.call world site [.list (order.map Value.int)] = .ok (.int number)) ∨
        ∃ float, sum.call world site [.list (order.map Value.int)] = .ok (.float float)) ∧
      ((∃ order : List Int64, order.Perm numbers ∧ SumsExactly world site order) ↔
        Fits (exactTotal numbers)) ∧
      ((∀ order : List Int64, order.Perm numbers → SumsExactly world site order) ↔
        Fits (exactTotal (positives numbers)) ∧ Fits (exactTotal (negatives numbers))) := by
  refine ⟨?_, ?_, ?_, ?_⟩
  · rw [sumsExactly_iff_fits]
    simp only [FitsFrom, Int.zero_add]
  · intro order same
    rw [← exactTotal_perm same]
    by_cases fits : FitsFrom 0 order
    · exact .inl ((sumsExactly_iff_fits world site).mpr fits)
    · exact .inr (sum_of_not_fits world site fits)
  · constructor
    · rintro ⟨order, same, number, exact, _⟩
      rw [← exactTotal_perm same, ← exact]
      exact fits_toInt number
    · intro fits
      rw [← Int.zero_add (exactTotal numbers)] at fits
      obtain ⟨order, same, way⟩ := exists_order (fits_toInt 0) fits
      exact ⟨order, same, (sumsExactly_iff_fits world site).mpr way⟩
  · simp only [sumsExactly_iff_fits]
    exact every_order_fits_iff

/-- The greatest integer, then one more and one less: the sum is back where it was but has become a float
in between. In another order it is exact. -/
theorem not_sums_exactly :
    let world : World := ⟨fun _ => .silent, fun _ _ _ => .ok .null⟩
    Fits (exactTotal [Int64.maxValue, 1, -1]) ∧
      ¬ SumsExactly world [] [Int64.maxValue, 1, -1] ∧ SumsExactly world [] [Int64.maxValue, -1, 1] := by
  intro world
  refine ⟨by decide, ?_, ?_⟩
  · rw [sumsExactly_iff_fits]
    intro fits
    have second : ¬ Fits (exactTotal [Int64.maxValue, 1]) := by decide
    exact second (by simpa using fits [Int64.maxValue, 1] ⟨[-1], rfl⟩)
  · simp only [sumsExactly_iff_fits, fitsFrom_cons, fitsFrom_nil]
    decide

end PredicateRules.Builtin
