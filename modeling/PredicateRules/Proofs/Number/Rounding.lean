import Mathlib.Algebra.Order.Field.Power
import Mathlib.Algebra.Order.Ring.Rat
import Mathlib.Algebra.Order.Field.Basic
import Mathlib.Data.Rat.Defs
import Mathlib.Tactic.FieldSimp
import Mathlib.Tactic.Linarith
import Mathlib.Tactic.NormNum
import Mathlib.Tactic.Positivity
import Mathlib.Tactic.Ring
import PredicateRules.Proofs.Number.Packing

namespace PredicateRules.Binary64

open Float.Model Float.Model.UnpackedFloat

/-- Rounding to the nearest whole number gives this one, the even one where two are as near. -/
structure Nearest (value : ℚ) (whole : Nat) : Prop where
  low : (whole : ℚ) - 1 / 2 ≤ value
  high : value ≤ whole + 1 / 2
  even : value = whole - 1 / 2 ∨ value = whole + 1 / 2 → whole % 2 = 0

theorem Nearest.le_of {value : ℚ} {whole other : Nat} (nearest : Nearest value whole)
    (nearestOther : Nearest value other) : whole ≤ other := by
  by_contra less
  have least : (other : ℚ) + 1 ≤ whole := by exact_mod_cast Nat.lt_of_not_le less
  have low := nearest.low
  have high := nearestOther.high
  have next : (whole : ℚ) = other + 1 := by linarith
  have evenWhole := nearest.even (.inl (by linarith))
  have evenOther := nearestOther.even (.inr (by linarith))
  have : whole = other + 1 := by exact_mod_cast next
  omega

theorem Nearest.unique {value : ℚ} {whole other : Nat} (nearest : Nearest value whole)
    (nearestOther : Nearest value other) : whole = other :=
  Nat.le_antisymm (nearest.le_of nearestOther) (nearestOther.le_of nearest)

/-- A mantissa with the two bits behind it stands for a value: the first is a half, and the second
tells whether there is more. -/
def Stands (value : ℚ) (extended : ExtendedMantissa) : Prop :=
  ∃ rest : ℚ, value = extended.mantissa + (if extended.roundBit then 1 / 2 else 0) + rest ∧
    0 ≤ rest ∧ rest < 1 / 2 ∧ (extended.stickyBit = true ↔ rest ≠ 0)

namespace Stands

variable {value : ℚ} {extended : ExtendedMantissa}

theorem mantissa_le (stands : Stands value extended) : (extended.mantissa : ℚ) ≤ value := by
  obtain ⟨rest, rfl, positive, _, _⟩ := stands
  split <;> linarith

theorem lt_mantissa (stands : Stands value extended) : value < extended.mantissa + 1 := by
  obtain ⟨rest, rfl, _, small, _⟩ := stands
  split <;> linarith

theorem shiftRightOne (stands : Stands value extended) : Stands (value / 2) extended.shiftRightOne := by
  obtain ⟨mantissa, round, sticky⟩ := extended
  obtain ⟨rest, rfl, positive, small, further⟩ := stands
  dsimp only at further
  have split : (mantissa : ℚ) = 2 * (mantissa / 2 : Nat) + (mantissa % 2 : Nat) := by
    exact_mod_cast (Nat.div_add_mod mantissa 2).symm
  refine ⟨(if round then 1 / 2 else 0) / 2 + rest / 2, ?_, ?_, ?_, ?_⟩
  · rcases Nat.mod_two_eq_zero_or_one mantissa with even | odd
    · simp only [ExtendedMantissa.shiftRightOne, even, split, bne_self_eq_false, Bool.false_eq_true, if_false, Nat.cast_zero]
      ring
    · simp only [ExtendedMantissa.shiftRightOne, odd, split, Nat.cast_one, bne_iff_ne, ne_eq, one_ne_zero, not_false_eq_true, if_true]
      ring
  · split <;> linarith
  · split <;> linarith
  · cases round
    · simp [ExtendedMantissa.shiftRightOne, further]
    · simp only [ExtendedMantissa.shiftRightOne, Bool.true_or, true_iff, if_true]
      positivity

theorem shiftRight (stands : Stands value extended) (count : Nat) :
    Stands (value / 2 ^ count) (extended >>> count) := by
  induction count with
  | zero =>
      rw [pow_zero, div_one]
      exact stands
  | succ count ih =>
      rw [pow_succ, ← div_div]
      exact ih.shiftRightOne

theorem nearest (stands : Stands value extended) : Nearest value extended.roundedMantissa := by
  obtain ⟨mantissa, round, sticky⟩ := extended
  obtain ⟨rest, rfl, positive, small, further⟩ := stands
  cases round <;> cases sticky <;> dsimp only at further
  case false.false =>
    have none : rest = 0 := by simpa using further
    show Nearest _ mantissa
    refine ⟨?_, ?_, fun tie => ?_⟩ <;> simp only [none, Bool.false_eq_true, if_false] at *
    · linarith
    · linarith
    · rcases tie with tie | tie <;> linarith
  case false.true =>
    have some : 0 < rest := lt_of_le_of_ne positive (Ne.symm (further.mp rfl))
    show Nearest _ mantissa
    refine ⟨?_, ?_, fun tie => ?_⟩ <;> simp only [Bool.false_eq_true, if_false] at *
    · linarith
    · linarith
    · rcases tie with tie | tie <;> linarith
  case true.false =>
    have none : rest = 0 := by simpa using further
    show Nearest _ (mantissa + mantissa % 2)
    rcases Nat.mod_two_eq_zero_or_one mantissa with even | odd
    · rw [even, Nat.add_zero]
      exact ⟨by simp [none]; linarith, by simp [none], fun _ => even⟩
    · rw [odd]
      refine ⟨?_, ?_, fun _ => by omega⟩
      · push_cast
        simp only [none, if_true]
        linarith
      · push_cast
        simp only [none, if_true]
        linarith
  case true.true =>
    have some : 0 < rest := lt_of_le_of_ne positive (Ne.symm (further.mp rfl))
    show Nearest _ (mantissa + 1)
    refine ⟨?_, ?_, fun tie => ?_⟩ <;> push_cast at * <;> simp only [if_true] at *
    · linarith
    · linarith
    · rcases tie with tie | tie <;> linarith

theorem mantissa_ofMantissaAndAccuracy (mantissa : Nat) (accuracy : Accuracy) :
    (ExtendedMantissa.ofMantissaAndAccuracy mantissa accuracy).mantissa = mantissa := by
  rcases accuracy with _ | order
  · rfl
  · cases order <;> rfl

theorem exact (mantissa : Nat) :
    Stands mantissa (ExtendedMantissa.ofMantissaAndAccuracy mantissa .exact) :=
  ⟨0, by simp [ExtendedMantissa.ofMantissaAndAccuracy], le_refl _, by norm_num,
    by simp [ExtendedMantissa.ofMantissaAndAccuracy]⟩

/-- What is left of a division decides on the bits. -/
theorem ofFraction (number : Nat) {divisor : Nat} (positive : 0 < divisor) :
    Stands ((number : ℚ) / divisor) (ExtendedMantissa.ofMantissaAndAccuracy (number / divisor)
      (accuracyOfFraction (number % divisor) divisor)) := by
  have less := Nat.mod_lt number positive
  have some : (0 : ℚ) < divisor := by exact_mod_cast positive
  have whole : (number : ℚ) = divisor * (number / divisor : Nat) + (number % divisor : Nat) := by
    exact_mod_cast (Nat.div_add_mod number divisor).symm
  have parts : (number : ℚ) / divisor = (number / divisor : Nat) + (number % divisor : Nat) / divisor := by
    rw [div_eq_iff some.ne', add_mul, div_mul_cancel₀ _ some.ne', mul_comm]
    exact whole
  rw [parts]
  unfold accuracyOfFraction
  split
  next none =>
    rw [none]
    exact ⟨0, by simp [ExtendedMantissa.ofMantissaAndAccuracy], le_refl _, by norm_num,
      by simp [ExtendedMantissa.ofMantissaAndAccuracy]⟩
  next more =>
    have left : (0 : ℚ) < (number % divisor : Nat) := by exact_mod_cast Nat.pos_of_ne_zero more
    have fraction : (0 : ℚ) < (number % divisor : Nat) / divisor := div_pos left some
    have below : ((number % divisor : Nat) : ℚ) / divisor < 1 := by
      rw [div_lt_one some]
      exact_mod_cast less
    -- The two bits tell whether the fraction is less than a half, a half, or more.
    cases order : compare (2 * (number % divisor)) divisor with
    | lt =>
        have half : ((number % divisor : Nat) : ℚ) / divisor < 1 / 2 := by
          rw [div_lt_div_iff₀ some two_pos, one_mul, mul_comm]
          exact_mod_cast Nat.compare_eq_lt.mp order
        exact ⟨_, by simp [ExtendedMantissa.ofMantissaAndAccuracy], fraction.le, half,
          by simp [ExtendedMantissa.ofMantissaAndAccuracy, fraction.ne']⟩
    | eq =>
        have half : ((number % divisor : Nat) : ℚ) / divisor = 1 / 2 := by
          rw [div_eq_div_iff some.ne' two_ne_zero, one_mul, mul_comm]
          exact_mod_cast Nat.compare_eq_eq.mp order
        exact ⟨0, by simp [ExtendedMantissa.ofMantissaAndAccuracy, half], le_refl _, by norm_num,
          by simp [ExtendedMantissa.ofMantissaAndAccuracy]⟩
    | gt =>
        have half : 1 / 2 < ((number % divisor : Nat) : ℚ) / divisor := by
          rw [div_lt_div_iff₀ two_pos some, one_mul, mul_comm]
          exact_mod_cast Nat.compare_eq_gt.mp order
        refine ⟨(number % divisor : Nat) / divisor - 1 / 2, ?_, by linarith, by linarith, ?_⟩
        · simp only [ExtendedMantissa.ofMantissaAndAccuracy, if_true]
          ring
        · simp only [ExtendedMantissa.ofMantissaAndAccuracy, true_iff]
          linarith

end Stands

/-- How far below a double the numbers go that round to it, in units of its last place. Below a power of
two the next double is only half as far away as above it. -/
def margin (significand : Nat) (exponent : Int) : ℚ :=
  if significand = 2 ^ 52 ∧ leastExponent < exponent then 1 / 4 else 1 / 2

/-- A number rounds to a double. -/
structure Rounds (significand : Nat) (exponent : Int) (value : ℚ) : Prop where
  low : significand - margin significand exponent ≤ value / 2 ^ exponent
  high : value / 2 ^ exponent ≤ significand + 1 / 2
  even : value / 2 ^ exponent = significand - margin significand exponent ∨
    value / 2 ^ exponent = significand + 1 / 2 → significand % 2 = 0

theorem two_zpow_pos (exponent : Int) : (0 : ℚ) < 2 ^ exponent := zpow_pos two_pos exponent

theorem targetExponent_eq (mantissa : Nat) (exponent : Int) :
    Format.binary64.targetExponent (totalExponent mantissa exponent) =
      max ((mantissa.log2 : Int) + exponent - 52) leastExponent := by
  show max ((mantissa.log2 : Int) + 1 + exponent - 53) (-1074) = _
  simp only [leastExponent]
  omega

section

variable {mantissa : Nat} {scale : Int} {value : ℚ}

theorem log2_bounds (least : mantissa ≤ value / 2 ^ scale) (most : value / 2 ^ scale < mantissa + 1) :
    value < 2 ^ ((mantissa.log2 : Int) + 1 + scale) ∧
      (mantissa ≠ 0 → 2 ^ ((mantissa.log2 : Int) + scale) ≤ value) := by
  have unit := two_zpow_pos scale
  rw [le_div_iff₀ unit] at least
  rw [div_lt_iff₀ unit] at most
  rw [zpow_add₀ two_ne_zero _ scale, zpow_add₀ two_ne_zero _ scale]
  constructor
  · have power : (mantissa : ℚ) + 1 ≤ 2 ^ ((mantissa.log2 : Int) + 1) := by
      exact_mod_cast Nat.lt_log2_self (n := mantissa)
    exact most.trans_le (mul_le_mul_of_nonneg_right power unit.le)
  · intro some
    have power : (2 : ℚ) ^ (mantissa.log2 : Int) ≤ mantissa := by
      exact_mod_cast Nat.log2_self_le some
    exact (mul_le_mul_of_nonneg_right power unit.le).trans least

theorem lt_of_no_mantissa (most : value / 2 ^ scale < mantissa + 1)
    (fine : scale ≤ Format.binary64.targetExponent (totalExponent mantissa scale)) (none : mantissa = 0) :
    value < 2 ^ (leastExponent : Int) := by
  subst none
  have least : scale ≤ leastExponent := by
    rw [targetExponent_eq, Nat.log2_zero] at fine
    omega
  rw [div_lt_iff₀ (two_zpow_pos scale), Nat.cast_zero, zero_add, one_mul] at most
  exact most.trans_le (zpow_le_zpow_right₀ one_le_two least)

end

theorem Rounds.lt {significand : Nat} {exponent : Int} {value : ℚ}
    (canonical : Canonical significand exponent) (rounds : Rounds significand exponent value) :
    value < 2 ^ (53 + exponent) := by
  have high := rounds.high
  have below : (significand : ℚ) + 1 ≤ 2 ^ 53 := by exact_mod_cast canonical.below
  rw [div_le_iff₀ (two_zpow_pos exponent)] at high
  rw [zpow_add₀ two_ne_zero]
  refine high.trans_lt (mul_lt_mul_of_pos_right ?_ (two_zpow_pos exponent))
  norm_num at below ⊢
  linarith

theorem Rounds.of_lt {significand : Nat} {exponent : Int} {value : ℚ}
    (canonical : Canonical significand exponent) (rounds : Rounds significand exponent value)
    (less : value < 2 ^ (52 + exponent)) (more : leastExponent < exponent) :
    significand = 2 ^ 52 ∧ (2 ^ 52 - 1 / 4) * 2 ^ exponent ≤ value := by
  have unit := two_zpow_pos exponent
  have low := rounds.low
  rw [le_div_iff₀ unit] at low
  have full : 2 ^ 52 ≤ significand := canonical.normal.resolve_right more.ne'
  have same : significand = 2 ^ 52 := by
    by_contra differs
    have next : ((2 ^ 52 + 1 : Nat) : ℚ) ≤ significand :=
      Nat.cast_le.mpr (Nat.lt_of_le_of_ne full (Ne.symm differs))
    have half : margin significand exponent = 1 / 2 := if_neg fun both => differs both.1
    rw [zpow_add₀ two_ne_zero] at less
    have := lt_of_mul_lt_mul_right (low.trans_lt less) unit.le
    rw [half] at this
    push_cast at next
    linarith
  have quarter : margin significand exponent = 1 / 4 := by simp [margin, same, more]
  rw [quarter, same] at low
  exact ⟨same, by exact_mod_cast low⟩

/-- The exponent that rounding is done at: that of the double, or one less where a number is below the
power of two that it rounds to. -/
theorem targetExponent_of_rounds {significand mantissa : Nat} {exponent scale : Int} {value : ℚ}
    (canonical : Canonical significand exponent) (rounds : Rounds significand exponent value)
    (least : mantissa ≤ value / 2 ^ scale) (most : value / 2 ^ scale < mantissa + 1)
    (fine : scale ≤ Format.binary64.targetExponent (totalExponent mantissa scale)) :
    Format.binary64.targetExponent (totalExponent mantissa scale) = exponent ∨
      significand = 2 ^ 52 ∧ value < 2 ^ (52 + exponent) ∧
        Format.binary64.targetExponent (totalExponent mantissa scale) = exponent - 1 := by
  have unit := two_zpow_pos exponent
  obtain ⟨below, above⟩ := log2_bounds least most
  have within := rounds.lt canonical
  have leastBelow := canonical.least
  have tiny := lt_of_no_mantissa most fine
  rw [targetExponent_eq] at fine ⊢
  have increasing : ∀ {left right : Int}, (2 : ℚ) ^ left < 2 ^ right → left < right :=
    fun less => (zpow_lt_zpow_iff_right₀ one_lt_two).mp less
  by_cases normal : 2 ^ (52 + exponent) ≤ value
  · left
    have some : mantissa ≠ 0 := by
      intro none
      have := increasing (normal.trans_lt (tiny none))
      omega
    have upper := increasing ((above some).trans_lt within)
    have lower := increasing (normal.trans_lt below)
    omega
  · have less := lt_of_not_ge normal
    rcases leastBelow.eq_or_lt with same | more
    · left
      subst same
      by_cases none : mantissa = 0
      · simp only [none, Nat.log2_zero] at fine ⊢
        omega
      · have upper := increasing ((above none).trans_lt less)
        omega
    · right
      -- Only a power of two is rounded to from below its grid.
      obtain ⟨power, near⟩ := rounds.of_lt canonical less more
      have half : 2 ^ (51 + exponent) ≤ value := by
        rw [zpow_add₀ two_ne_zero]
        refine le_trans (mul_le_mul_of_nonneg_right ?_ unit.le) near
        norm_num
      have some : mantissa ≠ 0 := by
        intro none
        have := increasing (half.trans_lt (tiny none))
        omega
      have upper := increasing ((above some).trans_lt less)
      have lower := increasing (half.trans_lt below)
      exact ⟨power, less, by omega⟩

/-- The nearest whole number of units of its last place is the significand. -/
theorem Rounds.nearest {significand : Nat} {exponent : Int} {value : ℚ}
    (rounds : Rounds significand exponent value) : Nearest (value / 2 ^ exponent) significand := by
  have low := rounds.low
  have half : margin significand exponent ≤ 1 / 2 := by
    unfold margin
    split <;> norm_num
  refine ⟨by linarith, rounds.high, fun tie => ?_⟩
  rcases tie with tie | tie
  · exact rounds.even (.inl (by linarith))
  · exact rounds.even (.inr tie)

theorem Rounds.nearest_below {significand : Nat} {exponent : Int} {value : ℚ}
    (canonical : Canonical significand exponent) (rounds : Rounds significand exponent value)
    (less : value < 2 ^ (52 + exponent)) (more : leastExponent < exponent) :
    Nearest (value / 2 ^ (exponent - 1)) (2 ^ 53) := by
  obtain ⟨_, near⟩ := rounds.of_lt canonical less more
  have unit := two_zpow_pos (exponent - 1)
  have double : (2 : ℚ) ^ exponent = 2 * 2 ^ (exponent - 1) := by
    rw [zpow_sub_one₀ two_ne_zero]
    field_simp
  rw [zpow_add₀ two_ne_zero] at less
  rw [double] at near less
  refine ⟨?_, ?_, fun _ => by decide⟩
  · rw [le_div_iff₀ unit]
    push_cast
    linarith
  · rw [div_le_iff₀ unit]
    push_cast
    norm_num at less ⊢
    linarith

theorem shiftToTargetExponent_eq {mantissa : Nat} {scale : Int} (accuracy : Accuracy)
    (fine : scale ≤ Format.binary64.targetExponent (totalExponent mantissa scale)) :
    shiftToTargetExponent .binary64 mantissa scale accuracy =
      (ExtendedMantissa.ofMantissaAndAccuracy mantissa accuracy >>>
          (Format.binary64.targetExponent (totalExponent mantissa scale) - scale).toNat,
        Format.binary64.targetExponent (totalExponent mantissa scale)) := by
  have reached : scale +
      (Format.binary64.targetExponent (totalExponent mantissa scale) - scale).toNat =
      Format.binary64.targetExponent (totalExponent mantissa scale) := by omega
  rw [shiftToTargetExponent, shiftToExponent, reached]

theorem shiftToTargetExponent_canonical {significand : Nat} {exponent : Int}
    (canonical : Canonical significand exponent) :
    shiftToTargetExponent .binary64 significand exponent .exact =
      (⟨significand, false, false⟩, exponent) := by
  have short : significand.log2 < 53 :=
    (Nat.log2_lt (Nat.ne_of_gt canonical.positive)).mpr canonical.below
  have least := canonical.least
  have none : (Format.binary64.targetExponent (totalExponent significand exponent) - exponent).toNat =
      0 := by
    rw [targetExponent_eq]
    omega
  simp only [shiftToTargetExponent, shiftToExponent, none]
  simp only [Nat.cast_zero, add_zero]
  rfl

theorem shiftToTargetExponent_power {exponent : Int} (more : leastExponent ≤ exponent) :
    shiftToTargetExponent .binary64 (2 ^ 53) exponent .exact =
      (⟨2 ^ 52, false, false⟩, exponent + 1) := by
  have one : (Format.binary64.targetExponent (totalExponent (2 ^ 53) exponent) - exponent).toNat = 1 := by
    rw [targetExponent_eq, Nat.log2_two_pow]
    omega
  simp only [shiftToTargetExponent, shiftToExponent, one]
  rfl

theorem roundWithAccuracy_eq {significand mantissa : Nat} {exponent scale : Int} {value : ℚ}
    {accuracy : Accuracy} (canonical : Canonical significand exponent)
    (rounds : Rounds significand exponent value)
    (stands : Stands (value / 2 ^ scale) (ExtendedMantissa.ofMantissaAndAccuracy mantissa accuracy))
    (fine : scale ≤ Format.binary64.targetExponent (totalExponent mantissa scale)) (sign : Sign) :
    roundWithAccuracy .binary64 sign mantissa scale accuracy =
      .finite sign significand exponent canonical.positive := by
  have bounds := targetExponent_of_rounds canonical rounds
    (Stands.mantissa_ofMantissaAndAccuracy mantissa accuracy ▸ stands.mantissa_le)
    (Stands.mantissa_ofMantissaAndAccuracy mantissa accuracy ▸ stands.lt_mantissa) fine
  have shifted := (stands.shiftRight
    (Format.binary64.targetExponent (totalExponent mantissa scale) - scale).toNat).nearest
  have reached : scale +
      (Format.binary64.targetExponent (totalExponent mantissa scale) - scale).toNat =
      Format.binary64.targetExponent (totalExponent mantissa scale) := by omega
  rw [← zpow_natCast, div_div, ← zpow_add₀ two_ne_zero, reached] at shifted
  unfold roundWithAccuracy
  rw [shiftToTargetExponent_eq accuracy fine]
  dsimp only
  rcases bounds with same | ⟨rfl, less, same⟩
  · rw [same] at shifted ⊢
    rw [shifted.unique rounds.nearest, shiftToTargetExponent_canonical canonical]
    exact dif_neg (Nat.ne_of_gt canonical.positive)
  · have aim := targetExponent_eq mantissa scale
    have power := rounds.nearest_below canonical less (by omega)
    rw [same] at shifted ⊢
    rw [shifted.unique power, shiftToTargetExponent_power]
    · rw [sub_add_cancel]
      exact dif_neg (show ¬2 ^ 52 = 0 by decide)
    · omega

end PredicateRules.Binary64
