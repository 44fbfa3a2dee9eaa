import PredicateRules.Number.Numeral
import PredicateRules.Proofs.Number.Rounding

namespace PredicateRules.Binary64

open Float.Model Float.Model.UnpackedFloat

section

variable {significand : Nat} {exponent : Int} (canonical : Canonical significand exponent)
  {first second : Nat} {firstExponent secondExponent : Int} (some : 0 < first) (someOther : 0 < second)

include canonical

theorem mul_eq (large : 52 ≤ (first * second).log2)
    (rounds : Rounds significand exponent
      (first * 2 ^ firstExponent * (second * 2 ^ secondExponent))) :
    UnpackedFloat.mul .binary64 (.finite .positive first firstExponent some)
        (.finite .positive second secondExponent someOther) =
      .finite .positive significand exponent canonical.positive := by
  refine roundWithAccuracy_eq canonical rounds ?_ ?_ _
  · have whole : (first * 2 ^ firstExponent * (second * 2 ^ secondExponent) : ℚ) /
        2 ^ (firstExponent + secondExponent) = (first * second : Nat) := by
      rw [zpow_add₀ two_ne_zero, div_eq_iff (by positivity)]
      push_cast
      ring
    rw [whole]
    exact Stands.exact _
  · rw [targetExponent_eq]
    omega

omit canonical in
include some someOther in
theorem lt_quotient :
    (2 : ℚ) ^ (totalExponent first firstExponent - totalExponent second secondExponent - 1) <
      first * 2 ^ firstExponent / (second * 2 ^ secondExponent) := by
  have least : (2 : ℚ) ^ (first.log2 : Int) ≤ first := by
    exact_mod_cast Nat.log2_self_le (Nat.ne_of_gt some)
  have most : (second : ℚ) < 2 ^ ((second.log2 : Int) + 1) := by
    exact_mod_cast Nat.lt_log2_self (n := second)
  have positive : (0 : ℚ) < second := by exact_mod_cast someOther
  have exponents : totalExponent first firstExponent - totalExponent second secondExponent - 1 =
      ((first.log2 : Int) + firstExponent) - ((second.log2 : Int) + 1 + secondExponent) := by
    simp only [totalExponent]
    omega
  rw [exponents, zpow_sub₀ two_ne_zero, zpow_add₀ two_ne_zero, zpow_add₀ two_ne_zero _ secondExponent]
  refine div_lt_div₀' ?_ ?_ ?_ ?_
  · exact mul_le_mul_of_nonneg_right least (two_zpow_pos _).le
  · exact mul_lt_mul_of_pos_right most (two_zpow_pos _)
  · have := two_zpow_pos firstExponent
    have : (0 : ℚ) < first := by exact_mod_cast some
    positivity
  · positivity

theorem div_eq (rounds : Rounds significand exponent
      (first * 2 ^ firstExponent / (second * 2 ^ secondExponent))) :
    UnpackedFloat.div .binary64 (.finite .positive first firstExponent some)
        (.finite .positive second secondExponent someOther) =
      .finite .positive significand exponent canonical.positive := by
  have beyond : (2 : ℚ) ^ (totalExponent first firstExponent - totalExponent second secondExponent - 1) <
      first * 2 ^ firstExponent / (second * 2 ^ secondExponent) := lt_quotient some someOther
  show roundWithAccuracy .binary64 _ (divCore .binary64 first firstExponent second secondExponent).1
    (divCore .binary64 first firstExponent second secondExponent).2.1
    (divCore .binary64 first firstExponent second secondExponent).2.2 = _
  unfold divCore
  dsimp only
  generalize aim : min (firstExponent - secondExponent) (Format.binary64.targetExponent
    (totalExponent first firstExponent - totalExponent second secondExponent)) = target
  generalize shifts : (firstExponent - secondExponent - target).toNat = count
  have whole : firstExponent - secondExponent = target + count := by omega
  have positive : (0 : ℚ) < second := by exact_mod_cast someOther
  have scaled : (first * 2 ^ firstExponent / (second * 2 ^ secondExponent) : ℚ) / 2 ^ target =
      (first <<< count : Nat) / second := by
    have exponents : (2 : ℚ) ^ firstExponent = 2 ^ secondExponent * (2 ^ target * 2 ^ count) := by
      rw [← zpow_natCast, ← zpow_add₀ two_ne_zero, ← zpow_add₀ two_ne_zero]
      congr 1
      omega
    rw [exponents, Nat.shiftLeft_eq]
    push_cast
    field_simp
  have stands := Stands.ofFraction (first <<< count) someOther
  refine roundWithAccuracy_eq canonical rounds (scaled ▸ stands) ?_ _
  have most := stands.lt_mantissa
  have least := stands.mantissa_le
  rw [Stands.mantissa_ofMantissaAndAccuracy, ← scaled] at most least
  have below := (zpow_lt_zpow_iff_right₀ one_lt_two).mp (beyond.trans (log2_bounds least most).1)
  rw [targetExponent_eq]
  have limit : Format.binary64.targetExponent
      (totalExponent first firstExponent - totalExponent second secondExponent) =
        max (totalExponent first firstExponent - totalExponent second secondExponent - 53) leastExponent :=
    rfl
  omega

end

section

variable {significand : Nat} {exponent : Int} (canonical : Canonical significand exponent)

include canonical in
theorem Rounds.range {value : ℚ} (rounds : Rounds significand exponent value) :
    2 ^ (-1075 : Int) ≤ value ∧ value < 2 ^ (1024 : Int) := by
  have least := canonical.least
  have most := canonical.most
  have unit := two_zpow_pos exponent
  constructor
  · have low := rounds.nearest.low
    have one : (1 : ℚ) ≤ significand := by exact_mod_cast canonical.positive
    rw [le_div_iff₀ unit] at low
    have half : (2 : ℚ) ^ (-1075 : Int) = 1 / 2 * 2 ^ leastExponent := by
      rw [show (-1075 : Int) = leastExponent - 1 from rfl, zpow_sub_one₀ two_ne_zero]
      ring
    have units : (2 : ℚ) ^ leastExponent ≤ 2 ^ exponent := zpow_le_zpow_right₀ one_le_two least
    rw [half]
    refine le_trans ?_ low
    exact mul_le_mul (by linarith) units (two_zpow_pos _).le (by linarith)
  · exact (rounds.lt canonical).trans_le (zpow_le_zpow_right₀ one_le_two (by omega))

variable {coefficient : Nat} {scale : Int}
  (rounds : Rounds significand exponent (coefficient * 10 ^ scale))

include canonical rounds

theorem coefficient_pos : 0 < coefficient := by
  have least := (rounds.range canonical).1
  by_contra none
  obtain rfl : coefficient = 0 := by omega
  rw [Nat.cast_zero, zero_mul] at least
  exact absurd least (not_le_of_gt (two_zpow_pos _))

/-- A number of the size of a double is not written with too large a power of ten. -/
theorem scale_le : scale ≤ 2048 := by
  by_contra huge
  have one : (1 : ℚ) ≤ coefficient := by exact_mod_cast coefficient_pos canonical rounds
  have powers : (2 : ℚ) ^ (1024 : Int) ≤ 2 ^ scale := zpow_le_zpow_right₀ one_le_two (by omega)
  have bases : (2 : ℚ) ^ scale ≤ 10 ^ scale :=
    zpow_le_zpow_left₀ (by omega) zero_le_two (by norm_num)
  have scaled : (10 : ℚ) ^ scale ≤ coefficient * 10 ^ scale :=
    le_mul_of_one_le_left (by positivity) one
  exact absurd (rounds.range canonical).2 (not_lt_of_ge ((powers.trans bases).trans scaled))

theorem le_scale : -(2048 + (coefficient.log2 : Int)) ≤ scale := by
  by_contra tiny
  have below : (coefficient : ℚ) < 2 ^ ((coefficient.log2 : Int) + 1) := by
    exact_mod_cast Nat.lt_log2_self (n := coefficient)
  have bases : (10 : ℚ) ^ scale ≤ 2 ^ scale := by
    obtain ⟨digits, rfl⟩ : ∃ digits : Nat, scale = -digits := ⟨(-scale).toNat, by omega⟩
    rw [zpow_neg, zpow_neg, zpow_natCast, zpow_natCast]
    exact inv_anti₀ (by positivity) (pow_le_pow_left₀ zero_le_two (by norm_num) digits)
  have scaled : (coefficient : ℚ) * 10 ^ scale < 2 ^ ((coefficient.log2 : Int) + 1) * 2 ^ scale :=
    mul_lt_mul below bases (by positivity) (by positivity)
  rw [← zpow_add₀ two_ne_zero] at scaled
  exact absurd (rounds.range canonical).1
    (not_le_of_gt (scaled.trans_le (zpow_le_zpow_right₀ one_le_two (by omega))))

theorem ofScientific_eq :
    UnpackedFloat.ofScientific .binary64 coefficient scale =
      .finite .positive significand exponent canonical.positive := by
  have some := coefficient_pos canonical rounds
  have notHuge : ¬scale > 2 ^ Format.binary64.exponentBits := not_lt_of_ge (scale_le canonical rounds)
  have notTiny : ¬scale < -(2 ^ Format.binary64.exponentBits + (coefficient.log2 : Int)) :=
    not_lt_of_ge (le_scale canonical rounds)
  have bits : Format.binary64.mantissaBits = 53 := rfl
  unfold UnpackedFloat.ofScientific
  rw [dif_neg (Nat.ne_of_gt some), if_neg notHuge, if_neg notTiny]
  by_cases whole : 0 ≤ scale
  · rw [if_pos whole]
    have power : (10 : ℚ) ^ scale = (10 ^ scale.toNat : Nat) := by
      rw [Nat.cast_pow, ← zpow_natCast, Int.toNat_of_nonneg whole]
      rfl
    refine mul_eq canonical _ _ ?_ ?_
    · rw [bits]
      have large : 2 ^ 52 ≤ coefficient <<< 53 * 10 ^ scale.toNat := by
        rw [Nat.shiftLeft_eq]
        calc 2 ^ 52 ≤ 1 * 2 ^ 53 * 1 := by norm_num
          _ ≤ coefficient * 2 ^ 53 * 10 ^ scale.toNat :=
            Nat.mul_le_mul (Nat.mul_le_mul_right _ some) (Nat.pow_pos (by norm_num))
      exact (Nat.le_log2 (Nat.ne_of_gt (lt_of_lt_of_le (by norm_num) large))).mpr large
    · rw [bits]
      have shifted : ((coefficient <<< 53 : Nat) : ℚ) * 2 ^ (-(53 : Nat) : Int) = coefficient := by
        rw [Nat.shiftLeft_eq, zpow_neg, zpow_natCast, Nat.cast_mul, Nat.cast_pow, Nat.cast_ofNat]
        exact mul_inv_cancel_right₀ (by positivity) _
      rwa [shifted, zpow_zero, mul_one, ← power]
  · rw [if_neg whole]
    have power : (10 : ℚ) ^ scale = ((10 ^ (-scale).toNat : Nat) : ℚ)⁻¹ := by
      rw [Nat.cast_pow, ← zpow_natCast, Int.toNat_of_nonneg (by omega), zpow_neg, inv_inv]
      rfl
    refine div_eq canonical _ _ ?_
    rwa [zpow_zero, mul_one, mul_one, div_eq_mul_inv, ← power]

end

theorem Rounds.exact (significand : Nat) (exponent : Int) :
    Rounds significand exponent (significand * 2 ^ exponent) := by
  have same : (significand : ℚ) * 2 ^ exponent / 2 ^ exponent = significand :=
    mul_div_cancel_right₀ _ (two_zpow_pos exponent).ne'
  have some : (0 : ℚ) < margin significand exponent := by
    unfold margin
    split <;> norm_num
  constructor <;> rw [same]
  · linarith
  · linarith
  · rintro (tie | tie) <;> linarith

theorem ofUInt64_eq {number count : Nat} (some : 0 < number) (fits : number < 2 ^ 53)
    (whole : number.log2 + count = 52) (canonical : Canonical (number * 2 ^ count) (-count)) :
    UnpackedFloat.ofUInt64 .binary64 number.toUInt64 =
      .finite .positive (number * 2 ^ count) (-(count : Int)) canonical.positive := by
  have same : number.toUInt64.toNat = number := UInt64.toNat_ofNat_of_lt' (fits.trans (by decide))
  have aim : Format.binary64.targetExponent (totalExponent number 0) = -(count : Int) := by
    rw [targetExponent_eq]
    simp only [leastExponent]
    omega
  have shift : (0 - -(count : Int)).toNat = count := by omega
  unfold UnpackedFloat.ofUInt64 UnpackedFloat.ofNat UnpackedFloat.ofInt UnpackedFloat.normalize
  rw [same, Int.compare_eq_gt.mpr (by omega)]
  dsimp only
  rw [Int.toNat_natCast, UnpackedFloat.round, aim, decreaseExponent, shift, Nat.shiftLeft_eq]
  dsimp only
  rw [zero_sub]
  refine roundWithAccuracy_eq canonical (.exact _ _) ?_ ?_ _
  · rw [mul_div_cancel_right₀ _ (two_zpow_pos _).ne']
    exact Stands.exact _
  · have full : (number * 2 ^ count).log2 = 52 :=
      canonical.log2 (canonical.normal.resolve_right (by simp only [leastExponent]; omega))
    rw [targetExponent_eq, full]
    omega

theorem toFloat_toUInt64 {number : Nat} (some : 0 < number) (fits : number < 2 ^ 53) :
    ∃ (significand : Nat) (exponent : Int) (canonical : Canonical significand exponent),
      2 ^ 52 ≤ significand ∧ (significand : ℚ) * 2 ^ exponent = number ∧
        number.toUInt64.toFloat = toFloat canonical false := by
  have short : number.log2 < 53 := (Nat.log2_lt (Nat.ne_of_gt some)).mpr fits
  have least := Nat.log2_self_le (Nat.ne_of_gt some)
  have most := Nat.lt_log2_self (n := number)
  obtain ⟨count, whole⟩ : ∃ count : Nat, number.log2 + count = 52 := ⟨52 - number.log2, by omega⟩
  have canonical : Canonical (number * 2 ^ count) (-count) := by
    refine ⟨by positivity, ?_, by simp only [leastExponent]; omega, by omega, .inl ?_⟩
    · calc number * 2 ^ count < 2 ^ (number.log2 + 1) * 2 ^ count :=
            Nat.mul_lt_mul_of_pos_right most (by positivity)
        _ = 2 ^ 53 := by rw [← pow_add]; congr 1; omega
    · calc 2 ^ 52 = 2 ^ number.log2 * 2 ^ count := by rw [← pow_add, whole]
        _ ≤ number * 2 ^ count := Nat.mul_le_mul_right _ least
  have large : 2 ^ 52 ≤ number * 2 ^ count :=
    canonical.normal.resolve_right (by simp only [leastExponent]; omega)
  refine ⟨_, _, canonical, large, ?_, ?_⟩
  · push_cast
    rw [mul_assoc, zpow_neg, zpow_natCast, mul_inv_cancel₀ (by positivity), mul_one]
  · exact congrArg (fun unpacked => (⟨Float.Model.pack unpacked⟩ : Float))
      (ofUInt64_eq some fits whole canonical)

def isPowerOfTen (power : Float) (digits : Nat) : Bool :=
  match power.toModel.unpack with
  | .finite .positive significand exponent _ => 2 ^ 52 ≤ significand &&
      significand * 2 ^ exponent.toNat == 10 ^ digits * 2 ^ (-exponent).toNat
  | _ => false

theorem isPowerOfTen_table : ∀ digits : Fin 23,
    isPowerOfTen (getElem Float.exactlyRepresentablePowersOfTen digits.val digits.isLt) digits.val = true := by
  decide +kernel

theorem unpack_of_isPowerOfTen {power : Float} {digits : Nat} (holds : isPowerOfTen power digits = true) :
    ∃ (significand : Nat) (exponent : Int) (some : 0 < significand),
      power.toModel.unpack = .finite .positive significand exponent some ∧ 2 ^ 52 ≤ significand ∧
        (significand : ℚ) * 2 ^ exponent = 10 ^ digits := by
  unfold isPowerOfTen at holds
  rcases unpacked : power.toModel.unpack with _ | _ | _ | ⟨_ | _, significand, exponent, some⟩ <;>
    rw [unpacked] at holds
  case finite.positive =>
    obtain ⟨large, same⟩ := Bool.and_eq_true_iff.mp holds
    refine ⟨significand, exponent, some, rfl, of_decide_eq_true large, ?_⟩
    have same : (significand : ℚ) * 2 ^ exponent.toNat = 10 ^ digits * 2 ^ (-exponent).toNat := by
      exact_mod_cast eq_of_beq same
    have split : (2 : ℚ) ^ exponent = 2 ^ exponent.toNat / 2 ^ (-exponent).toNat := by
      rw [← zpow_natCast, ← zpow_natCast, ← zpow_sub₀ two_ne_zero]
      congr 1
      omega
    rw [split, mul_div_assoc', same, mul_div_cancel_right₀ _ (by positivity)]
  all_goals cases holds

theorem toDigits_bounds {number : Nat} (some : 0 < number) :
    10 ^ (((Nat.toDigits 10 number).length : Int) - 1) ≤ (number : ℚ) ∧
      (number : ℚ) < 10 ^ ((Nat.toDigits 10 number).length : Int) := by
  obtain ⟨count, length⟩ : ∃ count, (Nat.toDigits 10 number).length = count + 1 :=
    ⟨_, (Nat.succ_pred_eq_of_pos Nat.length_toDigits_pos).symm⟩
  rw [length]
  constructor
  · have least : 10 ^ count ≤ number := by
      rcases Nat.eq_zero_or_pos count with rfl | more
      · rw [pow_zero]
        exact some
      · by_contra less
        have := (Nat.length_toDigits_le_iff (by decide : 1 < 10) more).mpr (Nat.lt_of_not_le less)
        omega
    rw [Nat.cast_add, Nat.cast_one, add_sub_cancel_right, zpow_natCast]
    exact_mod_cast least
  · have most := (Nat.length_toDigits_le_iff (by decide : 1 < 10) (Nat.succ_pos count)).mp length.le
    rw [zpow_natCast]
    exact_mod_cast most

theorem two_zpow_le_ten (count : Nat) : (2 : ℚ) ^ (3 * count : Int) ≤ 10 ^ (count : Int) := by
  rw [zpow_mul, zpow_natCast, zpow_natCast]
  exact pow_le_pow_left₀ (by positivity) (by norm_num) count

theorem float_mul (left right : Float) :
    left * right =
      ⟨Float.Model.pack (UnpackedFloat.mul .binary64 left.toModel.unpack right.toModel.unpack)⟩ := rfl

theorem float_div (left right : Float) :
    left / right =
      ⟨Float.Model.pack (UnpackedFloat.div .binary64 left.toModel.unpack right.toModel.unpack)⟩ := rfl

theorem signed_natAbs (scale : Int) :
    (if decide (scale < 0) = true then Int.negOfNat scale.natAbs else Int.ofNat scale.natAbs) = scale := by
  split
  next negative =>
    have negative := of_decide_eq_true negative
    rw [Int.negOfNat_eq]
    show -(scale.natAbs : Int) = scale
    omega
  next positive =>
    have positive := of_decide_eq_false (Bool.eq_false_of_not_eq_true positive)
    show (scale.natAbs : Int) = scale
    omega

section

variable {significand : Nat} {exponent : Int} (canonical : Canonical significand exponent)
  {coefficient : Nat} {scale : Int}
  (rounds : Rounds significand exponent (coefficient * 10 ^ scale))

include rounds

theorem float_ofScientific_eq :
    Float.ofScientific coefficient (decide (scale < 0)) scale.natAbs = toFloat canonical false := by
  unfold Float.ofScientific
  split
  next fast =>
    obtain ⟨left, leftExponent, leftCanonical, leftLarge, leftValue, read⟩ :=
      toFloat_toUInt64 (coefficient_pos canonical rounds) fast.1
    obtain ⟨right, rightExponent, rightPositive, unpacked, rightLarge, rightValue⟩ :=
      unpack_of_isPowerOfTen (isPowerOfTen_table ⟨scale.natAbs, Nat.lt_succ_of_le fast.2⟩)
    have unpackedLeft := unpack_toFloat leftCanonical false
    dsimp only at unpacked rightValue
    dsimp only
    rw [read]
    split
    next negative =>
      have negative := of_decide_eq_true negative
      have same : (left : ℚ) * 2 ^ leftExponent / (right * 2 ^ rightExponent) = coefficient * 10 ^ scale := by
        rw [leftValue, rightValue, div_eq_mul_inv, ← zpow_natCast, ← zpow_neg]
        congr 2
        omega
      rw [float_div, unpackedLeft]
      exact congrArg (fun unpacked => (⟨Float.Model.pack unpacked⟩ : Float))
        ((congrArg (UnpackedFloat.div .binary64 _) unpacked).trans
          (div_eq canonical leftCanonical.positive rightPositive (same ▸ rounds)))
    next positive =>
      have positive := of_decide_eq_false (Bool.eq_false_of_not_eq_true positive)
      have same : (left : ℚ) * 2 ^ leftExponent * (right * 2 ^ rightExponent) = coefficient * 10 ^ scale := by
        rw [leftValue, rightValue, ← zpow_natCast]
        congr 2
        omega
      have large : 2 ^ 52 ≤ left * right :=
        leftLarge.trans (Nat.le_mul_of_pos_right left rightPositive)
      rw [float_mul, unpackedLeft]
      exact congrArg (fun unpacked => (⟨Float.Model.pack unpacked⟩ : Float))
        ((congrArg (UnpackedFloat.mul .binary64 _) unpacked).trans
          (mul_eq canonical leftCanonical.positive rightPositive
            ((Nat.le_log2 (Nat.ne_of_gt (lt_of_lt_of_le (by norm_num) large))).mpr large) (same ▸ rounds)))
  next =>
    simp only [signed_natAbs]
    exact congrArg (fun unpacked => (⟨Float.Model.pack unpacked⟩ : Float)) (ofScientific_eq canonical rounds)

theorem nearest_eq : Numeral.nearest coefficient scale = toFloat canonical false := by
  have some := coefficient_pos canonical rounds
  obtain ⟨least, most⟩ := rounds.range canonical
  obtain ⟨leastDigits, mostDigits⟩ := toDigits_bounds some
  have unit : (0 : ℚ) < 10 ^ scale := by positivity
  unfold Numeral.nearest
  rw [if_neg (Nat.ne_of_gt some)]
  dsimp only
  rw [if_neg, if_neg]
  · exact float_ofScientific_eq canonical rounds
  · intro tiny
    have scaled := mul_lt_mul_of_pos_right mostDigits unit
    rw [← zpow_add₀ (by norm_num)] at scaled
    have power : (10 : ℚ) ^ (((Nat.toDigits 10 coefficient).length : Int) + scale) ≤ 10 ^ (-401 : Int) :=
      zpow_le_zpow_right₀ (by norm_num) (by omega)
    have below : (10 : ℚ) ^ (-401 : Int) < 2 ^ (-1075 : Int) := by
      rw [zpow_neg]
      refine (inv_anti₀ (two_zpow_pos _) (two_zpow_le_ten 401)).trans_lt ?_
      rw [← zpow_neg]
      exact zpow_lt_zpow_right₀ one_lt_two (by norm_num)
    exact absurd least (not_le_of_gt ((scaled.trans_le power).trans below))
  · intro huge
    have scaled := mul_le_mul_of_nonneg_right leastDigits unit.le
    rw [← zpow_add₀ (by norm_num)] at scaled
    have power : (10 : ℚ) ^ (400 : Int) ≤ 10 ^ (((Nat.toDigits 10 coefficient).length : Int) - 1 + scale) :=
      zpow_le_zpow_right₀ (by norm_num) (by omega)
    have above : (2 : ℚ) ^ (1024 : Int) < 10 ^ (400 : Int) :=
      (zpow_lt_zpow_right₀ one_lt_two (by norm_num)).trans_le (two_zpow_le_ten 400)
    exact absurd most (not_lt_of_ge ((above.le.trans power).trans scaled))

end

end PredicateRules.Binary64
