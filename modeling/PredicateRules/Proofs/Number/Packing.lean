import Mathlib.Algebra.Group.Nat.Defs
import PredicateRules.Number.Binary64

namespace PredicateRules.Binary64

open Float.Model Float.Model.UnpackedFloat

/-- Where doubles have their significand and exponent: as large a significand as there is room for,
unless the exponent is the least. -/
structure Canonical (significand : Nat) (exponent : Int) : Prop where
  positive : 0 < significand
  below : significand < 2 ^ 53
  least : leastExponent ≤ exponent
  most : exponent ≤ 971
  normal : 2 ^ 52 ≤ significand ∨ exponent = leastExponent

def sign (negative : Bool) : Sign := if negative then .negative else .positive

theorem toNat_packComponents (sign : Sign) (exponent : BitVec 11) (mantissa : BitVec 52) :
    (packComponents .binary64 sign exponent mantissa).toNat =
      (sign.toBitVec.toNat * 2 ^ 11 + exponent.toNat) * 2 ^ 52 + mantissa.toNat := by
  unfold packComponents
  rw [BitVec.toNat_append, ← Nat.shiftLeft_add_eq_or_of_lt mantissa.isLt, Nat.shiftLeft_eq,
    BitVec.toNat_append, ← Nat.shiftLeft_add_eq_or_of_lt exponent.isLt, Nat.shiftLeft_eq]

theorem unpackSign_packComponents (sign : Sign) (exponent : BitVec 11) (mantissa : BitVec 52) :
    Sign.ofBitVec (unpackSign (packComponents .binary64 sign exponent mantissa)) = sign := by
  delta unpackSign packComponents
  simp only [BitVec.extractLsb]
  rw [BitVec.extractLsb'_append_eq_of_le (by omega), BitVec.extractLsb'_append_eq_of_le (by omega)]
  cases sign <;> rfl

theorem toNat_one_append (mantissa : BitVec 52) :
    (1#1 ++ mantissa).toNat = 2 ^ 52 + mantissa.toNat := by
  rw [BitVec.toNat_append, ← Nat.shiftLeft_add_eq_or_of_lt mantissa.isLt, Nat.shiftLeft_eq]
  rfl

theorem float_eq {left right : Float} (same : left.toBits.toNat = right.toBits.toNat) : left = right := by
  obtain ⟨⟨left, _⟩⟩ := left
  obtain ⟨⟨right, _⟩⟩ := right
  obtain rfl : left = right := UInt64.toNat_inj.mp same
  rfl

def exponentField (significand : Nat) (exponent : Int) : Nat :=
  if significand < 2 ^ 52 then 0 else (exponent + 1075).toNat

variable {significand : Nat} {exponent : Int}

namespace Canonical

variable (canonical : Canonical significand exponent)

include canonical

theorem log2 (full : 2 ^ 52 ≤ significand) : significand.log2 = 52 :=
  (Nat.log2_eq_iff (Nat.ne_of_gt canonical.positive)).mpr ⟨full, canonical.below⟩

theorem exponentField_lt : exponentField significand exponent < 2047 := by
  have most := canonical.most
  unfold exponentField
  split <;> omega

theorem pack_eq (negative : Bool) :
    UnpackedFloat.pack .binary64 (.finite (sign negative) significand exponent canonical.positive) =
      packComponents .binary64 (sign negative) (BitVec.ofNat 11 (exponentField significand exponent))
        (BitVec.ofNat 52 significand) := by
  have most := canonical.most
  have biased : (exponent + Format.binary64.exponentBias +
      Format.binary64.mantissaBitsWithoutImplicit).toNat = (exponent + 1075).toNat := by
    show (exponent + (2 ^ (11 - 1) - 1 : Nat) + (52 : Nat)).toNat = _
    omega
  delta UnpackedFloat.pack
  simp only [biased]
  rw [if_neg (by show ¬2 ^ 11 ≤ (exponent + 1075).toNat + 1; omega)]
  unfold exponentField
  split
  next full =>
    have full : significand.log2 + 1 = 53 := full
    have large : 2 ^ 52 ≤ significand :=
      (Nat.le_log2 (Nat.ne_of_gt canonical.positive)).mp (by omega)
    rw [if_neg (by omega)]
  next short =>
    have small : significand < 2 ^ 52 := by
      refine Nat.lt_of_not_le fun large => short ?_
      exact congrArg (· + 1) (canonical.log2 large)
    rw [if_pos small]

end Canonical

/-- The double with a sign, a significand and an exponent. -/
def toFloat (canonical : Canonical significand exponent) (negative : Bool) : Float :=
  ⟨Float.Model.pack (.finite (sign negative) significand exponent canonical.positive)⟩

theorem toNat_toBits (canonical : Canonical significand exponent) (negative : Bool) :
    (toFloat canonical negative).toBits.toNat = negative.toNat * 2 ^ 63 +
      (exponentField significand exponent * 2 ^ 52 + significand % 2 ^ 52) := by
  show (UnpackedFloat.pack .binary64 _).toNat = _
  have field := canonical.exponentField_lt
  have signBit : (sign negative).toBitVec.toNat = negative.toNat := by cases negative <;> rfl
  rw [canonical.pack_eq, toNat_packComponents, signBit, BitVec.toNat_ofNat, BitVec.toNat_ofNat,
    Nat.mod_eq_of_lt (by omega : exponentField significand exponent < 2 ^ 11)]
  omega

theorem ofFloat_of_bits {number : Float} {negative : Bool} {field fraction : Nat}
    (bits : number.toBits.toNat = negative.toNat * 2 ^ 63 + (field * 2 ^ 52 + fraction))
    (inField : field < 2 ^ 11) (inFraction : fraction < 2 ^ 52) :
    ofFloat number =
      if field = 2047 then
        if fraction = 0 then .infinite negative else .nan
      else if field = 0 then .finite negative fraction leastExponent
      else .finite negative (2 ^ 52 + fraction) ((field : Int) - 1075) := by
  have fieldBits : number.toBits.toNat / 2 ^ 52 % 2 ^ 11 = field := by
    rw [bits]
    cases negative <;> simp only [Bool.toNat_true, Bool.toNat_false] <;> omega
  have fractionBits : number.toBits.toNat % 2 ^ 52 = fraction := by
    rw [bits]
    cases negative <;> simp only [Bool.toNat_true, Bool.toNat_false] <;> omega
  have signBit : decide (2 ^ 63 ≤ number.toBits.toNat) = negative := by
    rw [bits]
    cases negative <;> simp only [Bool.toNat_true, Bool.toNat_false, decide_eq_true_eq,
      decide_eq_false_iff_not] <;> omega
  simp only [ofFloat, Nat.pow_eq, fieldBits, fractionBits, signBit]

theorem exists_bits (number : Float) : ∃ (negative : Bool) (field fraction : Nat),
    number.toBits.toNat = negative.toNat * 2 ^ 63 + (field * 2 ^ 52 + fraction) ∧
      field < 2 ^ 11 ∧ fraction < 2 ^ 52 := by
  have inBits : number.toBits.toNat < 2 ^ 64 := number.toBits.toNat_lt
  refine ⟨decide (2 ^ 63 ≤ number.toBits.toNat), number.toBits.toNat / 2 ^ 52 % 2 ^ 11,
    number.toBits.toNat % 2 ^ 52, ?_, by omega, by omega⟩
  by_cases high : 2 ^ 63 ≤ number.toBits.toNat <;>
    simp only [high, decide_true, decide_false, Bool.toNat_true, Bool.toNat_false] <;> omega

theorem ofFloat_toFloat (canonical : Canonical significand exponent) (negative : Bool) :
    ofFloat (toFloat canonical negative) = .finite negative significand exponent := by
  have bits := toNat_toBits canonical negative
  have below := canonical.below
  have least := canonical.least
  have most := canonical.most
  have field := canonical.exponentField_lt
  rw [ofFloat_of_bits bits (by omega) (by omega), if_neg (by omega)]
  by_cases small : significand < 2 ^ 52
  · obtain rfl := canonical.normal.resolve_left (by omega)
    have none : exponentField significand leastExponent = 0 := if_pos small
    rw [if_pos none, Nat.mod_eq_of_lt small]
  · have unsmall : exponentField significand exponent = (exponent + 1075).toNat := if_neg small
    simp only [leastExponent] at least
    have whole : 2 ^ 52 + significand % 2 ^ 52 = significand := by omega
    have unbiased : ((exponent + 1075).toNat : Int) - 1075 = exponent := by omega
    rw [unsmall, if_neg (by omega), whole, unbiased]

theorem eq_toFloat {number : Float} {negative : Bool}
    (parts : ofFloat number = .finite negative significand exponent) (some : significand ≠ 0) :
    ∃ canonical : Canonical significand exponent, number = toFloat canonical negative := by
  obtain ⟨positive, field, fraction, bits, inField, inFraction⟩ := exists_bits number
  rw [ofFloat_of_bits bits inField inFraction] at parts
  split at parts
  · split at parts <;> cases parts
  · split at parts
    next zero =>
      cases parts
      refine ⟨⟨Nat.pos_of_ne_zero some, by omega, by decide, by decide, .inr rfl⟩, float_eq ?_⟩
      rw [bits, toNat_toBits, exponentField, if_pos inFraction]
      omega
    next nonzero =>
      cases parts
      refine ⟨⟨by omega, by omega, by simp only [leastExponent]; omega, by omega, .inl (by omega)⟩,
        float_eq ?_⟩
      rw [bits, toNat_toBits, exponentField, if_neg (by omega)]
      omega

theorem eq_zero {number : Float} {negative : Bool} (parts : ofFloat number = .finite negative 0 exponent) :
    number = if negative then -0 else 0 := by
  obtain ⟨positive, field, fraction, bits, inField, inFraction⟩ := exists_bits number
  rw [ofFloat_of_bits bits inField inFraction] at parts
  split at parts
  · split at parts <;> cases parts
  · split at parts
    next zero =>
      cases parts
      apply float_eq
      rw [bits, zero]
      cases negative
      · show 0 = (0 : Float).toBits.toNat
        decide +kernel
      · show 2 ^ 63 = (-0 : Float).toBits.toNat
        decide +kernel
    next nonzero =>
      injection parts with _ whole _
      omega

theorem finite_eq {sign : Sign} {mantissa other : Nat} {exponent otherExponent : Int}
    {positive : 0 < mantissa} {otherPositive : 0 < other} (same : mantissa = other)
    (exponents : exponent = otherExponent) :
    UnpackedFloat.finite sign mantissa exponent positive =
      .finite sign other otherExponent otherPositive := by
  subst same exponents
  rfl

/-- What is packed without rounding is unpacked again. -/
theorem unpack_toFloat (canonical : Canonical significand exponent) (negative : Bool) :
    (toFloat canonical negative).toModel.unpack =
      .finite (sign negative) significand exponent canonical.positive := by
  have least := canonical.least
  have below := canonical.below
  have field : (BitVec.ofNat 11 (exponentField significand exponent)).toNat =
      exponentField significand exponent := by
    rw [BitVec.toNat_ofNat, Nat.mod_eq_of_lt (Nat.lt_trans canonical.exponentField_lt (by decide))]
  have notMost : BitVec.ofNat 11 (exponentField significand exponent) ≠ -1#11 := by
    intro same
    have most : exponentField significand exponent = 2047 := by rw [← field, same]; rfl
    have := canonical.exponentField_lt
    omega
  have bias : (Format.binary64.exponentBias : Int) = 1023 := rfl
  show UnpackedFloat.unpack .binary64 (UnpackedFloat.pack .binary64 _) = _
  rw [canonical.pack_eq]
  delta UnpackedFloat.unpack
  dsimp only
  rw [unpackSign_packComponents, unpackExponent_packComponents, if_neg notMost]
  -- Subnormal numbers have no implicit bit and the least exponent, normal ones have it.
  by_cases small : significand < 2 ^ 52
  · obtain rfl := canonical.normal.resolve_left (by omega)
    have none : BitVec.ofNat 11 (exponentField significand leastExponent) = 0#11 := by
      rw [exponentField, if_pos small]
    have whole : (BitVec.ofNat 52 significand).toNat = significand := by
      rw [BitVec.toNat_ofNat, Nat.mod_eq_of_lt small]
    have some : BitVec.ofNat 52 significand ≠ 0#52 := by
      intro same
      have zero : significand = 0 := by rw [← whole, same]; rfl
      have := canonical.positive
      omega
    rw [if_pos none, dif_neg (by rwa [unpackMantissa_packComponents])]
    exact finite_eq (by rw [unpackMantissa_packComponents, whole]) (by rw [none]; rfl)
  · have unsmall : exponentField significand exponent = (exponent + 1075).toNat := if_neg small
    simp only [leastExponent] at least
    rw [unsmall] at field ⊢
    have some : BitVec.ofNat 11 (exponent + 1075).toNat ≠ 0#11 := by
      intro same
      have zero : (exponent + 1075).toNat = 0 := by rw [← field, same]; rfl
      omega
    have whole : (1#1 ++ BitVec.ofNat 52 significand).toNat = significand := by
      rw [toNat_one_append, BitVec.toNat_ofNat]
      omega
    rw [if_neg some]
    refine finite_eq (by rw [unpackMantissa_packComponents, whole]) ?_
    rw [field, bias]
    omega

theorem neg_toFloat (canonical : Canonical significand exponent) (negative : Bool) :
    -toFloat canonical negative = toFloat canonical (!negative) := by
  show (⟨Float.Model.pack (toFloat canonical negative).toModel.unpack.neg⟩ : Float) = _
  rw [unpack_toFloat]
  cases negative <;> rfl

theorem beq_toFloat (canonical : Canonical significand exponent) (negative : Bool) :
    (toFloat canonical negative == toFloat canonical negative) = true := by
  show ((toFloat canonical negative).toModel.unpack.compare (toFloat canonical negative).toModel.unpack ==
    some .eq) = true
  rw [unpack_toFloat]
  have alike : (compare exponent exponent).then (compare significand significand) = .eq := by simp
  cases negative with
  | false => exact congrArg (fun order : Ordering => some order == some .eq) alike
  | true => exact congrArg (fun order : Ordering => some order.swap == some .eq) alike

theorem unpack_zero : (0 : Float).toModel.unpack = .zero .positive := by
  have bits : (0 : Float).toBits = 0 := by decide +kernel
  show UnpackedFloat.unpack .binary64 (0 : Float).toBits.toBitVec = _
  rw [bits]
  rfl

theorem toFloat_lt_zero (canonical : Canonical significand exponent) (negative : Bool) :
    toFloat canonical negative < 0 ↔ negative = true := by
  show decide ((toFloat canonical negative).toModel.unpack.lt (0 : Float).toModel.unpack = true) = true ↔ _
  rw [unpack_zero, unpack_toFloat, decide_eq_true_eq]
  cases negative <;> exact Bool.eq_iff_iff.mp rfl

end PredicateRules.Binary64
