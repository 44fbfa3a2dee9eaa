import PredicateRules.Number.Decimal
import PredicateRules.Proofs.Number.Nearest

namespace PredicateRules.Decimal

open Binary64

namespace Neighbourhood

variable {area : Neighbourhood} {exponent : Int}

theorem onGrid_some {decimal : Decimal} (found : area.onGrid exponent = some decimal) :
    decimal.exponent = exponent ∧ area.contains (10 ^ (-exponent).toNat)
      (decimal.coefficient * (area.unit * 10 ^ exponent.toNat)) = true := by
  unfold onGrid at found
  dsimp only at found
  split at found
  · split at found <;> cases found <;> exact ⟨rfl, by assumption⟩
  · cases found
    exact ⟨rfl, by assumption⟩
  · cases found
    exact ⟨rfl, by assumption⟩
  · cases found

theorem onGrid_isSome (below : area.low ≤ area.centre) (unit : 0 < area.unit)
    (fine : area.centre * 10 ^ (-exponent).toNat + area.unit * 10 ^ exponent.toNat <
      area.high * 10 ^ (-exponent).toNat) :
    (area.onGrid exponent).isSome = true := by
  have step : 0 < area.unit * 10 ^ exponent.toNat := by positivity
  have above := Nat.lt_div_mul_add step (a := area.centre * 10 ^ (-exponent).toNat)
  have least := Nat.div_mul_le_self (area.centre * 10 ^ (-exponent).toNat) (area.unit * 10 ^ exponent.toNat)
  have lowest := Nat.mul_le_mul_right (10 ^ (-exponent).toNat) below
  have inside : area.contains (10 ^ (-exponent).toNat)
      ((area.centre * 10 ^ (-exponent).toNat / (area.unit * 10 ^ exponent.toNat) + 1) *
        (area.unit * 10 ^ exponent.toNat)) = true := by
    rw [Nat.succ_mul]
    unfold contains
    dsimp only
    split <;> simp only [Bool.and_eq_true, decide_eq_true_eq] <;> omega
  unfold onGrid
  simp only [Nat.pow_eq, inside]
  split
  · split <;> rfl
  · rfl
  · rfl
  next none => cases none

/-- If one of the grids has a point within the bounds, the search finds one. -/
theorem firstHit_onGrid {rounds : Nat}
    (hits : ∃ round < rounds, (area.onGrid (exponent - round)).isSome = true) :
    ∃ found, area.onGrid found = some (area.firstHit rounds exponent) := by
  induction rounds generalizing exponent with
  | zero => simp at hits
  | succ rounds ih =>
      obtain ⟨round, inside, isHit⟩ := hits
      cases first : area.onGrid exponent with
      | some decimal => exact ⟨exponent, by simp [firstHit, first]⟩
      | none =>
          cases round with
          | zero => simp [first] at isHit
          | succ round =>
              have later : ∃ round < rounds, (area.onGrid (exponent - 1 - round)).isSome = true := by
                refine ⟨round, by omega, ?_⟩
                rw [show exponent - 1 - (round : Int) = exponent - (round + 1 : Nat) by omega]
                exact isHit
              obtain ⟨found, hit⟩ := ih later
              exact ⟨found, by simpa [firstHit, first] using hit⟩

end Neighbourhood

variable {significand : Nat} {exponent : Int}

theorem ten_zpow (power : Int) : (10 : ℚ) ^ power = 10 ^ power.toNat / 10 ^ (-power).toNat := by
  rw [← zpow_natCast, ← zpow_natCast, ← zpow_sub₀ (by norm_num)]
  congr 1
  omega

theorem two_zpow (power : Int) : (2 : ℚ) ^ power = 4 * 2 ^ (power - 2).toNat / 2 ^ (2 - power).toNat := by
  rw [show (4 : ℚ) = 2 ^ (2 : Int) by norm_num, ← zpow_natCast, ← zpow_natCast, ← zpow_add₀ two_ne_zero,
    ← zpow_sub₀ two_ne_zero]
  congr 1
  omega

theorem point_eq (significand : Nat) (exponent : Int) (coefficient : Nat) (power : Int) :
    (coefficient * ((neighbourhood significand exponent).unit * 10 ^ power.toNat) : Nat) =
      4 * (coefficient * 10 ^ power / 2 ^ exponent : ℚ) *
        (2 ^ (exponent - 2).toNat * 10 ^ (-power).toNat : Nat) := by
  rw [ten_zpow, two_zpow exponent]
  show ((coefficient * (2 ^ (2 - exponent).toNat * 10 ^ power.toNat) : Nat) : ℚ) = _
  push_cast
  field_simp

def quarters (significand : Nat) (exponent : Int) : Nat :=
  if significand = 2 ^ 52 ∧ leastExponent < exponent then 1 else 2

theorem margin_eq_quarters : margin significand exponent = quarters significand exponent / 4 := by
  unfold margin quarters
  split <;> norm_num

/-- Of the points of a grid those are within the bounds that round to the double. -/
theorem rounds_of_contains (canonical : Canonical significand exponent) {coefficient : Nat} {power : Int}
    (inside : (neighbourhood significand exponent).contains (10 ^ (-power).toNat)
      (coefficient * ((neighbourhood significand exponent).unit * 10 ^ power.toNat)) = true) :
    Rounds significand exponent (coefficient * 10 ^ power) := by
  have point := point_eq significand exponent coefficient power
  generalize coefficient * ((neighbourhood significand exponent).unit * 10 ^ power.toNat) = place
    at inside point
  have some : (0 : ℚ) < (2 ^ (exponent - 2).toNat * 10 ^ (-power).toNat : Nat) := by positivity
  have less : quarters significand exponent ≤ 4 * significand := by
    have one : 1 ≤ significand := canonical.positive
    unfold quarters
    split <;> omega
  have low : (neighbourhood significand exponent).low * 10 ^ (-power).toNat =
      (4 * significand - quarters significand exponent) *
        (2 ^ (exponent - 2).toNat * 10 ^ (-power).toNat) := Nat.mul_assoc ..
  have high : (neighbourhood significand exponent).high * 10 ^ (-power).toNat =
      (4 * significand + 2) * (2 ^ (exponent - 2).toNat * 10 ^ (-power).toNat) := Nat.mul_assoc ..
  have closed : (neighbourhood significand exponent).closed = decide (significand % 2 = 0) := rfl
  unfold Neighbourhood.contains at inside
  simp only [low, high, closed, decide_eq_true_eq] at inside
  generalize 2 ^ (exponent - 2).toNat * 10 ^ (-power).toNat = scaled at inside point some
  -- Halfway points belong to the double only where its significand is even.
  split at inside
  next even =>
    obtain ⟨least, most⟩ : _ ∧ _ := by simpa only [Bool.and_eq_true, decide_eq_true_eq] using inside
    rw [← Nat.cast_le (α := ℚ), point] at least most
    push_cast [less] at least most
    have least := le_of_mul_le_mul_right least some
    have most := le_of_mul_le_mul_right most some
    refine ⟨?_, by linarith, fun _ => even⟩
    rw [margin_eq_quarters]
    linarith
  next odd =>
    obtain ⟨least, most⟩ : _ ∧ _ := by simpa only [Bool.and_eq_true, decide_eq_true_eq] using inside
    rw [← Nat.cast_lt (α := ℚ), point] at least most
    push_cast [less] at least most
    have least := lt_of_mul_lt_mul_right least some.le
    have most := lt_of_mul_lt_mul_right most some.le
    refine ⟨?_, by linarith, fun tie => ?_⟩ <;> rw [margin_eq_quarters] at *
    · linarith
    · rcases tie with tie | tie <;> linarith

/-- The search begins with a grid that is at most one digit too coarse for seventeen digits. -/
theorem ten_zpow_lt (canonical : Canonical significand exponent) :
    (10 : ℚ) ^ ((digitCount (neighbourhood significand exponent).centre : Int) -
        digitCount (neighbourhood significand exponent).unit - 18) < 2 ^ exponent / 2 := by
  have unit : 0 < (neighbourhood significand exponent).unit := Nat.two_pow_pos _
  have centre : 0 < (neighbourhood significand exponent).centre :=
    Nat.mul_pos (Nat.mul_pos (by decide) canonical.positive) (Nat.two_pow_pos _)
  have least := (toDigits_bounds centre).1
  have most := (toDigits_bounds unit).2
  have some : (0 : ℚ) < (neighbourhood significand exponent).unit := by exact_mod_cast unit
  have ratio : ((neighbourhood significand exponent).centre : ℚ) =
      significand * 2 ^ exponent * (neighbourhood significand exponent).unit := by
    rw [two_zpow exponent]
    show ((4 * significand * 2 ^ (exponent - 2).toNat : Nat) : ℚ) =
      _ * ((2 ^ (2 - exponent).toNat : Nat) : ℚ)
    push_cast
    field_simp
  have below : (significand : ℚ) < 2 ^ 53 := by exact_mod_cast canonical.below
  have power := two_zpow_pos exponent
  show (10 : ℚ) ^ (((Nat.toDigits 10 (neighbourhood significand exponent).centre).length : Int) -
    (Nat.toDigits 10 (neighbourhood significand exponent).unit).length - 18) < _
  generalize (Nat.toDigits 10 (neighbourhood significand exponent).centre).length = longer at least
  generalize (Nat.toDigits 10 (neighbourhood significand exponent).unit).length = shorter at most
  rw [ratio] at least
  have grid : (10 : ℚ) ^ ((longer : Int) - shorter - 18) * 10 ^ (17 : Int) * 10 ^ (shorter : Int) =
      10 ^ ((longer : Int) - 1) := by
    rw [← zpow_add₀ (by norm_num), ← zpow_add₀ (by norm_num)]
    congr 1
    omega
  have cell : (0 : ℚ) < 10 ^ ((longer : Int) - shorter - 18) := by positivity
  generalize (10 : ℚ) ^ ((longer : Int) - shorter - 18) = spacing at grid cell
  have chain : spacing * 10 ^ (17 : Int) * (neighbourhood significand exponent).unit <
      2 ^ 53 * 2 ^ exponent * (neighbourhood significand exponent).unit :=
    calc spacing * 10 ^ (17 : Int) * (neighbourhood significand exponent).unit
      _ < spacing * 10 ^ (17 : Int) * 10 ^ (shorter : Int) := mul_lt_mul_of_pos_left most (by positivity)
      _ ≤ significand * 2 ^ exponent * (neighbourhood significand exponent).unit := grid ▸ least
      _ ≤ 2 ^ 53 * 2 ^ exponent * (neighbourhood significand exponent).unit :=
        mul_le_mul_of_nonneg_right (mul_le_mul_of_nonneg_right below.le power.le) some.le
  have chain := lt_of_mul_lt_mul_right chain some.le
  norm_num at chain
  linarith

/-- The shortest decimal of a double rounds to it. -/
theorem shortest_rounds (canonical : Canonical significand exponent) :
    Rounds significand exponent
      ((shortest significand exponent).coefficient * 10 ^ (shortest significand exponent).exponent) := by
  have unit : 0 < (neighbourhood significand exponent).unit := Nat.two_pow_pos _
  have below : (neighbourhood significand exponent).low ≤ (neighbourhood significand exponent).centre :=
    Nat.mul_le_mul_right _ (Nat.sub_le ..)
  have fine := ten_zpow_lt canonical
  unfold shortest
  dsimp only
  generalize (digitCount (neighbourhood significand exponent).centre : Int) -
    digitCount (neighbourhood significand exponent).unit = start at fine
  have hit : ((neighbourhood significand exponent).onGrid (start - (18 : Nat))).isSome = true := by
    refine Neighbourhood.onGrid_isSome below unit ?_
    have point := point_eq significand exponent 1 (start - (18 : Nat))
    rw [Nat.one_mul, Nat.cast_one, one_mul] at point
    have some : (0 : ℚ) < (2 ^ (exponent - 2).toNat * 10 ^ (-(start - (18 : Nat))).toNat : Nat) := by positivity
    have centre : (neighbourhood significand exponent).centre * 10 ^ (-(start - (18 : Nat))).toNat =
      4 * significand * (2 ^ (exponent - 2).toNat * 10 ^ (-(start - (18 : Nat))).toNat) := Nat.mul_assoc ..
    have high : (neighbourhood significand exponent).high * 10 ^ (-(start - (18 : Nat))).toNat =
      (4 * significand + 2) * (2 ^ (exponent - 2).toNat * 10 ^ (-(start - (18 : Nat))).toNat) :=
      Nat.mul_assoc ..
    rw [centre, high, Nat.add_mul]
    refine Nat.add_lt_add_left ?_ _
    generalize 2 ^ (exponent - 2).toNat * 10 ^ (-(start - (18 : Nat))).toNat = scaled at point some
    rw [← Nat.cast_lt (α := ℚ), point, Nat.cast_mul, Nat.cast_ofNat]
    refine mul_lt_mul_of_pos_right ?_ some
    rw [← lt_div_iff₀' (by norm_num), div_lt_iff₀ (two_zpow_pos exponent)]
    refine lt_of_lt_of_eq fine ?_
    ring
  have hits : ∃ round < 19, ((neighbourhood significand exponent).onGrid (start - (round : Nat))).isSome :=
    ⟨18, by decide, hit⟩
  obtain ⟨found, first⟩ := Neighbourhood.firstHit_onGrid hits
  obtain ⟨same, inside⟩ := Neighbourhood.onGrid_some first
  rw [same]
  exact rounds_of_contains canonical inside

end PredicateRules.Decimal
