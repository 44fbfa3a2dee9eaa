/-!
Double precision numbers taken apart exactly: a finite one is a whole significand times a power of
two, from which the whole part, the remainder and the shortest text are computed without rounding.
-/

namespace PredicateRules

inductive Binary64 where
  | nan
  | infinite (negative : Bool)
  | finite (negative : Bool) (significand : Nat) (exponent : Int)

namespace Binary64

def leastExponent : Int := -1074

def ofFloat (number : Float) : Binary64 :=
  let bits : Nat := number.toBits.toNat
  let negative := decide (Nat.pow 2 63 ≤ bits)
  let field : Nat := bits / Nat.pow 2 52 % Nat.pow 2 11
  let fraction := bits % Nat.pow 2 52
  if field = 2047 then
    if fraction = 0 then .infinite negative else .nan
  else if field = 0 then .finite negative fraction leastExponent
  else .finite negative (Nat.pow 2 52 + fraction) ((field : Int) - 1075)

def powerOfTwo (exponent : Int) : Float :=
  if -1022 ≤ exponent then Float.ofBits (UInt64.ofNat ((exponent + 1023).toNat * Nat.pow 2 52))
  else Float.ofBits (UInt64.ofNat (Nat.pow 2 (exponent - leastExponent).toNat))

/-- The whole part of `significand * 2 ^ exponent` and whether anything is left after it. -/
def wholePart (significand : Nat) (exponent : Int) : Nat × Bool :=
  if 0 ≤ exponent then (significand * Nat.pow 2 exponent.toNat, false)
  else
    let unit := Nat.pow 2 (-exponent).toNat
    (significand / unit, significand % unit != 0)

end Binary64

/-- The nearest 64-bit integer: what lies outside the range goes to its ends. -/
def clampToInt64 (value : Int) : Int64 :=
  Int64.ofInt (max Int64.minValue.toInt (min value Int64.maxValue.toInt))

namespace Float64

def positiveInfinity : Float := Float.ofBits 0x7FF0000000000000

def nan : Float := Float.ofBits 0x7FF8000000000000

def truncate (number : Float) : Int64 :=
  match Binary64.ofFloat number with
  | .nan => 0
  | .infinite negative => if negative then Int64.minValue else Int64.maxValue
  | .finite negative significand exponent =>
    let (whole, _) := Binary64.wholePart significand exponent
    clampToInt64 (if negative then -whole else whole)

/-- The least whole number not below, then into range; no number at all gives zero. -/
def ceiling (number : Float) : Int64 :=
  match Binary64.ofFloat number with
  | .nan => 0
  | .infinite negative => if negative then Int64.minValue else Int64.maxValue
  | .finite negative significand exponent =>
    let (whole, inexact) := Binary64.wholePart significand exponent
    clampToInt64 (if negative then -whole else if inexact then whole + 1 else whole)

def isWhole (number : Float) : Bool :=
  match Binary64.ofFloat number with
  | .finite _ significand exponent => !(Binary64.wholePart significand exponent).2
  | _ => false

/-- What is left of `dividend` after whole multiples of `divisor`, exactly, with the dividend's sign. -/
def remainder (dividend divisor : Float) : Float :=
  match Binary64.ofFloat dividend, Binary64.ofFloat divisor with
  | .finite negative significand exponent, .finite _ unit unitExponent =>
    if unit = 0 then nan
    else
      let shared := min exponent unitExponent
      let left := significand * Nat.pow 2 (exponent - shared).toNat
      let right := unit * Nat.pow 2 (unitExponent - shared).toNat
      let magnitude := Float.ofNat (left % right) * Binary64.powerOfTwo shared
      if negative then -magnitude else magnitude
  | .finite .., .infinite _ => dividend
  | _, _ => nan

end Float64

end PredicateRules
