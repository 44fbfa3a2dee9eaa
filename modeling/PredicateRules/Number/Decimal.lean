import PredicateRules.Number.Binary64

/-!
Decimal text of a number: the fewest digits that read back as the same number, and of those the
nearest to it, written out in full without an exponent.
-/

namespace PredicateRules

/-- `coefficient * 10 ^ exponent`. -/
structure Decimal where
  coefficient : Nat
  exponent : Int
  deriving DecidableEq, Repr

namespace Decimal

def digitCount (number : Nat) : Nat := (Nat.toDigits 10 number).length

/-- The numbers that round to one double, on a scale on which the bounds are whole. -/
structure Neighbourhood where
  low : Nat
  centre : Nat
  high : Nat
  /-- The scale: each of the three stands for itself over this. -/
  unit : Nat
  /-- The bounds themselves round to the centre. -/
  closed : Bool

/-- Below a power of two the next double is only half as far away as above it. -/
def neighbourhood (significand : Nat) (exponent : Int) : Neighbourhood :=
  let below := if significand = Nat.pow 2 52 ∧ Binary64.leastExponent < exponent then 1 else 2
  let scale := Nat.pow 2 (exponent - 2).toNat
  { low := (4 * significand - below) * scale
    centre := 4 * significand * scale
    high := (4 * significand + 2) * scale
    unit := Nat.pow 2 (2 - exponent).toNat
    closed := significand % 2 = 0 }

namespace Neighbourhood

def contains (area : Neighbourhood) (shrink point : Nat) : Bool :=
  let low := area.low * shrink
  let high := area.high * shrink
  if area.closed then low ≤ point && point ≤ high else low < point && point < high

/-- The multiple of `10 ^ exponent` nearest to the centre among those that round to it. -/
def onGrid (area : Neighbourhood) (exponent : Int) : Option Decimal :=
  let step := area.unit * Nat.pow 10 exponent.toNat
  let shrink := Nat.pow 10 (-exponent).toNat
  let centre := area.centre * shrink
  let down := centre / step
  let up := down + 1
  match area.contains shrink (down * step), area.contains shrink (up * step) with
  | true, true =>
    if centre - down * step < up * step - centre then some ⟨down, exponent⟩ else some ⟨up, exponent⟩
  | true, false => some ⟨down, exponent⟩
  | false, true => some ⟨up, exponent⟩
  | false, false => none

def firstHit (area : Neighbourhood) : Nat → Int → Decimal
  | 0, exponent =>
    ⟨area.centre * Nat.pow 10 (-exponent).toNat / (area.unit * Nat.pow 10 exponent.toNat), exponent⟩
  | rounds + 1, exponent => (area.onGrid exponent).getD (firstHit area rounds (exponent - 1))

end Neighbourhood

/-- The shortest decimal that reads back as `significand * 2 ^ exponent`. Seventeen digits always
suffice, and the first grid is at most one digit too coarse. -/
def shortest (significand : Nat) (exponent : Int) : Decimal :=
  let area := neighbourhood significand exponent
  area.firstHit 19 ((digitCount area.centre : Int) - digitCount area.unit)

def dropTrailingZeros (digits : List Char) : List Char :=
  (digits.reverse.dropWhile (· == '0')).reverse

/-- Positional text; a point only where digits follow it. -/
def text (number : Decimal) : List Char :=
  let digits := Nat.toDigits 10 number.coefficient
  if 0 ≤ number.exponent then
    digits ++ List.replicate number.exponent.toNat '0'
  else
    let places := (-number.exponent).toNat
    let padded := List.replicate (places + 1 - digits.length) '0' ++ digits
    let whole := padded.take (padded.length - places)
    match dropTrailingZeros (padded.drop (padded.length - places)) with
    | [] => whole
    | fraction => whole ++ '.' :: fraction

end Decimal

namespace Float64

/-- A sign where the sign bit is set, also on a zero. -/
def text (number : Float) : List Char :=
  match Binary64.ofFloat number with
  | .nan => "NaN".toList
  | .infinite negative => if negative then "-inf".toList else "inf".toList
  | .finite negative significand exponent =>
    let magnitude :=
      if significand = 0 then ['0'] else (Decimal.shortest significand exponent).text
    if negative then '-' :: magnitude else magnitude

end Float64

end PredicateRules
