import PredicateRules.Number.Binary64

namespace PredicateRules

/-- The power of ten of a numeral: `e` or `E`, a sign if one is written, and digits. -/
structure Numeral.Exponent where
  marker : Char
  sign : Option Char
  digits : List Char

structure Numeral where
  whole : List Char
  fraction : Option (List Char)
  exponent : Option Numeral.Exponent

namespace Numeral

def digitValue (digit : Char) : Nat := digit.toNat - '0'.toNat

def digitsValue (digits : List Char) : Nat :=
  digits.foldl (fun value digit => value * 10 + digitValue digit) 0

def Exponent.text (exponent : Exponent) : List Char :=
  exponent.marker :: (exponent.sign.toList ++ exponent.digits)

def Exponent.value (exponent : Exponent) : Int :=
  if exponent.sign = some '-' then -(digitsValue exponent.digits : Int) else digitsValue exponent.digits

def fractionText : Option (List Char) → List Char
  | some digits => '.' :: digits
  | none => []

def exponentText : Option Exponent → List Char
  | some exponent => exponent.text
  | none => []

def text (numeral : Numeral) : List Char :=
  numeral.whole ++ fractionText numeral.fraction ++ exponentText numeral.exponent

def scanSign : List Char → Option Char × List Char
  | '+' :: rest => (some '+', rest)
  | '-' :: rest => (some '-', rest)
  | rest => (none, rest)

theorem scanSign_append (input : List Char) :
    (scanSign input).1.toList ++ (scanSign input).2 = input := by
  unfold scanSign
  split <;> rfl

/-- Without digits there is no power of ten, and the marker is left where it is. -/
def scanExponent : List Char → Option Exponent × List Char
  | marker :: rest =>
    if marker = 'e' ∨ marker = 'E' then
      let (sign, tail) := scanSign rest
      match tail.takeWhile Char.isDigit with
      | [] => (none, marker :: rest)
      | digits => (some ⟨marker, sign, digits⟩, tail.dropWhile Char.isDigit)
    else (none, marker :: rest)
  | [] => (none, [])

theorem scanExponent_append (input : List Char) :
    exponentText (scanExponent input).1 ++ (scanExponent input).2 = input := by
  cases input with
  | nil => rfl
  | cons marker rest =>
    simp only [scanExponent]
    split
    · split
      · rfl
      · simp only [exponentText, Exponent.text, List.cons_append, List.append_assoc]
        rw [List.takeWhile_append_dropWhile, scanSign_append]
    · rfl

def scanFraction : List Char → Option (List Char) × List Char
  | '.' :: rest => (some (rest.takeWhile Char.isDigit), rest.dropWhile Char.isDigit)
  | rest => (none, rest)

theorem scanFraction_append (input : List Char) :
    fractionText (scanFraction input).1 ++ (scanFraction input).2 = input := by
  unfold scanFraction
  split
  · simp [fractionText]
  · rfl

/-- The longest numeral at the front of the text, and what follows it. -/
def scan (input : List Char) : Option (Numeral × List Char) :=
  let whole := input.takeWhile Char.isDigit
  let (fraction, afterFraction) := scanFraction (input.dropWhile Char.isDigit)
  if whole.isEmpty && (fraction.getD []).isEmpty then none
  else
    let (exponent, rest) := scanExponent afterFraction
    some (⟨whole, fraction, exponent⟩, rest)

/-- Scanning loses nothing. -/
theorem text_append_of_scan {input rest : List Char} {numeral : Numeral}
    (scanned : scan input = some (numeral, rest)) : numeral.text ++ rest = input := by
  have fractionWhole := scanFraction_append (input.dropWhile Char.isDigit)
  have exponentWhole := scanExponent_append (scanFraction (input.dropWhile Char.isDigit)).2
  simp only [scan] at scanned
  split at scanned
  · contradiction
  · obtain ⟨rfl, rfl⟩ := Prod.mk.inj (Option.some.inj scanned)
    simp only [text, List.append_assoc]
    rw [exponentWhole, fractionWhole, List.takeWhile_append_dropWhile]

def wholeNumber? (numeral : Numeral) : Option Nat :=
  match numeral.fraction, numeral.exponent with
  | none, none => some (digitsValue numeral.whole)
  | _, _ => none

def toInt64? (numeral : Numeral) : Option Int64 :=
  match numeral.wholeNumber? with
  | some value => if (value : Int) ≤ Int64.maxValue.toInt then some (Int64.ofNat value) else none
  | none => none

/-- The double nearest to `coefficient * 10 ^ exponent`. Beyond the range of doubles the power of
ten is not computed. -/
def nearest (coefficient : Nat) (exponent : Int) : Float :=
  if coefficient = 0 then 0
  else
    let magnitude := (Nat.toDigits 10 coefficient).length + exponent
    if 400 < magnitude then Float64.positiveInfinity
    else if magnitude < -400 then 0
    else Float.ofScientific coefficient (decide (exponent < 0)) exponent.natAbs

def toFloat (numeral : Numeral) : Float :=
  let fraction := numeral.fraction.getD []
  let power := match numeral.exponent with
    | some exponent => exponent.value
    | none => 0
  nearest (digitsValue (numeral.whole ++ fraction)) (power - fraction.length)

end Numeral

end PredicateRules
