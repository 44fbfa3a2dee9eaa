import PredicateRules.Number.Numeral

namespace PredicateRules

namespace Numeral

def parseFraction? : List Char → Option (Option (List Char))
  | [] => some none
  | _ :: digits => if digits.all Char.isDigit then some (some digits) else none

def parseExponent? : List Char → Option (Option Exponent)
  | [] => some none
  | marker :: rest =>
    let (sign, digits) := scanSign rest
    if !digits.isEmpty && digits.all Char.isDigit then some (some ⟨marker, sign, digits⟩) else none

def marksPower (character : Char) : Bool := character == 'e' || character == 'E'

/-- The numeral that is the whole text: what is before a marker of a power of ten and what is from it on,
and of the former what is before a point and what is from it on. -/
def parse? (text : List Char) : Option Numeral := do
  let mantissa := text.takeWhile fun character => !marksPower character
  let whole := mantissa.takeWhile (· != '.')
  let fraction ← parseFraction? (mantissa.dropWhile (· != '.'))
  let exponent ← parseExponent? (text.dropWhile fun character => !marksPower character)
  if whole.all Char.isDigit && !(whole.isEmpty && (fraction.getD []).isEmpty) then
    some ⟨whole, fraction, exponent⟩
  else none

/-- The integer that the whole text is, if it is within 64 bits. -/
def parseInt64? (text : List Char) : Option Int64 :=
  let (sign, digits) := scanSign text
  if !digits.isEmpty && digits.all Char.isDigit then
    let value : Int := if sign = some '-' then -digitsValue digits else digitsValue digits
    if Int64.minValue.toInt ≤ value ∧ value ≤ Int64.maxValue.toInt then some (.ofInt value) else none
  else none

end Numeral

namespace Float64

def named? (text : List Char) : Option Float :=
  let word := text.map Char.toLower
  if word = ['i', 'n', 'f'] ∨ word = ['i', 'n', 'f', 'i', 'n', 'i', 't', 'y'] then some positiveInfinity
  else if word = ['n', 'a', 'n'] then some nan
  else none

def parse? (text : List Char) : Option Float := do
  let (sign, magnitude) := Numeral.scanSign text
  let number ← named? magnitude <|> (Numeral.parse? magnitude).map Numeral.toFloat
  return if sign = some '-' then -number else number

end Float64

end PredicateRules
