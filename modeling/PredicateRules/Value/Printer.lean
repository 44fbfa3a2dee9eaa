import PredicateRules.Value.Basic
import PredicateRules.Number.Decimal

namespace PredicateRules.Value

def quoted (text : String) : String :=
  if '"' ∈ text.toList then "'" ++ text ++ "'" else "\"" ++ text ++ "\""

def intText (number : Int64) : String :=
  let value := number.toInt
  let digits := String.ofList (Nat.toDigits 10 value.natAbs)
  if value < 0 then "(-" ++ digits ++ ")" else digits

def floatText (number : Float) : String :=
  if number < 0 then "(-" ++ String.ofList (Float64.text (-number)) ++ ")"
  else String.ofList (Float64.text number)

def commaSeparated (texts : List String) : String := ", ".intercalate texts

def inBraces (text : String) : String := "\x7b" ++ text ++ "\x7d"

section

variable (describe : Object → String)

mutual

def text : Value → String
  | null => "NULL"
  | bool true => "TRUE"
  | bool false => "FALSE"
  | int number => intText number
  | float number => floatText number
  | string text => quoted text
  | dateTime moment => quoted moment.text
  | list items => inBraces (commaSeparated (texts items))
  | set items => inBraces (commaSeparated (texts items))
  | map entries => inBraces (commaSeparated (entryTexts entries))
  | object reference => "<" ++ describe reference ++ ">"
  | function _ => "<function>"

def texts : List Value → List String
  | [] => []
  | item :: items => text item :: texts items

def entryTexts : List (String × Value) → List String
  | [] => []
  | (key, value) :: rest => (key ++ ": " ++ text value) :: entryTexts rest

end

end

end PredicateRules.Value
