import PredicateRules.Number.Numeral
import PredicateRules.Value.Basic

namespace PredicateRules

inductive Document where
  | null
  | bool (value : Bool)
  | number (negative : Bool) (numeral : Numeral)
  | string (text : String)
  | array (items : List Document)
  | object (fields : List (String × Document))
  deriving Inhabited

namespace Document

/-- The integer that a number is written as, if it is within 64 bits. A negative zero is no
integer. -/
def integer? (negative : Bool) (numeral : Numeral) : Option Int64 :=
  if negative then
    match numeral.wholeNumber? with
    | some magnitude =>
      if 0 < magnitude ∧ Int64.minValue.toInt ≤ -magnitude then some (Int64.ofInt (-magnitude)) else none
    | none => none
  else numeral.toInt64?

def numberValue (negative : Bool) (numeral : Numeral) : Value :=
  match integer? negative numeral with
  | some whole => .int whole
  | none => .float (if negative then -numeral.toFloat else numeral.toFloat)

mutual

def toValue : Document → Value
  | null => .null
  | bool value => .bool value
  | number negative numeral => numberValue negative numeral
  | string text => .string text
  | array items => .list (toValues items)
  | object fields => Value.mapOfList (toEntries fields)

def toValues : List Document → List Value
  | [] => []
  | item :: items => toValue item :: toValues items

def toEntries : List (String × Document) → List (String × Value)
  | [] => []
  | (key, field) :: fields => (key, toValue field) :: toEntries fields

end

end Document

end PredicateRules
