import PredicateRules.Value.Basic

/-!
The partial order of values: numbers with numbers, strings with strings, moments with moments,
booleans with booleans, and lists by their first difference. All else is not comparable.
-/

namespace PredicateRules

def Float64.order? (left right : Float) : Option Ordering :=
  if left < right then some .lt
  else if right < left then some .gt
  else if left == right then some .eq
  else none

namespace Value

mutual

def order? : Value → Value → Option Ordering
  | int left, int right => some (compare left right)
  | int left, float right => Float64.order? (Float.ofInt left.toInt) right
  | float left, int right => Float64.order? left (Float.ofInt right.toInt)
  | float left, float right => Float64.order? left right
  | string left, string right => some (compare left right)
  | dateTime left, dateTime right => some (left.order right)
  | bool left, bool right => some (compare left right)
  | list left, list right => orderEach? left right
  | _, _ => none

/-- The order of the first elements that do not compare as equal, and then of the lengths. -/
def orderEach? : List Value → List Value → Option Ordering
  | [], [] => some .eq
  | [], _ :: _ => some .lt
  | _ :: _, [] => some .gt
  | left :: lefts, right :: rights =>
    match order? left right with
    | some .eq => orderEach? lefts rights
    | different => different

end

end Value

end PredicateRules
