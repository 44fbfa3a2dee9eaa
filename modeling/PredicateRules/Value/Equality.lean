import PredicateRules.Value.Basic

/-!
Equality of values. Integers and floats compare as numbers, lists and maps element by element, sets
without regard to order, references by identity. A float that is no number equals nothing.
-/

namespace PredicateRules.Value

mutual

/-- `left == right`, or `right == left` when `flipped`, by recursion on `left` alone. A set equals
another of the same size that holds each of its elements, where the holder's element stands on the
left of the comparison: so one side of a flipped comparison is unflipped further down. -/
def agrees (flipped : Bool) : Value → Value → Bool
  | null, null => true
  | bool left, bool right => left == right
  | int left, int right => left == right
  | int left, float right => Float.ofInt left.toInt == right
  | float left, int right => left == Float.ofInt right.toInt
  | float left, float right => left == right
  | string left, string right => left == right
  | dateTime left, dateTime right => left == right
  | list left, list right => agreesEach flipped left right
  | set left, set right =>
    left.length == right.length &&
      if flipped then right.all fun item => someAgrees left item else allHeld left right
  | map left, map right => agreesEntries flipped left right
  | object left, object right => left == right
  | function left, function right => left == right
  | _, _ => false
termination_by structural left => left

def agreesEach (flipped : Bool) : List Value → List Value → Bool
  | [], [] => true
  | left :: lefts, right :: rights => agrees flipped left right && agreesEach flipped lefts rights
  | _, _ => false
termination_by structural lefts => lefts

def agreesEntries (flipped : Bool) : List (String × Value) → List (String × Value) → Bool
  | [], [] => true
  | (key, left) :: lefts, (other, right) :: rights =>
    key == other && agrees flipped left right && agreesEntries flipped lefts rights
  | _, _ => false
termination_by structural lefts => lefts

def allHeld : List Value → List Value → Bool
  | [], _ => true
  | item :: items, holder => holder.any (fun element => agrees true item element) && allHeld items holder
termination_by structural items => items

def someAgrees : List Value → Value → Bool
  | [], _ => false
  | element :: elements, item => agrees false element item || someAgrees elements item
termination_by structural elements => elements

end

def equals (left right : Value) : Bool := agrees false left right

instance : BEq Value := ⟨equals⟩

end PredicateRules.Value
