import PredicateRules.Expression.Evaluation
import PredicateRules.Predicate.Operator

namespace PredicateRules

/-- What a comparison says of the values of its sides. A pattern is not folded: its escapes would not
survive, and letters of either case match through a flag of the pattern. -/
def Comparison.decide (comparison : Comparison) (left right : Value) : Evaluated Bool :=
  let operator := comparison.operator
  let options := comparison.options
  let left := options.foldValue left
  let right := if operator = .matchesPattern then right else options.foldValue right
  match comparison.modifier, left.elements? with
  | .any, some elements => operator.applyToAny options right elements
  | .all, some elements => operator.applyToAll options right elements
  | _, _ => operator.apply options left right

section

variable {m : Type → Type} [Monad m] [MonadLiftT Evaluated m]

/-- The left side is evaluated before the right one. -/
def Comparison.evaluate (world : Surroundings m) (object : Value) (comparison : Comparison) :
    m Bool := do
  let left ← comparison.left.evaluate world object [0]
  let right ← comparison.right.evaluate world object [1]
  liftM (comparison.decide left right)

namespace Predicate

mutual

def evaluate (world : Surroundings m) (object : Value) : Predicate → m Bool
  | value holds => return holds
  | comparison inner => inner.evaluate world object
  | compound .not parts => evaluateNone world object parts
  | compound .and parts => evaluateAll world object parts
  | compound .or parts => evaluateAny world object parts

/-- The negation of the first part, false if there is none. -/
def evaluateNone (world : Surroundings m) (object : Value) : List Predicate → m Bool
  | [] => return false
  | part :: _ => do return !(← evaluate (world.within .condition) object part)

def evaluateAll (world : Surroundings m) (object : Value) : List Predicate → m Bool
  | [] => return true
  | part :: parts => do
    if ← evaluate (world.within .condition) object part then
      evaluateAll (world.within .otherConditions) object parts
    else return false

def evaluateAny (world : Surroundings m) (object : Value) : List Predicate → m Bool
  | [] => return false
  | part :: parts => do
    if ← evaluate (world.within .condition) object part then return true
    else evaluateAny (world.within .otherConditions) object parts

end

end Predicate

end

end PredicateRules
