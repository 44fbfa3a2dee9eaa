import PredicateRules.Expression.Substitution
import PredicateRules.Predicate.Basic

namespace PredicateRules

def Comparison.substitute (bindings : Bindings) (comparison : Comparison) : Comparison :=
  { comparison with
    left := comparison.left.substitute bindings
    right := comparison.right.substitute bindings }

@[simp]
theorem Comparison.substitute_nil (comparison : Comparison) :
    comparison.substitute [] = comparison := by
  simp [substitute]

namespace Predicate

variable (bindings : Bindings)

mutual

def substitute : Predicate → Predicate
  | value holds => value holds
  | comparison inner => comparison (inner.substitute bindings)
  | compound kind parts => compound kind (substituteEach parts)

def substituteEach : List Predicate → List Predicate
  | [] => []
  | part :: parts => substitute part :: substituteEach parts

end

mutual

@[simp]
theorem substitute_nil : (predicate : Predicate) → predicate.substitute [] = predicate
  | value _ | comparison _ => by simp [substitute]
  | compound _ parts => by simp [substitute, substituteEach_nil parts]

@[simp]
theorem substituteEach_nil : (parts : List Predicate) → substituteEach [] parts = parts
  | [] => by simp [substituteEach]
  | part :: parts => by simp [substituteEach, substitute_nil part, substituteEach_nil parts]

end

end Predicate

end PredicateRules
