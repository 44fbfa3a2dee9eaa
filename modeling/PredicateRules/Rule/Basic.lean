import PredicateRules.Builtin.Arithmetic
import PredicateRules.Grammar.Error
import PredicateRules.Predicate.Printer
import PredicateRules.Predicate.Substitution

namespace PredicateRules

instance coeInt64 : Coe Int64 Int := ⟨Int64.toInt⟩

structure Rule where
  specifier : Predicate
  key : String
  value : Expression
  weight : Int64
  priority : Int64

namespace Rule

/-- Each unit of weight counts as much as that many units of specificity. -/
def weightScale : Int64 := 1000

/-- What a rule asks for with its weight, in arithmetic that wraps around at 64 bits. -/
def priorityOf (specifier : Predicate) (weight : Int64) : Int64 :=
  .ofNat specifier.specificity + weight * weightScale

@[simp]
theorem priorityOf_zero (specifier : Predicate) : priorityOf specifier 0 = .ofNat specifier.specificity := by
  rw [priorityOf, Int64.zero_mul, Int64.add_zero]

def make (specifier : Predicate) (key : String) (value : Expression) (weight : Int64) :
    Except RuleError Rule :=
  if key.isEmpty then .error .emptyKey
  else .ok ⟨specifier, key, value, weight, priorityOf specifier weight⟩

/-- The same where arithmetic is checked: nothing if it stops at a number beyond 64 bits. -/
def makeChecked? (specifier : Predicate) (key : String) (value : Expression) (weight : Int64) :
    Option (Except RuleError Rule) :=
  if key.isEmpty then return .error .emptyKey
  else do
    let specificity ← Builtin.checked specifier.specificity
    let scaled ← Builtin.checked (weight.toInt * weightScale.toInt)
    let priority ← Builtin.checked (specificity.toInt + scaled.toInt)
    return .ok ⟨specifier, key, value, weight, priority⟩

theorem eq_of_make {specifier : Predicate} {key : String} {value : Expression} {weight : Int64}
    {rule : Rule} (made : make specifier key value weight = .ok rule) :
    rule = ⟨specifier, key, value, weight, priorityOf specifier weight⟩ := by
  unfold make at made
  split at made
  · cases made
  · exact (Except.ok.inj made).symm

/-- Bindings do not change the shape of a specifier, so the priority stays. -/
def substitute (bindings : Bindings) (rule : Rule) : Rule :=
  { rule with
    specifier := rule.specifier.substitute bindings
    value := rule.value.substitute bindings }

@[simp]
theorem substitute_nil (rule : Rule) : rule.substitute [] = rule := by
  simp [substitute]

@[simp]
theorem key_substitute (bindings : Bindings) (rule : Rule) :
    (rule.substitute bindings).key = rule.key := rfl

@[simp]
theorem priority_substitute (bindings : Bindings) (rule : Rule) :
    (rule.substitute bindings).priority = rule.priority := rfl

def text (describe : Object → String) (rule : Rule) : String :=
  rule.specifier.text describe ++ " " ++ rule.key ++ ": " ++ rule.value.text describe ++ " [" ++
    toString rule.weight ++ "]"

end Rule

end PredicateRules
