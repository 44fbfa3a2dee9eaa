import PredicateRules.Predicate.Evaluation
import PredicateRules.Rule.Index

namespace PredicateRules

structure Model where
  /-- The rules as they were given, before substitution. -/
  rules : List Rule
  bindings : Bindings
  index : RuleIndex

namespace Model

/-- Without bindings the rules are indexed as they are given. -/
def build (rules : List Rule) (bindings : Bindings) : Model :=
  let indexed := if bindings.isEmpty then rules else rules.map fun rule => rule.substitute bindings
  ⟨rules, bindings, RuleIndex.build indexed⟩

def ofRules (rules : List Rule) : Model := build rules []

def setRules (model : Model) (rules : List Rule) : Model := build rules model.bindings

def setBindings (model : Model) (bindings : Bindings) : Model := build model.rules bindings

def candidates? (model : Model) (key : String) : Option (List Rule) := model.index.candidates? key

def inferrableKeys (model : Model) : List String := model.index.sortedKeys

section

variable {m : Type → Type} [Monad m] [MonadLiftT Evaluated m]

def fireFirstOf (world : Surroundings m) (subject : Value) : List Rule → m (Option Value)
  | [] => return none
  | rule :: rules => do
    if ← rule.specifier.evaluate (world.within .condition) subject then
      return some (← rule.value.evaluate world subject [])
    else fireFirstOf (world.within .otherRules) subject rules

def fireAllOf (world : Surroundings m) (subject : Value) : List Rule → m (List Value)
  | [] => return []
  | rule :: rules => do
    if ← rule.specifier.evaluate (world.within .condition) subject then
      let value ← rule.value.evaluate world subject []
      return value :: (← fireAllOf (world.within .otherRules) subject rules)
    else fireAllOf (world.within .otherRules) subject rules

def fireFirst (world : Surroundings m) (subject : Value) (model : Model) (key : String) :
    m (Option Value) :=
  fireFirstOf world subject ((model.candidates? key).getD [])

def fireAll (world : Surroundings m) (subject : Value) (model : Model) (key : String) :
    m (List Value) :=
  fireAllOf world subject ((model.candidates? key).getD [])

end

end Model

end PredicateRules
