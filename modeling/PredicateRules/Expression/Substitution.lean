import PredicateRules.Expression.Basic

namespace PredicateRules

abbrev Bindings := List (String × Value)

namespace Expression

variable (bindings : Bindings)

mutual

def substitute : Expression → Expression
  | constant value => constant value
  | selfReference => selfReference
  | .variable name =>
    match bindings.lookup name with
    | some value => constant value
    | none => .variable name
  | keyPath path => keyPath path
  | call function arguments => call function (substituteEach arguments)
  | custom operand selector arguments =>
    custom (substitute operand) selector (substituteEach arguments)
  | aggregate items => aggregate (substituteEach items)
  | set operation left right => set operation (substitute left) (substitute right)

def substituteEach : List Expression → List Expression
  | [] => []
  | item :: items => substitute item :: substituteEach items

end

mutual

/-- Without bindings nothing changes. -/
@[simp]
theorem substitute_nil : (expression : Expression) → expression.substitute [] = expression
  | constant _ | selfReference | .variable _ | keyPath _ => by simp [substitute]
  | call _ arguments | aggregate arguments => by simp [substitute, substituteEach_nil arguments]
  | custom operand _ arguments => by
      simp [substitute, substitute_nil operand, substituteEach_nil arguments]
  | set _ left right => by simp [substitute, substitute_nil left, substitute_nil right]

@[simp]
theorem substituteEach_nil : (items : List Expression) → substituteEach [] items = items
  | [] => by simp [substituteEach]
  | item :: items => by simp [substituteEach, substitute_nil item, substituteEach_nil items]

end

end Expression

end PredicateRules
