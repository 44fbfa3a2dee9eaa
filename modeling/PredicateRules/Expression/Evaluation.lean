import PredicateRules.Builtin.Call
import PredicateRules.Expression.Basic

/-!
The value of an expression for an object. Operands come before arguments and arguments from the left;
the first failure is the failure of the whole. Each read happens at a place of its own: what a node
reads itself at its child 0, its operand at child 1 and its arguments from child 2 on.
-/

namespace PredicateRules

namespace SetOperation

/-- The left side must be a set, or there is no result; the right side may also be a list. -/
def evaluate (operation : SetOperation) (left : ValueSet) : Value → Evaluated Value
  | .set right => .ok (.set (operation.apply left right))
  | .list right => .ok (.set (operation.apply left (ValueSet.ofList right)))
  | other => .error (.typeMismatch operation.keyword "set or list" other.typeName)

end SetOperation

section

variable {m : Type → Type} [Monad m] [MonadLiftT Evaluated m]

/-- Calls what a value holds under a selector. -/
def Surroundings.invoke (world : Surroundings m) (site : Site) (target : Value) (selector : String)
    (arguments : List Value) : m Value :=
  match target with
  | .object reference => world.perform site reference selector arguments
  | .map entries =>
    match Value.entry? selector entries with
    | some (.function number) => liftM ((world.host site).call number arguments)
    | _ => liftM (m := Evaluated) (throw (.notCallable selector "map"))
  | other => liftM (m := Evaluated) (throw (.notCallable selector other.typeName))

namespace Expression

variable (world : Surroundings m) (object : Value)

mutual

def evaluate (site : Site) : Expression → m Value
  | constant value => return value
  | selfReference => return object
  | .variable _ => return .null
  | keyPath path => KeyPath.resolve world site path object
  | call function arguments => do
    let values ← evaluateEach site 2 arguments
    function.call world (0 :: site) values
  | custom operand selector arguments => do
    let target ← evaluate (1 :: site) operand
    let values ← evaluateEach site 2 arguments
    world.invoke (0 :: site) target selector values
  | aggregate items => Value.list <$> evaluateEach site 2 items
  | set operation left right => do
    match ← evaluate (2 :: site) left with
    | .set elements =>
      let operand ← evaluate (3 :: site) right
      liftM (operation.evaluate elements operand)
    | _ => return .null

def evaluateEach (site : Site) (position : Nat) : List Expression → m (List Value)
  | [] => return []
  | item :: items => do
    let value ← evaluate (position :: site) item
    let values ← evaluateEach site (position + 1) items
    return value :: values

end

end Expression

end

end PredicateRules
