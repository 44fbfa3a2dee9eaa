import PredicateRules.Builtin.Collection
import PredicateRules.KeyPath

namespace PredicateRules.Builtin

def elementBy (function : Builtin) (target : Value) : Value → Evaluated Value
  | .int position => function.elementAt target position
  | .float position =>
    if Float64.isWhole position then function.elementAt target (Float64.truncate position)
    else .error (function.mismatch "integer index" "float")
  | other => .error (function.mismatch "integer index" other.typeName)

def randomUpTo (host : Host) (function : Builtin) (bound : Value) : Evaluated Value := do
  let upper := Float64.truncate (← function.number bound)
  if upper < 0 then throw (function.mismatch "non-negative number" "negative number")
  return .int (host.random upper)

/-- The calls that read no keys. -/
def compute (host : Host) (function : Builtin) (arguments : List Value) : Evaluated Value :=
  match function, arguments with
  | now, [] => .ok (.dateTime host.now)
  | sum, [value] => do function.total (← function.items value)
  | count, [value] => return .int (Int64.ofNat (← function.size value))
  | min, [value] => function.extreme .lt value
  | max, [value] => function.extreme .gt value
  | average, [value] => function.averageOf value
  | first, [value] | indexFirst, [value] => function.elementAt value 0
  | last, [value] | indexLast, [value] => function.elementAt value (-1)
  | add, [left, right] => function.addValues left right
  | subtract, [left, right] => function.arithmetic (· - ·) (· - ·) left right
  | multiply, [left, right] => function.arithmetic (· * ·) (· * ·) left right
  | divide, [left, right] => function.divideValues left right
  | modulus, [left, right] => function.modulusValues left right
  | raiseToPower, [left, right] => function.floatArithmetic Float.pow left right
  | sqrt, [value] => return .float (← function.number value).sqrt
  | ln, [value] => return .float (← function.number value).log
  | exp, [value] => return .float (← function.number value).exp
  | abs, [value] => function.magnitude value
  | ceiling, [value] => function.ceilingOf value
  | changeSign, [value] => function.negated value
  | random, [bound] => function.randomUpTo host bound
  | replace, [.string text, .string old, .string new] =>
    .ok (.string (String.ofList (replaceAll old.toList new.toList text.toList)))
  | replace, [text, _, _] => .error (function.mismatch "strings" text.typeName)
  | valueForKeyPath, [_, path] => .error (function.mismatch "string keypath" path.typeName)
  | _, _ => .error (.arity function.selector function.arity arguments.length)

section

variable {m : Type → Type} [Monad m] [MonadLiftT Evaluated m]

/-- An element by position, an entry of a map, or a key of an object without calling what it holds. -/
def subscript (world : Surroundings m) (site : Site) (function : Builtin) (target index : Value) :
    m Value :=
  match target, index with
  | .map entries, .string key => return (Value.entry? key entries).getD .null
  | .object reference, .string key => world.valueForKey site reference key
  | target, position => liftM (function.elementBy target position)

def call (world : Surroundings m) (site : Site) (function : Builtin) (arguments : List Value) :
    m Value :=
  match function, arguments with
  | fromObjectIndex, [target, position] | index, [target, position] =>
    function.subscript world site target position
  | valueForKeyPath, [value, .string path] => KeyPath.resolve world site path value
  | function, arguments => liftM (function.compute (world.host site) arguments)

end

end PredicateRules.Builtin
