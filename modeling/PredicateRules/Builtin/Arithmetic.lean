import PredicateRules.Builtin.Basic
import PredicateRules.Evaluation.Error
import PredicateRules.Value.Basic

namespace PredicateRules

namespace Builtin

def mismatch (function : Builtin) (expected found : String) : EvalError :=
  .typeMismatch function.selector expected found

def number (function : Builtin) (value : Value) : Except EvalError Float :=
  match value.asFloat? with
  | some number => .ok number
  | none => .error (function.mismatch "number" value.typeName)

/-- The integer, if it is within 64 bits. -/
def checked (value : Int) : Option Int64 :=
  if Int64.minValue.toInt ≤ value ∧ value ≤ Int64.maxValue.toInt then some (Int64.ofInt value)
  else none

def floatArithmetic (function : Builtin) (onFloats : Float → Float → Float) (left right : Value) :
    Except EvalError Value := do
  let leftNumber ← function.number left
  let rightNumber ← function.number right
  return .float (onFloats leftNumber rightNumber)

def arithmetic (function : Builtin) (onInts : Int → Int → Int) (onFloats : Float → Float → Float) :
    Value → Value → Except EvalError Value
  | .int left, .int right =>
    match checked (onInts left.toInt right.toInt) with
    | some result => .ok (.int result)
    | none => function.floatArithmetic onFloats (.int left) (.int right)
  | left, right => function.floatArithmetic onFloats left right

/-- Strings and lists are joined, numbers added. -/
def addValues (function : Builtin) : Value → Value → Except EvalError Value
  | .string left, .string right => .ok (.string (left ++ right))
  | .list left, .list right => .ok (.list (left ++ right))
  | left, right => function.arithmetic (· + ·) (· + ·) left right

def divideValues (function : Builtin) (left right : Value) : Except EvalError Value := do
  let divisor ← function.number right
  if divisor == 0 then throw (.divisionByZero function.selector)
  let dividend ← function.number left
  return .float (dividend / divisor)

/-- The remainder that has the sign of the divisor: that of division toward zero may have the other
sign, so it is moved up by the divisor and taken again. -/
def modulusValues (function : Builtin) : Value → Value → Except EvalError Value
  | left, .int right =>
    if right == 0 then .error (.divisionByZero function.selector)
    else
      match left with
      | .int left =>
        let shifted := left.toInt.tmod right.toInt + right.toInt
        .ok (.int (Int64.ofInt (shifted.tmod right.toInt)))
      | left => ofFloats left (.int right)
  | left, right => ofFloats left right
where
  ofFloats (left right : Value) : Except EvalError Value := do
    let dividend ← function.number left
    let divisor ← function.number right
    if divisor == 0 then throw (.divisionByZero function.selector)
    return .float (Float64.remainder (Float64.remainder dividend divisor + divisor) divisor)

/-- The magnitude; that of the least integer is one too great and gives the greatest integer. -/
def magnitude (function : Builtin) : Value → Except EvalError Value
  | .int number => .ok (.int (clampToInt64 number.toInt.natAbs))
  | value => return .float (← function.number value).abs

def ceilingOf (function : Builtin) : Value → Except EvalError Value
  | .int number => .ok (.int number)
  | value => return .int (Float64.ceiling (← function.number value))

/-- The negative; that of the least integer is a float. -/
def negated (function : Builtin) : Value → Except EvalError Value
  | .int number =>
    match checked (-number.toInt) with
    | some result => .ok (.int result)
    | none => .ok (.float (-Float.ofInt number.toInt))
  | value => return .float (-(← function.number value))

end Builtin

end PredicateRules
