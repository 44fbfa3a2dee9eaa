import PredicateRules.Builtin.Arithmetic
import PredicateRules.Value.Order

namespace PredicateRules.Builtin

def items (function : Builtin) (value : Value) : Except EvalError (List Value) :=
  match value.elements? with
  | some elements => .ok elements
  | none => .error (function.mismatch "collection" value.typeName)

def size (function : Builtin) : Value → Except EvalError Nat
  | .list elements => .ok elements.length
  | .set elements => .ok elements.length
  | .map entries => .ok entries.length
  | .string text => .ok text.length
  | value => .error (function.mismatch "collection" value.typeName)

/-- The best so far gives way to an element that compares with it as wanted. -/
def extremeFrom (function : Builtin) (wanted : Ordering) (best : Value) :
    List Value → Except EvalError Value
  | [] => .ok best
  | item :: rest =>
    match item.order? best with
    | some ordering => extremeFrom function wanted (if ordering = wanted then item else best) rest
    | none => .error (function.mismatch "comparable values" item.typeName)

def extreme (function : Builtin) (wanted : Ordering) (value : Value) : Except EvalError Value := do
  match ← function.items value with
  | [] => throw (function.mismatch "non-empty collection" "empty collection")
  | item :: rest => function.extremeFrom wanted item rest

def total (function : Builtin) (elements : List Value) : Except EvalError Value :=
  elements.foldlM function.addValues (.int 0)

def averageOf (function : Builtin) (value : Value) : Except EvalError Value := do
  let elements ← function.items value
  if elements.isEmpty then throw (.divisionByZero function.selector)
  let sum ← function.number (← function.total elements)
  return .float (sum / Float.ofNat elements.length)

def elementAt (function : Builtin) (value : Value) (index : Int64) : Except EvalError Value := do
  let elements ← function.items value
  let position := if index.toInt < 0 then elements.length + index.toInt else index.toInt
  match if position < 0 then none else elements[position.toNat]? with
  | some element => return element
  | none => throw (.indexOutOfBounds index elements.length)

/-- The text with `new` for every occurrence of `old`, from the left; the first `skipped` characters
belong to an occurrence that is already replaced. -/
def replaceFrom (old new : List Char) : Nat → List Char → List Char
  | _, [] => []
  | skipped + 1, _ :: rest => replaceFrom old new skipped rest
  | 0, head :: rest =>
    if old.isPrefixOf (head :: rest) then new ++ replaceFrom old new (old.length - 1) rest
    else head :: replaceFrom old new 0 rest

/-- Every occurrence replaced; the empty text occurs before each character and at the end. -/
def replaceAll (old new text : List Char) : List Char :=
  if old.isEmpty then new ++ text.flatMap (fun head => head :: new) else replaceFrom old new 0 text

end PredicateRules.Builtin
