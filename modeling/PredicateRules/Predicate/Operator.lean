import PredicateRules.Evaluation.Error
import PredicateRules.Pattern.Reader
import PredicateRules.Predicate.Basic
import PredicateRules.Unicode.Diacritic
import PredicateRules.Unicode.LowerCase
import PredicateRules.Value.Order

namespace PredicateRules

namespace ComparisonOptions

def foldsText (options : ComparisonOptions) : Bool :=
  options.caseInsensitive || options.diacriticInsensitive

def foldText (options : ComparisonOptions) (text : String) : String :=
  let plain := if options.diacriticInsensitive then Unicode.withoutDiacritics text.toList
    else text.toList
  String.ofList (if options.caseInsensitive then Unicode.lowerText plain else plain)

mutual

/-- Folds strings, also those inside of lists and sets; what becomes equal in a set is one element. -/
def foldStrings (options : ComparisonOptions) : Value → Value
  | .string text => .string (options.foldText text)
  | .list items => .list (foldEach options items)
  | .set items => .set (ValueSet.ofList (foldEach options items))
  | other => other

def foldEach (options : ComparisonOptions) : List Value → List Value
  | [] => []
  | item :: items => foldStrings options item :: foldEach options items

end

def foldValue (options : ComparisonOptions) (value : Value) : Value :=
  if options.foldsText then options.foldStrings value else value

end ComparisonOptions

namespace ComparisonOperator

def mismatch (operator : ComparisonOperator) (expected : String) (found : Value) : EvalError :=
  .typeMismatch operator.symbol expected found.typeName

def order (operator : ComparisonOperator) (left right : Value) : Except EvalError Ordering :=
  match left.order? right with
  | some ordering => .ok ordering
  | none => .error (operator.mismatch "comparable values" (if left.isNull then left else right))

def nonString (left right : Value) : Value :=
  match left with
  | .string _ => right
  | other => other

/-- Whether the pattern matches at the start of the text. Alternatives that the pattern closes its
group to add are not bound to the start. -/
def matchesText (operator : ComparisonOperator) (options : ComparisonOptions) :
    Value → Value → Except EvalError Bool
  | .string text, .string pattern =>
    let flags := if options.caseInsensitive then "(?i)".toList else []
    match Pattern.read? (flags ++ "^(?:".toList ++ pattern.toList ++ [')']) with
    | some compiled => .ok (compiled.occursIn text.toList)
    | none => .error (.invalidPattern pattern)
  | left, right => .error (operator.mismatch "strings" (nonString left right))

/-- Whether the right string stands at an end of the left one; nothing does in an empty value. -/
def affix (operator : ComparisonOperator) (test : List Char → List Char → Bool) (left right : Value) :
    Except EvalError Bool :=
  if !left.isTruthy then .ok false
  else
    match left, right with
    | .string text, .string part => .ok (test part.toList text.toList)
    | left, right => .error (operator.mismatch "strings" (nonString left right))

/-- Whether the needle is in the container; nothing is in an empty value. -/
def membership (operator : ComparisonOperator) (container needle : Value) : Except EvalError Bool :=
  if !container.isTruthy then .ok false
  else
    match container.contains? needle with
    | some found => .ok found
    | none => .error (operator.mismatch "collection or string" container)

/-- Whether the value lies between two bounds, neither of them included. -/
def betweenBounds (operator : ComparisonOperator) (value bounds : Value) : Except EvalError Bool :=
  match bounds.elements? with
  | some [low, high] => do
    let above ← operator.order low value
    let below ← operator.order value high
    return above.isLT && below.isLT
  | _ => .error (operator.mismatch "two-element bounds" bounds)

def apply (operator : ComparisonOperator) (options : ComparisonOptions) (left right : Value) :
    Except EvalError Bool :=
  match operator with
  | lessThan => return (← operator.order left right).isLT
  | lessThanOrEqual => return (← operator.order left right).isLE
  | greaterThan => return (← operator.order left right).isGT
  | greaterThanOrEqual => return (← operator.order left right).isGE
  | equalTo => .ok (left == right)
  | notEqualTo => .ok (!(left == right))
  | matchesPattern => operator.matchesText options left right
  | beginsWith => operator.affix List.isPrefixOf left right
  | endsWith => operator.affix List.isSuffixOf left right
  | isIn => operator.membership right left
  | contains => operator.membership left right
  | between => operator.betweenBounds left right
  | like => .error (.unsupportedOperator operator.symbol)
  | customSelector => .error (.unsupportedOperator operator.symbol)

/-- Whether some element stands in the relation; the first that does or that fails decides. -/
def applyToAny (operator : ComparisonOperator) (options : ComparisonOptions) (right : Value) :
    List Value → Except EvalError Bool
  | [] => .ok false
  | element :: elements => do
    if ← operator.apply options element right then return true
    else applyToAny operator options right elements

/-- Whether every element stands in the relation; the first that does not or that fails decides. -/
def applyToAll (operator : ComparisonOperator) (options : ComparisonOptions) (right : Value) :
    List Value → Except EvalError Bool
  | [] => .ok true
  | element :: elements => do
    if ← operator.apply options element right then applyToAll operator options right elements
    else return false

end ComparisonOperator

end PredicateRules
