import PredicateRules.Grammar.Expression
import PredicateRules.Predicate.Basic

/-!
The grammar of predicates:

    predicate  := term ( ( AND | '&&' | OR | '||' ) term )*
    term       := '(' predicate ')' | ( NOT | '!' ) term
                | TRUEPREDICATE | FALSEPREDICATE | comparison
    comparison := modifier? expression operator options? expression

A conjunction binds no closer than a disjunction. A parenthesis may also open an operand, so what
cannot be read as a predicate in parentheses is read again as a comparison.
-/

namespace PredicateRules.Parse

/-- The spellings of the operators, a longer one before those that it begins with. -/
def operatorWords : List (String × ComparisonOperator) :=
  [("<=", .lessThanOrEqual), ("=<", .lessThanOrEqual), (">=", .greaterThanOrEqual),
    ("=>", .greaterThanOrEqual), ("==", .equalTo), ("!=", .notEqualTo), ("<>", .notEqualTo),
    ("<", .lessThan), (">", .greaterThan), ("=", .equalTo), ("MATCHES", .matchesPattern),
    ("LIKE", .like), ("BEGINSWITH", .beginsWith), ("ENDSWITH", .endsWith), ("IN", .isIn),
    ("CONTAINS", .contains), ("BETWEEN", .between)]

def modifierWords : List (String × ComparisonModifier × Bool) :=
  [("ANY", .any, false), ("ALL", .all, false), ("NONE", .any, true), ("SOME", .all, true)]

def conjunctionWords : List (String × CompoundKind) :=
  [("AND", .and), ("&&", .and), ("OR", .or), ("||", .or)]

def comparisonOptions : Parse ComparisonOptions := do
  if ← literal "[cd]" then return ⟨true, true, false⟩
  if ← literal "[c]" then return ⟨true, false, false⟩
  if ← literal "[d]" then return ⟨false, true, false⟩
  return .none

def comparison (which : Parser → Nat) : Parse Predicate := do
  let (modifier, negates) := (← firstKeyword modifierWords).getD (.direct, false)
  let left ← expressionWith which
  match ← firstKeyword operatorWords with
  | some operator =>
    let options ← comparisonOptions
    let right ← expressionWith which
    let comparison := Predicate.comparison ⟨left, right, modifier, operator, options⟩
    return if negates then .negation comparison else comparison
  | none => fail .invalidOperator

def furtherTerm (term : Parse Predicate) : Parse (Option (CompoundKind × Predicate)) := do
  match ← firstKeyword conjunctionWords with
  | some kind => return some (kind, ← term)
  | none => return none

def joinStep (join : CompoundKind → α → Predicate → α) (term : Parse Predicate) (left : α) :
    Parse (Option α) := do
  return (← furtherTerm term).map fun further => join further.1 left further.2

def joinFrom (join : CompoundKind → α → Predicate → α) (term : Parse Predicate) : α → Parse α :=
  repeatWhile (joinStep join term)

def terms (term : Parse Predicate) : Parse Predicate := do
  joinFrom Predicate.fold term (← term)

def parenthesized (term : Parse Predicate) : Parse Predicate := do
  let inner ← terms term
  expect ")" "predicate"
  return inner

/-- What begins with a parenthesis: a predicate in parentheses, or else a comparison. -/
def opened? (which : Parser → Nat) (term : Parse Predicate) : Parse (Option Predicate) := do
  let before ← scanner
  if ← literal "(" then
    match ← attempt (parenthesized term) with
    | .ok inner => return some inner
    | .error error =>
      backTo before
      match ← attempt (comparison which) with
      | .ok operands => return some operands
      | .error _ => throw error
  else return none

def termWith (which : Parser → Nat) (term : Parse Predicate) : Parse Predicate := do
  if let some opened ← opened? which term then return opened
  if ← keyword "NOT" then return .negation (← term)
  if ← keyword "!" then return .negation (← term)
  if ← keyword "TRUEPREDICATE" then return .value true
  if ← keyword "FALSEPREDICATE" then return .value false
  comparison which

def termOf (which : Parser → Nat) : Parse Predicate :=
  recurse (fun again _ => termWith which (again ())) ()

def predicateWith (which : Parser → Nat) : Parse Predicate := terms (termOf which)

def predicate : Parse Predicate := predicateWith Parser.nextArgument

def wholePredicate (which : Parser → Nat) : Parse Predicate := do
  let predicate ← predicateWith which
  expectEnd
  return predicate

end PredicateRules.Parse

namespace PredicateRules.Predicate

def parse (text : String) (arguments : List Value) (caseSensitive : Bool) :
    Except ParseError Predicate :=
  match Parse.wholePredicate Parser.nextArgument (Parser.ofText text arguments caseSensitive) with
  | .ok predicate _ => .ok predicate
  | .error error _ => .error error

end PredicateRules.Predicate
