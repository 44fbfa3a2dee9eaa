import PredicateRules.Expression.Basic

namespace PredicateRules

/-- How a comparison applies to a collection on its left side. -/
inductive ComparisonModifier where
  | direct
  | all
  | any
  deriving DecidableEq, Repr

inductive ComparisonOperator where
  | lessThan
  | lessThanOrEqual
  | greaterThan
  | greaterThanOrEqual
  | equalTo
  | notEqualTo
  | matchesPattern
  | like
  | beginsWith
  | endsWith
  | isIn
  | customSelector
  | contains
  | between
  deriving DecidableEq, Repr

namespace ComparisonOperator

def all : List ComparisonOperator :=
  [lessThan, lessThanOrEqual, greaterThan, greaterThanOrEqual, equalTo, notEqualTo, matchesPattern,
    like, beginsWith, endsWith, isIn, customSelector, contains, between]

def symbol : ComparisonOperator → String
  | lessThan => "<"
  | lessThanOrEqual => "<="
  | greaterThan => ">"
  | greaterThanOrEqual => ">="
  | equalTo => "=="
  | notEqualTo => "!="
  | matchesPattern => "MATCHES"
  | like => "LIKE"
  | beginsWith => "BEGINSWITH"
  | endsWith => "ENDSWITH"
  | isIn => "IN"
  | customSelector => "CUSTOMSELECTOR"
  | contains => "CONTAINS"
  | between => "BETWEEN"

end ComparisonOperator

/-- What is folded in the strings of both operands before they are compared. -/
structure ComparisonOptions where
  caseInsensitive : Bool
  diacriticInsensitive : Bool
  normalized : Bool
  deriving DecidableEq, Repr

namespace ComparisonOptions

def none : ComparisonOptions := ⟨false, false, false⟩

def text (options : ComparisonOptions) : String :=
  match options.caseInsensitive, options.diacriticInsensitive with
  | true, true => "[cd]"
  | true, false => "[c]"
  | false, true => "[d]"
  | false, false => ""

end ComparisonOptions

inductive CompoundKind where
  | not
  | and
  | or
  deriving DecidableEq, Repr

structure Comparison where
  left : Expression
  right : Expression
  modifier : ComparisonModifier
  operator : ComparisonOperator
  options : ComparisonOptions

namespace Comparison

def equals (comparison other : Comparison) : Bool :=
  comparison.left == other.left && comparison.right == other.right &&
    comparison.modifier == other.modifier && comparison.operator == other.operator &&
    comparison.options == other.options

instance : BEq Comparison := ⟨equals⟩

end Comparison

/-- A negation has exactly one part. -/
inductive Predicate where
  | value (holds : Bool)
  | comparison (comparison : Comparison)
  | compound (kind : CompoundKind) (parts : List Predicate)

namespace Predicate

def direct (left : Expression) (operator : ComparisonOperator) (right : Expression) : Predicate :=
  comparison ⟨left, right, .direct, operator, .none⟩

def negation (part : Predicate) : Predicate := compound .not [part]

def conjunction (parts : List Predicate) : Predicate := compound .and parts

def disjunction (parts : List Predicate) : Predicate := compound .or parts

def partsOf? (kind : CompoundKind) : Predicate → Option (List Predicate)
  | compound other parts => if other = kind then some parts else none
  | _ => none

theorem eq_compound_of_partsOf? {kind : CompoundKind} {predicate : Predicate} {parts : List Predicate}
    (found : predicate.partsOf? kind = some parts) : predicate = compound kind parts := by
  unfold partsOf? at found
  split at found
  next other others =>
    split at found
    next same =>
      cases found
      rw [same]
    next => cases found
  next => cases found

/-- Joins two predicates; a side that is already of the kind gives its parts. If that is the right
side alone, its parts come first. -/
def fold (kind : CompoundKind) (left right : Predicate) : Predicate :=
  compound kind <|
    match left.partsOf? kind, right.partsOf? kind with
    | some lefts, some rights => lefts ++ rights
    | none, some rights => rights ++ [left]
    | some lefts, none => lefts ++ [right]
    | none, none => [left, right]

def partsIn (kind : CompoundKind) (predicate : Predicate) : List Predicate :=
  (predicate.partsOf? kind).getD [predicate]

theorem fold_eq (kind : CompoundKind) (left right : Predicate) :
    fold kind left right = compound kind (left.partsIn kind ++ right.partsIn kind) ∨
      fold kind left right = compound kind (right.partsIn kind ++ left.partsIn kind) := by
  unfold fold partsIn
  cases left.partsOf? kind with
  | some lefts => cases right.partsOf? kind <;> exact .inl rfl
  | none =>
      cases right.partsOf? kind with
      | some rights => exact .inr rfl
      | none => exact .inl rfl

mutual

def equals : Predicate → Predicate → Bool
  | value left, value right => left == right
  | comparison left, comparison right => left == right
  | compound kind parts, compound other others => kind == other && equalsEach parts others
  | _, _ => false

def equalsEach : List Predicate → List Predicate → Bool
  | [], [] => true
  | left :: lefts, right :: rights => equals left right && equalsEach lefts rights
  | _, _ => false

end

instance : BEq Predicate := ⟨equals⟩

mutual

/-- How much a predicate asks for: two for a comparison, one for a constant, and one for a compound
besides what its parts ask for. -/
def specificity : Predicate → Nat
  | value _ => 1
  | comparison _ => 2
  | compound _ parts => 1 + specificitySum parts

def specificitySum : List Predicate → Nat
  | [] => 0
  | part :: parts => specificity part + specificitySum parts

end

end Predicate

end PredicateRules
