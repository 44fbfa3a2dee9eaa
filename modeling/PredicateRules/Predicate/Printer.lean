import PredicateRules.Expression.Printer
import PredicateRules.Predicate.Basic

namespace PredicateRules

def ComparisonModifier.text : ComparisonModifier → String
  | direct => ""
  | any => "ANY "
  | all => "ALL "

def Comparison.text (describe : Object → String) (comparison : Comparison) : String :=
  comparison.modifier.text ++ comparison.left.text describe ++ " " ++ comparison.operator.symbol ++
    comparison.options.text ++ " " ++ comparison.right.text describe

namespace Predicate

def compoundText (kind : CompoundKind) (parts : List String) : String :=
  match kind, parts with
  | .not, [] => "NOT (TRUEPREDICATE)"
  | .not, part :: _ => "NOT " ++ part
  | .and, parts => " AND ".intercalate parts
  | .or, parts => " OR ".intercalate parts

section

variable (describe : Object → String)

mutual

def text : Predicate → String
  | value true => "TRUEPREDICATE"
  | value false => "FALSEPREDICATE"
  | comparison inner => inner.text describe
  | compound kind parts => compoundText kind (enclosedTexts parts)

def enclosedTexts : List Predicate → List String
  | [] => []
  | part :: parts => Expression.inParentheses (text part) :: enclosedTexts parts

end

end

end Predicate

end PredicateRules
