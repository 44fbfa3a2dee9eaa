import PredicateRules.Expression.Basic
import PredicateRules.KeyPath
import PredicateRules.Unicode.CaseFolding
import PredicateRules.Unicode.Category
import PredicateRules.Value.Printer

namespace PredicateRules

namespace KeyPath

/-- The words that a component of a key path must not be read as. -/
def reservedWords : List String :=
  ["NULL", "NIL", "TRUE", "YES", "FALSE", "NO", "SELF", "ANY", "ALL", "NONE", "SOME", "NOT",
    "TRUEPREDICATE", "FALSEPREDICATE"]

/-- Whether the text is the word in any case, alone or before something that is not of a word. -/
def startsWithWord (word : List Char) (text : List Char) : Bool :=
  match word, text with
  | [], [] => true
  | [], next :: _ => !Unicode.isWord next.toNat
  | _, [] => false
  | expected :: word, character :: text =>
    Unicode.sameFold expected character && startsWithWord word text

def needsEscape (component : List Char) : Bool :=
  (match component with
    | [] => false
    | first :: _ => first.isDigit || first = '$') ||
  reservedWords.any fun word => startsWithWord word.toList component

def componentText (component : List Char) : List Char :=
  if needsEscape component then '#' :: component else component

def text (path : String) : String :=
  ".".intercalate ((components path.toList).map fun component => String.ofList (componentText component))

end KeyPath

namespace Expression

def customKeyword : String := "FUNCTION"

def inParentheses (text : String) : String := "(" ++ text ++ ")"

def operation (symbol left right : String) : String :=
  inParentheses (left ++ " " ++ symbol ++ " " ++ right)

def callText (function : Builtin) (arguments : List String) : String :=
  match function, arguments with
  | .add, [left, right] => operation "+" left right
  | .subtract, [left, right] => operation "-" left right
  | .multiply, [left, right] => operation "*" left right
  | .divide, [left, right] => operation "/" left right
  | .raiseToPower, [left, right] => operation "**" left right
  | .changeSign, [operand] => inParentheses ("-" ++ operand)
  | .index, [target, position] => target ++ "[" ++ position ++ "]"
  | .indexFirst, [target] => target ++ "[FIRST]"
  | .indexLast, [target] => target ++ "[LAST]"
  | function, arguments => function.selector ++ inParentheses (Value.commaSeparated arguments)

section

variable (describe : Object → String)

mutual

def text : Expression → String
  | constant value => value.text describe
  | selfReference => "SELF"
  | .variable name => "$" ++ name
  | keyPath path => KeyPath.text path
  | call function arguments => callText function (texts arguments)
  | custom operand selector arguments =>
    customKeyword ++ inParentheses
      (Value.commaSeparated (text operand :: ("\"" ++ selector ++ "\"") :: texts arguments))
  | aggregate items => Value.inBraces (Value.commaSeparated (texts items))
  | set kind left right => operation kind.keyword (text left) (text right)

def texts : List Expression → List String
  | [] => []
  | item :: items => text item :: texts items

end

end

end Expression

end PredicateRules
