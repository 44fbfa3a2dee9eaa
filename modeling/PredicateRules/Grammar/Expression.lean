import PredicateRules.Expression.Printer
import PredicateRules.Grammar.Parser

/-!
The grammar of expressions:

    expression     := addition ( ( ':=' | UNION | INTERSECT | MINUS ) addition )*
    addition       := multiplication ( ( '+' | '-' ) multiplication )*
    multiplication := power ( ( '*' | '/' ) power )*
    power          := functional ( '**' functional )*
    functional     := simple ( ':' | '(' arguments ')' | '[' index ']' | '.' simple )*
    simple         := number | '-' expression | '(' expression ')' | '{' arguments '}'
                    | constant | '$' name | '%' placeholder | string | '@' name | '#'? name

The right side of `:=` is read and dropped. Each level takes the reader of a whole expression, for
what stands inside of brackets, and which argument a placeholder takes.
-/

namespace PredicateRules.Parse

def identifier : Parse String := do
  return String.ofList (← characters CharClass.identifier .missingIdentifier)

/-- A number without a sign: the longest float, or an integer if its text is one. -/
def numericLiteral? : Parse (Option Value) := do
  move Scanner.skipIgnored
  let before ← scanner
  match ← scan Scanner.scanFloat with
  | some number =>
    let after ← scanner
    match Numeral.parseInt64? (after.slice before.location after.location) with
    | some whole => return some (.int whole)
    | none => return some (.float number)
  | none => return none

def constantWords : List (String × Expression) :=
  [("NULL", .constant .null), ("NIL", .constant .null), ("TRUE", .constant (.bool true)),
    ("YES", .constant (.bool true)), ("FALSE", .constant (.bool false)),
    ("NO", .constant (.bool false)), ("SELF", .selfReference)]

/-- The letters that may follow a percent sign by themselves. -/
def plainPlaceholders : List Char :=
  ['@', 'c', 'C', 'd', 'D', 'i', 'o', 'O', 'u', 'U', 'x', 'X', 'e', 'E', 'f', 'g', 'G']

def lengthPlaceholders : Char → List Char
  | 'h' => ['i', 'u']
  | 'q' => ['i', 'u', 'x', 'X']
  | _ => []

def placeholderLetters? : List Char → Option (List Char)
  | 'K' :: _ => some ['K']
  | first :: rest =>
    if plainPlaceholders.contains first then some [first]
    else
      match rest with
      | second :: _ =>
        if (lengthPlaceholders first).contains second then some [first, second] else none
      | [] => none
  | [] => none

def placeholderWord? : Parse (Option (List Char)) := do
  let before ← scanner
  if ← literal "%" then
    match placeholderLetters? (← scanner).remaining with
    | some letters =>
      move fun scanner => scanner.forward letters.length
      return some letters
    | none =>
      backTo before
      return none
  else return none

/-- What an argument stands for: a constant, or a key path for `%K`. -/
def argumentExpression? (letters : List Char) (value : Value) : Option Expression :=
  if letters = ['K'] then
    match value with
    | .string path => some (.keyPath path)
    | _ => none
  else some (.constant value)

def placeholder? (which : Parser → Nat) : Parse (Option Expression) := do
  match ← placeholderWord? with
  | some letters =>
    let value ← takeArgument which (String.ofList letters)
    match argumentExpression? letters value with
    | some expression => return some expression
    | none => fail .invalidArgument
  | none => return none

/-- What stands between two quotation marks, with nothing skipped and nothing escaped. -/
def quotedBody (mark kind : String) : Parse String := do
  let skips := (← scanner).skips
  move fun scanner => scanner.setSkips none
  let body ← scan fun scanner => scanner.scanUpToLiteral mark
  let closed ← literal mark
  move fun scanner => scanner.setSkips skips
  if closed then return String.ofList (body.getD []) else fail (.invalidLiteral kind)

def quotedBy (mark kind : String) : Parse (Option Expression) := do
  if ← literal mark then return some (.constant (.string (← quotedBody mark kind)))
  else return none

def quoted? : Parse (Option Expression) := do
  if let some string ← quotedBy "\"" "double-quoted string" then return some string
  quotedBy "'" "single-quoted string"

/-- The negative of an expression; of a number the negative number, if it is a number of its kind. -/
def negated : Expression → Expression
  | .constant (.int number) =>
    if number = Int64.minValue then .call .changeSign [.constant (.int number)]
    else .constant (.int (-number))
  | .constant (.float number) => .constant (.float (-number))
  | operand => .call .changeSign [operand]

def expressionList (nested : Parse Expression) (close construct : String) : Parse (List Expression) := do
  if ← literal close then return []
  recurse (fun again items => do
    let item ← nested
    if ← literal "," then again (item :: items)
    else do
      expect close construct
      return (item :: items).reverse) []

def simple (which : Parser → Nat) (nested : Parse Expression) : Parse Expression := do
  if let some number ← numericLiteral? then return .constant number
  if ← literal "-" then return negated (← nested)
  if ← literal "(" then
    let inner ← nested
    expect ")" "expression"
    return inner
  if ← literal "\x7b" then return .aggregate (← expressionList nested "\x7d" "aggregate")
  if let some constant ← firstKeyword constantWords then return constant
  if ← literal "$" then return .variable (← identifier)
  if let some argument ← placeholder? which then return argument
  if let some string ← quoted? then return string
  if ← literal "@" then return .keyPath ("@" ++ (← identifier))
  let _ ← literal "#"
  return .keyPath (← identifier)

/-- A colon that ends a part of a selector, not the beginning of `:=`. -/
def selectorColon : Parse Bool := do
  let before ← scanner
  if !(← literal ":") then return false
  if (← scanner).peek = some '=' then
    backTo before
    return false
  return true

def selectorPart? : Parse (Option String) := do
  let before ← scanner
  if let some part ← scan fun scanner => scanner.scanCharacters CharClass.identifier then
    if ← selectorColon then return some (String.ofList part ++ ":")
  backTo before
  return none

def selectorParts (selector : String) : Parse String :=
  repeatWhile (fun selector => do return (← selectorPart?).map fun part => selector ++ part) selector

def lowerAscii (text : String) : List Char := text.toList.map Char.toLower

def isCustomKeyword (caseSensitive : Bool) (name : String) : Bool :=
  if caseSensitive then name == Expression.customKeyword
  else lowerAscii name == lowerAscii Expression.customKeyword

/-- A call by name. What a value holds is called with the value and the selector as the first two
arguments. -/
def namedCall (caseSensitive : Bool) (name : String) (arguments : List Expression) :
    Except (Location → ParseError) Expression :=
  if isCustomKeyword caseSensitive name then
    match arguments with
    | operand :: .constant (.string selector) :: rest => .ok (.custom operand selector rest)
    | _ => .error .invalidFunction
  else
    match Builtin.ofSelector? name with
    | some function => .ok (.call function arguments)
    | none => .error (.unknownFunction name)

def callNamed (name : String) (arguments : List Expression) : Parse Expression := do
  match namedCall (← scanner).caseSensitive name arguments with
  | .ok call => return call
  | .error error => fail error

def position (nested : Parse Expression) (target : Expression) : Parse Expression := do
  if ← keyword "FIRST" then return .call .indexFirst [target]
  if ← keyword "LAST" then return .call .indexLast [target]
  if ← keyword "SIZE" then return .call .count [target]
  return .call .index [target, ← nested]

def subscript (nested : Parse Expression) (target : Expression) : Parse Expression := do
  let element ← position nested target
  expect "]" "index"
  return element

def furtherKey (which : Parser → Nat) (nested : Parse Expression) (path : Option String) :
    Parse Expression := do
  match path with
  | some path =>
    match ← simple which nested with
    | .keyPath rest => return .keyPath (path ++ "." ++ rest)
    | _ => fail .invalidKeyPath
  | none => fail .invalidKeyPath

def arguments (nested : Parse Expression) (path : Option String) : Parse Expression := do
  match path with
  | some name => callNamed name (← expressionList nested ")" "function call")
  | none => fail .invalidFunction

def suffix? (which : Parser → Nat) (nested : Parse Expression) (left : Expression) :
    Parse (Option Expression) := do
  if ← literal "(" then return some (← arguments nested left.keyPathText?)
  if ← literal "[" then return some (← subscript nested left)
  if ← literal "." then return some (← furtherKey which nested left.keyPathText?)
  return none

/-- What may follow an operand: a part of a selector behind a key path, or a suffix. -/
def functionalStep (which : Parser → Nat) (nested : Parse Expression) (left : Expression) :
    Parse (Option Expression) := do
  match left.keyPathText? with
  | some path =>
    if ← selectorColon then return some (.keyPath (← selectorParts (path ++ ":")))
    else suffix? which nested left
  | none => suffix? which nested left

def functional (which : Parser → Nat) (nested : Parse Expression) : Parse Expression := do
  repeatWhile (functionalStep which nested) (← simple which nested)

def joined (signs : List (String × Builtin)) (operand : Parse Expression) : Parse Expression := do
  repeatWhile (fun left => do
    match ← sign signs with
    | some function => return some (.call function [left, ← operand])
    | none => return none) (← operand)
where
  sign : List (String × Builtin) → Parse (Option Builtin)
    | [] => return none
    | (text, function) :: others => do
      if ← literal text then return some function else sign others

def power (which : Parser → Nat) (nested : Parse Expression) : Parse Expression :=
  joined [("**", .raiseToPower)] (functional which nested)

def multiplication (which : Parser → Nat) (nested : Parse Expression) : Parse Expression :=
  joined [("*", .multiply), ("/", .divide)] (power which nested)

def addition (which : Parser → Nat) (nested : Parse Expression) : Parse Expression :=
  joined [("+", .add), ("-", .subtract)] (multiplication which nested)

def setWords : List (String × SetOperation) :=
  [("UNION", .union), ("INTERSECT", .intersect), ("MINUS", .minus)]

def binaryStep (which : Parser → Nat) (nested : Parse Expression) (left : Expression) : Parse (Option Expression) := do
  if ← literal ":=" then
    let _ ← addition which nested
    return some left
  match ← firstKeyword setWords with
  | some operation => return some (.set operation left (← addition which nested))
  | none => return none

def binary (which : Parser → Nat) (nested : Parse Expression) : Parse Expression := do
  repeatWhile (binaryStep which nested) (← addition which nested)

def expressionWith (which : Parser → Nat) : Parse Expression :=
  recurse (fun again _ => binary which (again ())) ()

def expression : Parse Expression := expressionWith Parser.nextArgument

end PredicateRules.Parse

namespace PredicateRules.Expression

def parse (text : String) (arguments : List Value) (caseSensitive : Bool) :
    Except ParseError Expression :=
  let reading : Parse Expression := do
    let expression ← Parse.expression
    Parse.expectEnd
    return expression
  match reading (Parser.ofText text arguments caseSensitive) with
  | .ok expression _ => .ok expression
  | .error error _ => .error error

end PredicateRules.Expression
