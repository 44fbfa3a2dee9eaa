import PredicateRules.Context.Scope

namespace PredicateRules

def escapedCharacter (character : Char) : List Char :=
  match character with
  | '\x00' => ['\\', '0']
  | '\t' => ['\\', 't']
  | '\r' => ['\\', 'r']
  | '\n' => ['\\', 'n']
  | '"' => ['\\', '"']
  | '\\' => ['\\', '\\']
  | character =>
    let code := character.toNat
    if !Unicode.extendsGrapheme code && Unicode.isPrintable code then [character]
    else "\\u\x7b".toList ++ Nat.toDigits 16 code ++ ['\x7d']

def escapedKey (key : String) : String :=
  "\"" ++ String.ofList (key.toList.flatMap escapedCharacter) ++ "\""

def Scope.description (scope : Scope) : String :=
  let keys := (scope.values.map Prod.fst).mergeSort fun key other => key ≤ other
  "Context \x7b keys: [" ++ Value.commaSeparated (keys.map escapedKey) ++ "], rules: " ++
    toString scope.model.rules.length ++ ", nested: " ++
    (if scope.parent.isSome then "true" else "false") ++ " \x7d"

def Contexts.description (contexts : Contexts) (number : Nat) : String :=
  match contexts.scope? number with
  | some scope => scope.description
  | none => ""

end PredicateRules
