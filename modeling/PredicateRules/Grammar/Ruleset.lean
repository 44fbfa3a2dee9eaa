import PredicateRules.Grammar.Predicate
import PredicateRules.Rule.Basic

/-!
The grammar of models:

    model       := ruleset*
    ruleset     := predicate ( ',' predicate )* '{' body '}'
    body        := ( declaration ';' | ruleset )* declaration?
    declaration := key ':' expression

Each predicate of a ruleset makes a rule with each of its declarations. A nested ruleset is meant
under each predicate of the enclosing one: the text of either is joined with AND and read as one.
-/

namespace PredicateRules

structure Declaration where
  key : String
  value : Expression

/-- A rule with the specifier texts that it stands under, the outermost first. -/
structure PlacedRule where
  path : List String
  rule : Rule

/-- The one text that stands for the texts of a path. -/
def specifierText (path : List String) : String := " AND ".intercalate path

namespace Parse

def trimSkipped (text : List Char) : List Char :=
  ((text.dropWhile CharClass.skipped).reverse.dropWhile CharClass.skipped).reverse

def specifier : Parse String := do
  let before ← scanner
  let _ ← predicate
  let after ← scanner
  return String.ofList (trimSkipped (after.slice before.location after.location))

def specifiers : Parse (List String) :=
  recurse (fun again texts => do
    let text ← specifier
    if ← literal "," then again (text :: texts) else return (text :: texts).reverse) []

def declaration : Parse Declaration := do
  let key ← characters CharClass.propertyKey .expectedPropertyKey
  expect ":" "declaration"
  return ⟨String.ofList key, ← expression⟩

/-- What a body holds, the latest first. -/
structure Body where
  declarations : List Declaration
  nested : List (List PlacedRule)

/-- The next declaration or else the next ruleset. After a declaration only a semicolon goes on. -/
def bodyStep (ruleset : Parse (List PlacedRule)) (again : Body → Parse Body) (body : Body) :
    Parse Body := do
  match ← tried declaration with
  | some declaration =>
    let body := { body with declarations := declaration :: body.declarations }
    if ← literal ";" then again body else return body
  | none =>
    match ← tried ruleset with
    | some rules => again { body with nested := rules :: body.nested }
    | none => return body

/-- Reads a body up to what is neither a declaration nor a ruleset. -/
def bodyFrom (ruleset : Parse (List PlacedRule)) : Body → Parse Body := recurse (bodyStep ruleset)

/-- The rules of one specifier with each of the declarations. -/
def rulesFor (path : List String) (specifier : Predicate) :
    List Declaration → Except ParseError (List PlacedRule)
  | [] => .ok []
  | declaration :: declarations =>
    match Rule.make specifier declaration.key declaration.value 0 with
    | .error cause => .error (.rule cause)
    | .ok rule => (rulesFor path specifier declarations).map (⟨path, rule⟩ :: ·)

def rulesForEach (caseSensitive : Bool) (declarations : List Declaration) :
    List (List String) → Except ParseError (List PlacedRule)
  | [] => .ok []
  | path :: paths => do
    let specifier ← Predicate.parse (specifierText path) [] caseSensitive
    let rules ← rulesFor path specifier declarations
    let others ← rulesForEach caseSensitive declarations paths
    return rules ++ others

/-- The paths of a nested ruleset under each of the enclosing paths; its own texts at the top. -/
def joinedPaths (parents : List (List String)) (own : List String) : List (List String) :=
  if parents.isEmpty then own.map fun child => [child]
  else parents.flatMap fun parent => own.map fun child => parent ++ [child]

def rulesetWith (caseSensitive : Bool) (ruleset : List (List String) → Parse (List PlacedRule))
    (parents : List (List String)) : Parse (List PlacedRule) := do
  match ← tried specifiers with
  | none => fail .expectedSpecifier
  | some own =>
    let paths := joinedPaths parents own
    expect "\x7b" "ruleset"
    let body ← bodyFrom (ruleset paths) ⟨[], []⟩
    expect "\x7d" "ruleset"
    match rulesForEach caseSensitive body.declarations.reverse paths with
    | .ok rules => return rules ++ body.nested.reverse.flatten
    | .error error => throw error

def ruleset (caseSensitive : Bool) (parents : List (List String)) : Parse (List PlacedRule) :=
  recurse (rulesetWith caseSensitive) parents

def trackLines : Parse Unit := fun parser => .ok () { parser with trackLines := true }

def rulesetsFrom (caseSensitive : Bool) : List (List PlacedRule) → Parse (List (List PlacedRule)) :=
  repeatWhile fun found => do return (← tried (ruleset caseSensitive [])).map (· :: found)

/-- All rules of a text. What is left over is an error that names the furthest line. -/
def placedRules : Parse (List PlacedRule) := do
  trackLines
  let found ← rulesetsFrom (← scanner).caseSensitive []
  if ← scan Scanner.atEnd then return found.reverse.flatten
  else throw (.unparsed (← scanner).line)

def model : Parse (List Rule) := do return (← placedRules).map PlacedRule.rule

end Parse

def PlacedRule.parseAll (text : String) (caseSensitive : Bool) :
    Except ParseError (List PlacedRule) :=
  match Parse.placedRules (Parser.ofText text [] caseSensitive) with
  | .ok rules _ => .ok rules
  | .error error _ => .error error

def Rule.parseAll (text : String) (caseSensitive : Bool) : Except ParseError (List Rule) :=
  match Parse.model (Parser.ofText text [] caseSensitive) with
  | .ok rules _ => .ok rules
  | .error error _ => .error error

theorem Rule.parseAll_eq (text : String) (caseSensitive : Bool) :
    Rule.parseAll text caseSensitive =
      (PlacedRule.parseAll text caseSensitive).map fun rules => rules.map PlacedRule.rule := by
  unfold parseAll PlacedRule.parseAll Parse.model
  simp only [bind, EStateM.bind, pure, EStateM.pure]
  cases Parse.placedRules (Parser.ofText text [] caseSensitive) with
  | ok rules parser => simp only [Except.map]
  | error cause parser => simp only [Except.map]

/-- A rule from the texts of its parts and a weight of 64 bits. The first part that cannot be read gives the
error. -/
def Rule.ofTexts (specifier key value : String) (weight : Int) : Except ParseError Rule := do
  let specifier ← Predicate.parse specifier [] false
  let value ← Expression.parse value [] false
  (Rule.make specifier key value (.ofInt weight)).mapError .rule

end PredicateRules
