namespace PredicateRules

/-- Where reading failed: the rest of the text, and the line in texts of many lines. -/
structure Location where
  residual : String
  line : Option Nat
  deriving DecidableEq, Repr

def Location.text (location : Location) : String :=
  match location.line with
  | some line => "line " ++ toString line ++ ": '" ++ location.residual ++ "'"
  | none => "'" ++ location.residual ++ "'"

inductive RuleError where
  | emptyKey
  deriving DecidableEq, Repr

def RuleError.message : RuleError → String
  | emptyKey => "rule key cannot be empty"

inductive ParseError where
  | missingDelimiter (delimiter construct : String) (location : Location)
  | missingIdentifier (location : Location)
  | unknownFunction (name : String) (location : Location)
  | invalidFunction (location : Location)
  | invalidKeyPath (location : Location)
  | invalidOperator (location : Location)
  | invalidLiteral (kind : String) (location : Location)
  | missingArgument (placeholder : String) (location : Location)
  | invalidArgument (location : Location)
  | expectedSpecifier (location : Location)
  | expectedPropertyKey (location : Location)
  | trailingInput (location : Location)
  | unparsed (line : Nat)
  | rule (cause : RuleError)
  deriving DecidableEq, Repr

def ParseError.message : ParseError → String
  | missingDelimiter delimiter construct location =>
    "missing '" ++ delimiter ++ "' in " ++ construct ++ " at " ++ location.text
  | missingIdentifier location => "missing identifier at " ++ location.text
  | unknownFunction name location => "function '" ++ name ++ "' not found at " ++ location.text
  | invalidFunction location => "invalid function identifier at " ++ location.text
  | invalidKeyPath location => "invalid keypath at " ++ location.text
  | invalidOperator location => "invalid comparison predicate at " ++ location.text
  | invalidLiteral kind location => "invalid " ++ kind ++ " literal at " ++ location.text
  | missingArgument placeholder location =>
    "no argument left for placeholder '%" ++ placeholder ++ "' at " ++ location.text
  | invalidArgument location =>
    "argument for '%K' must be a string keypath at " ++ location.text
  | expectedSpecifier location => "expected specifier at " ++ location.text
  | expectedPropertyKey location => "expected property key at " ++ location.text
  | trailingInput location => "unexpected input after expression at " ++ location.text
  | unparsed line => "failed to parse past line " ++ toString line
  | rule cause => cause.message

end PredicateRules
