namespace PredicateRules

inductive EvalError where
  | unknownFunction (name : String)
  | notCallable (name target : String)
  | unsupportedOperator (operator : String)
  | typeMismatch (function expected found : String)
  | arity (function : String) (expected found : Nat)
  | divisionByZero (function : String)
  | indexOutOfBounds (index : Int64) (size : Nat)
  | invalidPattern (pattern : String)
  /-- The key is already being inferred in the same context. -/
  | inferenceCycle (key : String)
  | inferenceDepthExceeded (key : String) (limit : Nat)
  deriving DecidableEq, Repr

def EvalError.message : EvalError → String
  | unknownFunction name => "function '" ++ name ++ "' not found"
  | notCallable name target => "'" ++ name ++ "' is not callable on " ++ target
  | unsupportedOperator operator => "operator " ++ operator ++ " not supported"
  | typeMismatch function expected found =>
    function ++ ": expected " ++ expected ++ ", got " ++ found
  | arity function expected found =>
    function ++ ": expected " ++ toString expected ++ " argument(s), got " ++ toString found
  | divisionByZero function => function ++ ": division by zero"
  | indexOutOfBounds index size =>
    "index " ++ toString index.toInt ++ " out of bounds for collection of size " ++ toString size
  | invalidPattern pattern => "invalid pattern '" ++ pattern ++ "'"
  | inferenceCycle key => "inference of '" ++ key ++ "' requires itself"
  | inferenceDepthExceeded key limit =>
    "inference of '" ++ key ++ "' nested deeper than " ++ toString limit ++ " levels"

end PredicateRules
