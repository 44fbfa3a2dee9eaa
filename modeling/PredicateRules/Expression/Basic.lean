import PredicateRules.Builtin.Basic
import PredicateRules.Value.Collection

namespace PredicateRules

inductive SetOperation where
  | union
  | intersect
  | minus
  deriving DecidableEq, Repr

namespace SetOperation

def keyword : SetOperation → String
  | union => "UNION"
  | intersect => "INTERSECT"
  | minus => "MINUS"

def apply : SetOperation → ValueSet → ValueSet → ValueSet
  | union => ValueSet.union
  | intersect => ValueSet.intersection
  | minus => ValueSet.difference

end SetOperation

inductive Expression where
  | constant (value : Value)
  | selfReference
  | variable (name : String)
  /-- Keys read from the object. -/
  | keyPath (path : String)
  | call (function : Builtin) (arguments : List Expression)
  /-- A function that the operand's value holds under a selector. -/
  | custom (operand : Expression) (selector : String) (arguments : List Expression)
  | aggregate (items : List Expression)
  | set (operation : SetOperation) (left right : Expression)
  deriving Inhabited

namespace Expression

def keyPathText? : Expression → Option String
  | keyPath path => some path
  | _ => none

mutual

def equals : Expression → Expression → Bool
  | constant left, constant right => left == right
  | selfReference, selfReference => true
  | .variable left, .variable right => left == right
  | keyPath left, keyPath right => left == right
  | call left arguments, call right others => left == right && equalsEach arguments others
  | custom left selector arguments, custom right other others =>
    equals left right && selector == other && equalsEach arguments others
  | aggregate left, aggregate right => equalsEach left right
  | set operation left right, set other otherLeft otherRight =>
    operation == other && equals left otherLeft && equals right otherRight
  | _, _ => false

def equalsEach : List Expression → List Expression → Bool
  | [], [] => true
  | left :: lefts, right :: rights => equals left right && equalsEach lefts rights
  | _, _ => false

end

instance : BEq Expression := ⟨equals⟩

end Expression

end PredicateRules
