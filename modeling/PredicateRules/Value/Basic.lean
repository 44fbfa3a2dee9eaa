import PredicateRules.DateTime
import PredicateRules.Number.Binary64

namespace PredicateRules

/-- From one place of an evaluation to one inside of it. -/
inductive Step where
  | child (position : Nat)
  /-- The first part of a compound, or the specifier of the first rule. -/
  | condition
  /-- The parts of a compound behind the first. -/
  | otherConditions
  /-- The rules behind the first. -/
  | otherRules
  /-- A call from outside, as many calls before it as the number says. -/
  | call (number : Nat)
  deriving DecidableEq, Repr

instance (position : Nat) : OfNat Step position := ⟨.child position⟩

instance : Coe Nat Step := ⟨.child⟩

/-- A place in an evaluation: the steps to it from the innermost one outward. -/
abbrev Site := List Step

/-- The step is from a compound or a rule to a condition of it. -/
def Step.isCondition : Step → Bool
  | condition | otherConditions => true
  | _ => false

/-- The place without the conditions that it stands in. -/
def Site.shown (site : Site) : Site := site.filter fun step => !step.isCondition

/-- How a context became an object value. Two presentations of one context are different objects. -/
inductive Origin where
  /-- Handed in from outside, the given number of times before. -/
  | given (number : Nat)
  /-- The subject of an inference, told apart by the places of the reads that led to it. -/
  | subject (trail : List Site)
  deriving DecidableEq, Repr

/-- A reference to something whose keys can be read; equal only to copies of itself. -/
inductive Object where
  | host (number : Nat)
  | context (scope : Nat) (origin : Origin)
  deriving DecidableEq, Repr

inductive Value where
  | null
  | bool (value : Bool)
  | int (number : Int64)
  | float (number : Float)
  | string (text : String)
  | dateTime (moment : DateTime)
  | list (items : List Value)
  /-- In order of insertion. -/
  | set (items : List Value)
  /-- By ascending key. -/
  | map (entries : List (String × Value))
  | object (reference : Object)
  /-- A host function, equal only to copies of itself. -/
  | function (number : Nat)
  deriving Inhabited

namespace Value

def typeName : Value → String
  | null => "null"
  | bool _ => "bool"
  | int _ => "int"
  | float _ => "float"
  | string _ => "string"
  | dateTime _ => "datetime"
  | list _ => "list"
  | set _ => "set"
  | map _ => "map"
  | object _ => "object"
  | function _ => "function"

def isNull : Value → Bool
  | null => true
  | _ => false

/-- False for `null`, `false`, zero, the empty string and empty collections. -/
def isTruthy : Value → Bool
  | null => false
  | bool value => value
  | int number => number != 0
  | float number => number != 0
  | string text => !text.isEmpty
  | dateTime _ => true
  | list items => !items.isEmpty
  | set items => !items.isEmpty
  | map entries => !entries.isEmpty
  | object _ => true
  | function _ => true

def asFloat? : Value → Option Float
  | int number => some (Float.ofInt number.toInt)
  | float number => some number
  | _ => none

def elements? : Value → Option (List Value)
  | list items => some items
  | set items => some items
  | _ => none

/-- Puts an entry where its key belongs, in place of an entry with the same key. -/
def insertEntry (key : String) (value : Value) : List (String × Value) → List (String × Value)
  | [] => [(key, value)]
  | (other, kept) :: rest =>
    if key = other then (key, value) :: rest
    else if key < other then (key, value) :: (other, kept) :: rest
    else (other, kept) :: insertEntry key value rest

/-- A map from entries in any order; of two entries with one key the later one stays. -/
def mapOfList (entries : List (String × Value)) : Value :=
  map (entries.foldl (fun sorted (key, value) => insertEntry key value sorted) [])

def entry? (key : String) (entries : List (String × Value)) : Option Value :=
  entries.lookup key

end Value

end PredicateRules
