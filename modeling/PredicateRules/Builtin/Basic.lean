namespace PredicateRules

inductive Builtin where
  | sum
  | count
  | min
  | max
  | average
  | first
  | last
  | fromObjectIndex
  | index
  | indexFirst
  | indexLast
  | add
  | subtract
  | multiply
  | divide
  | modulus
  | sqrt
  | ln
  | exp
  | raiseToPower
  | abs
  | ceiling
  | changeSign
  | random
  | now
  | replace
  | valueForKeyPath
  deriving DecidableEq, Repr

namespace Builtin

def all : List Builtin :=
  [sum, count, min, max, average, first, last, fromObjectIndex, index, indexFirst, indexLast, add,
    subtract, multiply, divide, modulus, sqrt, ln, exp, raiseToPower, abs, ceiling, changeSign,
    random, now, replace, valueForKeyPath]

def selector : Builtin → String
  | sum => "sum:"
  | count => "count:"
  | min => "min:"
  | max => "max:"
  | average => "average:"
  | first => "first:"
  | last => "last:"
  | fromObjectIndex => "fromObject:index:"
  | index => "_index"
  | indexFirst => "_first"
  | indexLast => "_last"
  | add => "add:to:"
  | subtract => "from:subtract:"
  | multiply => "multiply:by:"
  | divide => "divide:by:"
  | modulus => "modulus:by:"
  | sqrt => "sqrt:"
  | ln => "ln:"
  | exp => "exp:"
  | raiseToPower => "raise:toPower:"
  | abs => "abs:"
  | ceiling => "ceiling:"
  | changeSign => "chs"
  | random => "random:"
  | now => "now"
  | replace => "replace:from:to:"
  | valueForKeyPath => "valueForKeyPath:"

def arity : Builtin → Nat
  | now => 0
  | sum | count | min | max | average | first | last | indexFirst | indexLast | sqrt | ln | exp
  | abs | ceiling | changeSign | random => 1
  | fromObjectIndex | index | add | subtract | multiply | divide | modulus | raiseToPower
  | valueForKeyPath => 2
  | replace => 3

def ofSelector? (selector : String) : Option Builtin :=
  all.find? fun builtin => builtin.selector == selector

end Builtin

end PredicateRules
