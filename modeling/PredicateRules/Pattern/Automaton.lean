import PredicateRules.Pattern.Composition
import PredicateRules.Pattern.LiteralTree

namespace PredicateRules.Pattern

/-- The bytes that an automaton may take. -/
def roomLimit : Nat := 10 * 1024 * 1024

mutual

/-- The least number of characters of a match, none if some part of the pattern matches nothing. -/
def leastLength? : Pattern → Option Nat
  | empty => some 0
  | literal text => some text.length
  | oneOf members => if members.isEmpty then none else some 1
  | assertion _ => some 0
  | repetition part least _ _ => part.leastLength?.map (· * least)
  | group _ part => part.leastLength?
  | sequence parts => leastSum? parts
  | either alternatives => leastOf? alternatives

def leastSum? : List Pattern → Option Nat
  | [] => some 0
  | part :: rest => do some ((← part.leastLength?) + (← leastSum? rest))

def leastOf? : List Pattern → Option Nat
  | [] => none
  | [alternative] => alternative.leastLength?
  | alternative :: rest => do some (Nat.min (← alternative.leastLength?) (← leastOf? rest))

end

def hasWidth (pattern : Pattern) : Bool := pattern.leastLength?.any (0 < ·)

mutual

/-- Whether every match starts where the condition holds, as far as the first parts tell. -/
def startsWith (condition : Assertion) : Pattern → Bool
  | assertion other => other == condition
  | repetition part least _ _ => 0 < least && part.startsWith condition
  | group _ part => part.startsWith condition
  | sequence parts => firstStartsWith condition parts
  | either alternatives => allStartWith condition alternatives
  | _ => false

def firstStartsWith (condition : Assertion) : List Pattern → Bool
  | [] => false
  | part :: rest =>
    part.startsWith condition || (part.isWidthless && firstStartsWith condition rest)

def allStartWith (condition : Assertion) : List Pattern → Bool
  | [] => true
  | alternative :: rest => alternative.startsWith condition && allStartWith condition rest

end

mutual

def endsWith (condition : Assertion) : Pattern → Bool
  | assertion other => other == condition
  | repetition part least _ _ => 0 < least && part.endsWith condition
  | group _ part => part.endsWith condition
  | sequence parts => lastEndsWith condition parts
  | either alternatives => allEndWith condition alternatives
  | _ => false

/-- The last part counts, and the part before one that takes up no characters. -/
def lastEndsWith (condition : Assertion) : List Pattern → Bool
  | [] => false
  | part :: rest =>
    lastEndsWith condition rest || (areWidthless rest && part.endsWith condition)

def allEndWith (condition : Assertion) : List Pattern → Bool
  | [] => true
  | alternative :: rest => alternative.endsWith condition && allEndWith condition rest

end

/-- Adds something so many times, or until there is no room. -/
def addTimes (add : Extent → Extent) : Nat → Extent → Extent
  | 0, extent => extent
  | rounds + 1, extent =>
    if roomLimit < extent.bytes then extent else addTimes add rounds (add extent)

/-- A number of rounds takes the states of as many parts, an empty one if there are none. -/
def addExactly (add : Extent → Extent) (count : Nat) (extent : Extent) : Extent :=
  if count = 0 then extent.addStates 1 else addTimes add count extent

/-- A round that may be left out takes a choice besides its part. -/
def addOptional (add : Extent → Extent) (extent : Extent) : Extent :=
  add ((extent.addStates 1).addAlternatives 2)

/-- A choice whether to go on stands before rounds that take up characters, and behind others. -/
def addEndless (add : Extent → Extent) (hasWidth : Bool) (least : Nat) (extent : Extent) : Extent :=
  if least = 0 then
    if hasWidth then addOptional add extent
    else ((add extent).addStates 3).addAlternatives 4
  else ((addTimes add least extent).addStates 1).addAlternatives 2

def addRepetition (add : Extent → Extent) (hasWidth : Bool) (least : Nat) (most : Option Nat)
    (extent : Extent) : Extent :=
  match most with
  | none => addEndless add hasWidth least extent
  | some most =>
    if least = 0 && most = 1 then (addOptional add extent).addStates 1
    else
      let front := addExactly add least extent
      if most = least then front
      else addTimes (addOptional add) (most - least) (front.addStates 1)

def literalBytes? : Pattern → Option (List Nat)
  | literal text => some (text.flatMap fun character => Unicode.Utf8.encode character.toNat)
  | _ => none

/-- The bytes of the alternatives, if there are several and all are literals. -/
def allLiterals? (alternatives : List Pattern) : Option (List (List Nat)) :=
  if alternatives.length < 2 then none else alternatives.mapM literalBytes?

def addLiterals (forward : Bool) (literals : List (List Nat)) (extent : Extent) : Extent :=
  let tree := literals.foldl (fun tree bytes =>
    tree.insert (if forward then bytes else bytes.reverse)) LiteralTree.root
  tree.addTo (extent.addStates 1)

mutual

/-- The automaton with the states of the pattern added. Only when a text is read forward it is noted
where groups start and end. -/
def addTo (forward : Bool) : Pattern → Extent → Extent
  | empty, extent => extent.addStates 1
  | literal text, extent =>
    extent.addStates (text.flatMap fun character => Unicode.Utf8.encode character.toNat).length
  | oneOf members, extent => extent.addSet forward members
  | assertion _, extent => extent.addStates 1
  | repetition part least most _, extent =>
    addRepetition (addTo forward part) part.hasWidth least most extent
  | group _ part, extent =>
    if forward then (addTo forward part (extent.addStates 1)).addStates 1
    else addTo forward part extent
  | sequence parts, extent => addAll forward parts extent
  | either alternatives, extent =>
    match allLiterals? alternatives with
    | some literals => addLiterals forward literals extent
    | none => (addEach forward 0 alternatives extent).addAlternatives alternatives.length

def addAll (forward : Bool) : List Pattern → Extent → Extent
  | [], extent => extent
  | part :: rest, extent =>
    if forward then addAll forward rest (addTo forward part extent)
    else addTo forward part (addAll forward rest extent)

/-- After two alternatives come the choice between all of them and the place where they meet. -/
def addEach (forward : Bool) (index : Nat) : List Pattern → Extent → Extent
  | [], extent => extent
  | alternative :: rest, extent =>
    let extent := addTo forward alternative extent
    addEach forward (index + 1) rest (if index = 1 then extent.addStates 2 else extent)

end

/-- An automaton that may start anywhere reads any bytes first. -/
def beginning (anchored : Bool) : Extent :=
  if anchored then (⟨0, 0⟩ : Extent).addStates 1
  else ((((⟨0, 0⟩ : Extent).addStates 3).addAlternatives 2).addTransitions 1)

def forwardExtent (pattern : Pattern) : Extent :=
  (pattern.addTo true ((beginning (pattern.startsWith .textStart)).addStates 1)).addStates 2

def backwardExtent (pattern : Pattern) : Extent :=
  (pattern.addTo false (beginning (pattern.endsWith .textEnd))).addStates 1

def hasRoom (pattern : Pattern) : Bool :=
  pattern.forwardExtent.bytes ≤ roomLimit && pattern.backwardExtent.bytes ≤ roomLimit

end PredicateRules.Pattern
