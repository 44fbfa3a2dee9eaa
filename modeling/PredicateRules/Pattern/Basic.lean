import PredicateRules.Pattern.CharacterSet
import PredicateRules.Unicode.Category

/-!
Regular expressions over characters, and the set of places in a text where a match that starts at
given places can end. Which of several matches is preferred does not matter here.
-/

namespace PredicateRules

/-- Conditions on a place in a text that take up no characters. -/
inductive Assertion where
  | textStart
  | textEnd
  | lineStart
  | lineEnd
  /-- Line ends may be a carriage return, a line feed or both together. -/
  | anyLineStart
  | anyLineEnd
  | wordBoundary (unicode : Bool)
  | notWordBoundary (unicode : Bool)
  | wordStart (unicode : Bool)
  | wordEnd (unicode : Bool)
  | wordStartHalf (unicode : Bool)
  | wordEndHalf (unicode : Bool)
  deriving DecidableEq, Repr

/-- Literals and lists of parts or alternatives are not empty. -/
inductive Pattern where
  | empty
  | literal (text : List Char)
  | oneOf (members : CharacterSet)
  | assertion (condition : Assertion)
  /-- Which repetition is tried first does not matter for what can be matched. -/
  | repetition (part : Pattern) (least : Nat) (most : Option Nat) (longestFirst : Bool)
  | group (number : Nat) (part : Pattern)
  | sequence (parts : List Pattern)
  | either (alternatives : List Pattern)

namespace Assertion

def isWordChar (unicode : Bool) (character : Char) : Bool :=
  if character.toNat < 0x80 then character.isAlphanum || character == '_'
  else unicode && Unicode.isWord character.toNat

def holdsBetween (condition : Assertion) (before after : Option Char) : Bool :=
  match condition with
  | textStart => before.isNone
  | textEnd => after.isNone
  | lineStart => before.isNone || before == some '\n'
  | lineEnd => after.isNone || after == some '\n'
  | anyLineStart =>
    before.isNone || before == some '\n' || (before == some '\r' && after != some '\n')
  | anyLineEnd =>
    after.isNone || after == some '\r' || (after == some '\n' && before != some '\r')
  | wordBoundary unicode => before.any (isWordChar unicode) != after.any (isWordChar unicode)
  | notWordBoundary unicode => before.any (isWordChar unicode) == after.any (isWordChar unicode)
  | wordStart unicode => !before.any (isWordChar unicode) && after.any (isWordChar unicode)
  | wordEnd unicode => before.any (isWordChar unicode) && !after.any (isWordChar unicode)
  | wordStartHalf unicode => !before.any (isWordChar unicode)
  | wordEndHalf unicode => !after.any (isWordChar unicode)

end Assertion

namespace Pattern

def charBefore? (text : Array Char) (place : Nat) : Option Char :=
  if place = 0 then none else text[place - 1]?

/-- Adds the places that are not there yet. -/
def merge (places others : List Nat) : List Nat :=
  others.foldl (fun known place => if place ∈ known then known else place :: known) places

/-- The places that `step` leads to in at most that many rounds, until a round adds none. -/
def spread (step : List Nat → List Nat) : Nat → List Nat → List Nat
  | 0, places => places
  | rounds + 1, places =>
    let further := merge places (step places)
    if further.length = places.length then places else spread step rounds further

/-- The places after so many rounds; when a round changes nothing, no later one does. -/
def repeatStep (step : List Nat → List Nat) : Nat → List Nat → List Nat
  | 0, places => places
  | rounds + 1, places =>
    let next := step places
    if next = places then places else repeatStep step rounds next

/-- The places after a character that is accepted at one of the places. -/
def advance (text : Array Char) (accepts : Char → Bool) (places : List Nat) : List Nat :=
  places.filterMap fun place =>
    match text[place]? with
    | some character => if accepts character then some (place + 1) else none
    | none => none

mutual

/-- Where a match that starts at one of the places can end. A text has one more place than it has
characters, so no more rounds than that can add a place. -/
def reach (text : Array Char) : Pattern → List Nat → List Nat
  | empty, places => places
  | literal word, places =>
    word.foldl (fun places expected => advance text (· == expected) places) places
  | oneOf members, places => advance text (fun character => members.holds character.toNat) places
  | assertion condition, places =>
    places.filter fun place => condition.holdsBetween (charBefore? text place) text[place]?
  | repetition part least most _, places =>
    let optional := match most with
      | some most => Nat.min (most - least) (text.size + 1)
      | none => text.size + 1
    spread (reach text part) optional (repeatStep (reach text part) least places)
  | group _ part, places => reach text part places
  | sequence parts, places => reachEnd text parts places
  | either alternatives, places => reachAny text alternatives places

def reachEnd (text : Array Char) : List Pattern → List Nat → List Nat
  | [], places => places
  | part :: rest, places => reachEnd text rest (reach text part places)

def reachAny (text : Array Char) : List Pattern → List Nat → List Nat
  | [], _ => []
  | alternative :: rest, places => merge (reach text alternative places) (reachAny text rest places)

end

def occursIn (pattern : Pattern) (text : List Char) : Bool :=
  !(pattern.reach text.toArray (List.range (text.length + 1))).isEmpty

end Pattern

end PredicateRules
