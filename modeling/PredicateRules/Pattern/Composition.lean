import PredicateRules.Pattern.Basic
import PredicateRules.Unicode.Utf8

namespace PredicateRules.Pattern

mutual

def isSame : Pattern → Pattern → Bool
  | empty, empty => true
  | literal text, literal other => text == other
  | oneOf members, oneOf others => members == others
  | assertion condition, assertion other => condition == other
  | repetition part least most longestFirst, repetition other least' most' longestFirst' =>
    least == least' && most == most' && longestFirst == longestFirst' && isSame part other
  | group number part, group number' other => number == number' && isSame part other
  | sequence parts, sequence others => areSame parts others
  | either alternatives, either others => areSame alternatives others
  | _, _ => false

def areSame : List Pattern → List Pattern → Bool
  | [], [] => true
  | part :: rest, other :: others => isSame part other && areSame rest others
  | _, _ => false

end

mutual

/-- Whether the pattern takes up no characters wherever it matches. -/
def isWidthless : Pattern → Bool
  | empty => true
  | literal _ => false
  | oneOf _ => false
  | assertion _ => true
  | repetition part _ _ _ => part.isWidthless
  | group _ part => part.isWidthless
  | sequence parts => areWidthless parts
  | either alternatives => areWidthless alternatives

def areWidthless : List Pattern → Bool
  | [] => true
  | part :: rest => part.isWidthless && areWidthless rest

end

def ofSet (members : CharacterSet) : Pattern :=
  match members with
  | [(first, last)] => if first = last then literal [Char.ofNat first] else oneOf members
  | members => oneOf members

/-- What takes up no characters is matched by one round as by many. -/
def repeated (part : Pattern) (least : Nat) (most : Option Nat) (longestFirst : Bool) : Pattern :=
  let (least, most) :=
    if part.isWidthless then (Nat.min least 1, some (Nat.min (most.getD 1) 1)) else (least, most)
  if most = some 0 then empty
  else if least = 1 && most = some 1 then part
  else repetition part least most longestFirst

def parts : Pattern → List Pattern
  | empty => []
  | sequence parts => parts
  | other => [other]

/-- Puts a part in front of others, as one with a literal after a literal. -/
def prepend (part : Pattern) (rest : List Pattern) : List Pattern :=
  match part, rest with
  | literal text, literal other :: rest => literal (text ++ other) :: rest
  | part, rest => part :: rest

def inSequence (patterns : List Pattern) : Pattern :=
  match (patterns.flatMap parts).foldr prepend [] with
  | [] => empty
  | [part] => part
  | parts => sequence parts

def choices : Pattern → List Pattern
  | either alternatives => alternatives
  | other => [other]

def loneCode? : Pattern → Option Nat
  | literal [character] => some character.toNat
  | _ => none

def members? : Pattern → Option CharacterSet
  | oneOf members => some members
  | _ => none

def commonFront : List Pattern → List Pattern → List Pattern
  | part :: rest, other :: others => if part.isSame other then part :: commonFront rest others else []
  | _, _ => []

/-- The parts that all alternatives start with, if all of them are sequences. -/
def sharedFront : List Pattern → List Pattern
  | [] => []
  | sequence parts :: rest =>
    rest.foldl (fun front alternative => match alternative with
      | sequence others => commonFront front others
      | _ => []) parts
  | _ => []

def withoutFront (count : Nat) (alternative : Pattern) : Pattern :=
  inSequence (alternative.parts.drop count)

/-- Single characters and sets of characters become one set. -/
def merged? (alternatives : List Pattern) : Option Pattern :=
  match alternatives.mapM loneCode? with
  | some codes => some (ofSet (Unicode.Ranges.ofCodes codes))
  | none =>
    match alternatives.mapM members? with
    | some sets => some (ofSet (Unicode.Ranges.unions sets))
    | none => none

def unite (alternatives : List Pattern) : Pattern :=
  (merged? alternatives).getD (either alternatives)

/-- One of several alternatives. What all of them start with is taken out in front of them; what is
left of them then does not start alike. -/
def anyOf (patterns : List Pattern) : Pattern :=
  match patterns.flatMap choices with
  | [] => oneOf []
  | [alternative] => alternative
  | alternatives =>
    match sharedFront alternatives with
    | [] => unite alternatives
    | front =>
      let rests := alternatives.map (withoutFront front.length)
      inSequence (front ++ [unite (rests.flatMap choices)])

end PredicateRules.Pattern
