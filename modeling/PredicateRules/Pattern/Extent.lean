import PredicateRules.Pattern.CharacterSet
import PredicateRules.Unicode.Utf8
import Std.Data.HashMap

/-!
How much room an automaton takes that reads a text byte by byte, and how it grows by the states for
a set of characters.
-/

namespace PredicateRules

open Unicode (Utf8.ByteRange)

/-- The states of an automaton, which are numbered in the order in which they are added, and the
bytes that they take up. -/
structure Extent where
  states : Nat
  bytes : Nat

namespace Extent

def stateBytes : Nat := 32

/-- What a state takes for each range of bytes that it tells apart. -/
def transitionBytes : Nat := 8

/-- What a state takes for each state that it leads to without a byte. -/
def alternativeBytes : Nat := 4

def addStates (count : Nat) (extent : Extent) : Extent :=
  ⟨extent.states + count, extent.bytes + stateBytes * count⟩

def addTransitions (count : Nat) (extent : Extent) : Extent :=
  { extent with bytes := extent.bytes + transitionBytes * count }

def addAlternatives (count : Nat) (extent : Extent) : Extent :=
  { extent with bytes := extent.bytes + alternativeBytes * count }

/-- A mark of a list of numbers, by which it is looked up in a table. -/
def mark (numbers : List Nat) : UInt64 :=
  numbers.foldl (fun mark number => (mark ^^^ number.toUInt64) * 1099511628211) 14695981039346656037

/-- A step of the automaton, from a state that is known from elsewhere. -/
structure Edge where
  range : Utf8.ByteRange
  target : Nat
  deriving DecidableEq

/-- An automaton that grows while states that would be alike are shared. Of the states whose marks
fall on one place of the table the latest is found again. -/
structure Sharing (Key : Type) where
  extent : Extent
  known : Std.HashMap Nat (Key × Nat)

namespace Sharing

variable {Key : Type}

def add (sharing : Sharing Key) (place : Nat) (key : Key) (transitions : Nat) :
    Nat × Sharing Key :=
  let number := sharing.extent.states
  (number,
    { extent := (sharing.extent.addStates 1).addTransitions transitions
      known := sharing.known.insert place (key, number) })

def state [DecidableEq Key] (sharing : Sharing Key) (place : Nat) (key : Key) (transitions : Nat) :
    Nat × Sharing Key :=
  match sharing.known[place]? with
  | some (other, number) =>
    if other = key then (number, sharing) else sharing.add place key transitions
  | none => sharing.add place key transitions

end Sharing

/-- A state that is not complete: its steps so far, the latest first, and the range of a step whose
target is not complete either. -/
structure OpenState where
  edges : List Edge
  pending : Option Utf8.ByteRange

def OpenState.closed (state : OpenState) (target : Nat) : List Edge :=
  match state.pending with
  | some range => ⟨range, target⟩ :: state.edges
  | none => state.edges

def complete (edges : List Edge) (sharing : Sharing (List Edge)) : Nat × Sharing (List Edge) :=
  let place := mark (edges.reverse.flatMap fun edge => [edge.range.1, edge.range.2, edge.target])
  sharing.state (place % 10000).toNat edges edges.length

/-- Completes the states of a path from its end on, which leads to the target. -/
def completePath (target : Nat) (sharing : Sharing (List Edge)) :
    List OpenState → Nat × Sharing (List Edge)
  | [] => (target, sharing)
  | state :: path =>
    let (next, sharing) := completePath target sharing path
    complete (state.closed next) sharing

/-- Adds a sequence of ranges of bytes. The path that it has in common with the one before is left
open, what follows of the other is completed. -/
def addSequence (target : Nat) (sharing : Sharing (List Edge)) :
    List OpenState → List Utf8.ByteRange → List OpenState × Sharing (List Edge)
  | state :: path, range :: ranges =>
    if state.pending = some range && !path.isEmpty then
      let (path, sharing) := addSequence target sharing path ranges
      (state :: path, sharing)
    else
      let (next, sharing) := completePath target sharing path
      (⟨state.closed next, some range⟩ :: ranges.map fun range => ⟨[], some range⟩, sharing)
  | path, _ => (path, sharing)

/-- States that read a character from its first byte to its last. -/
def addForward (sequences : List (List Utf8.ByteRange)) (extent : Extent) : Extent :=
  let target := extent.states
  let start : Sharing (List Edge) := ⟨extent.addStates 1, ∅⟩
  let (path, sharing) := sequences.foldl (fun (path, sharing) sequence =>
    addSequence target sharing path sequence) ([⟨[], none⟩], start)
  (completePath target sharing path).2.extent

def addBefore (target : Nat) (range : Utf8.ByteRange) (sharing : Sharing Edge) :
    Nat × Sharing Edge :=
  let place := mark [target, range.1, range.2]
  sharing.state (place % 1000).toNat ⟨range, target⟩ 0

def addBackward (sequences : List (List Utf8.ByteRange)) (extent : Extent) : Extent :=
  let target := extent.states + 1
  let start : Sharing Edge := ⟨extent.addStates 2, ∅⟩
  let sharing := sequences.foldl (fun sharing sequence =>
    (sequence.foldl (fun (state, sharing) range => addBefore state range sharing)
      (target, sharing)).2) start
  sharing.extent.addAlternatives sequences.length

/-- States for a set of characters. ASCII is read by one state alone, in both directions. -/
def addSet (forward : Bool) (members : CharacterSet) (extent : Extent) : Extent :=
  if members.isAscii then (extent.addStates 2).addTransitions members.length
  else
    let sequences := members.flatMap fun range => Unicode.Utf8.sequences range.1 range.2
    if forward then extent.addForward sequences else extent.addBackward sequences

end Extent

end PredicateRules
