/-!
Sets of characters as ranges of code points, and mappings of characters as runs with one offset.
-/

namespace PredicateRules.Unicode

/-- First and last code point of each range. The operations keep the ranges in order and apart. -/
abbrev Ranges := List (Nat × Nat)

namespace Ranges

def holds (ranges : Ranges) (code : Nat) : Bool :=
  ranges.any fun (first, last) => first ≤ code && code ≤ last

/-- Puts the range in front, as one with those that it meets or overlaps. -/
def join (range : Nat × Nat) : Ranges → Ranges
  | [] => [range]
  | next :: rest =>
    if next.1 ≤ range.2 + 1 && range.1 ≤ next.2 + 1 then
      join (Nat.min range.1 next.1, Nat.max range.2 next.2) rest
    else range :: join next rest

def joined : Ranges → Ranges
  | [] => []
  | range :: rest => join range rest

def union (left right : Ranges) : Ranges :=
  joined (List.merge left right fun range other => range.1 ≤ other.1)

def unions (sets : List Ranges) : Ranges := sets.foldl union []

/-- The set of code points that are given in any order. -/
def ofCodes (codes : List Nat) : Ranges :=
  joined ((codes.map fun code => (code, code)).mergeSort fun range other => range.1 ≤ other.1)

/-- The character after a given one. The surrogates are no characters. -/
def next (code : Nat) : Nat := if code = 0xD7FF then 0xE000 else code + 1

def previous (code : Nat) : Nat := if code = 0xE000 then 0xD7FF else code - 1

/-- The characters outside of the ranges, from the given one on. -/
def outside (first : Nat) : Ranges → Ranges
  | [] => if first ≤ 0x10FFFF then [(first, 0x10FFFF)] else []
  | range :: rest =>
    if first < range.1 then (first, previous range.1) :: outside (next range.2) rest
    else outside (next range.2) rest

def complement (ranges : Ranges) : Ranges := outside 0 ranges

/-- Two sets are compared from the front; the range that ends first is left behind. -/
def intersection : Ranges → Ranges → Ranges
  | [], _ => []
  | _, [] => []
  | range :: rest, other :: others =>
    let common := (Nat.max range.1 other.1, Nat.min range.2 other.2)
    let further :=
      if range.2 < other.2 then intersection rest (other :: others)
      else intersection (range :: rest) others
    if common.1 ≤ common.2 then common :: further else further
termination_by left right => left.length + right.length

def difference (left right : Ranges) : Ranges := intersection left right.complement

def symmetricDifference (left right : Ranges) : Ranges :=
  (left.union right).difference (left.intersection right)

/-- Every second code point of each range, from its first or the one after it. -/
def everySecond (ranges : Ranges) (step : Nat) : Ranges :=
  ranges.flatMap fun (first, last) =>
    (List.range ((last + 2 - first - step) / 2)).map fun index =>
      (first + step + 2 * index, first + step + 2 * index)

end Ranges

/-- A set of characters with the names it goes by, in lower case and without separators. -/
structure Named where
  names : List String
  ranges : Ranges

def Named.find? (all : List Named) (name : String) : Option Ranges :=
  (all.find? fun named => named.names.contains name).map Named.ranges

/-- Every `stride`-th code point from `first` to `last` maps to itself plus `offset`. -/
structure CaseRun where
  first : Nat
  last : Nat
  stride : Nat
  offset : Int

namespace CaseRun

def holds (run : CaseRun) (code : Nat) : Bool :=
  run.first ≤ code && code ≤ run.last && (code - run.first) % run.stride == 0

def target (run : CaseRun) (code : Nat) : Nat := ((code : Int) + run.offset).toNat

def sources (run : CaseRun) : List Nat :=
  (List.range ((run.last - run.first) / run.stride + 1)).map fun index =>
    run.first + index * run.stride

end CaseRun

/-- What a code point maps to; itself where no run holds it. -/
def mapped (runs : List CaseRun) (code : Nat) : Nat :=
  match runs.find? fun run => run.holds code with
  | some run => run.target code
  | none => code

/-- Each code point that a run holds, with what it maps to. -/
def pairs (runs : List CaseRun) : List (Nat × Nat) :=
  runs.flatMap fun run => run.sources.map fun source => (source, run.target source)

end PredicateRules.Unicode
