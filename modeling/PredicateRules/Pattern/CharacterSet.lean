import PredicateRules.Unicode.CaseFolding
import PredicateRules.Unicode.Ranges

namespace PredicateRules

abbrev CharacterSet := Unicode.Ranges

namespace CharacterSet

def single (code : Nat) : CharacterSet := [(code, code)]

def range (first last : Nat) : CharacterSet := [(first, last)]

/-- The characters between two ranges, and those after the last. Ranges that only the surrogates
part have no characters between them; then the two at their ends are taken. -/
def between (last : Nat) : CharacterSet → CharacterSet
  | [] => if last < 0x10FFFF then [(Unicode.Ranges.next last, 0x10FFFF)] else []
  | range :: rest =>
    let low := Unicode.Ranges.next last
    let high := Unicode.Ranges.previous range.1
    (Nat.min low high, Nat.max low high) :: between range.2 rest

/-- What a set stands for when it is negated. -/
def negated : CharacterSet → CharacterSet
  | [] => [(0, 0x10FFFF)]
  | range :: rest =>
    if range.1 = 0 then between range.2 rest
    else (0, Unicode.Ranges.previous range.1) :: between range.2 rest

/-- With every character that differs from a member in case alone. -/
def withCaseVariants (set : CharacterSet) : CharacterSet :=
  let folded := Unicode.foldPairs.filterMap fun (source, target) =>
    if set.holds source || set.holds target then some target else none
  let variants := Unicode.foldPairs.filterMap fun (source, target) =>
    if folded.contains target then some source else none
  set.union (Unicode.Ranges.ofCodes (folded ++ variants))

def withAsciiCaseVariants (set : CharacterSet) : CharacterSet :=
  let letters := (List.range 26).flatMap fun index =>
    if set.holds (0x41 + index) || set.holds (0x61 + index) then [0x41 + index, 0x61 + index]
    else []
  set.union (Unicode.Ranges.ofCodes letters)

def isAscii (set : CharacterSet) : Bool := set.all fun range => range.2 < 0x80

end CharacterSet

end PredicateRules
