import PredicateRules.Proofs.Reading.Lexis

namespace PredicateRules

def CharClass.blanks : List Char :=
  [' ', '\t', '\n', '\r', '\x0B', '\x0C', '\u0085', '\u00A0']

theorem CharClass.solid {set : CharClass} (excluded : ∀ character ∈ blanks, set character = false)
    {character : Char} (member : set character = true) : skipped character = false := by
  refine Bool.eq_false_iff.mpr fun blank => ?_
  have listed : character ∈ blanks := by
    simpa [skipped, blanks, or_assoc] using blank
  rw [excluded character listed] at member
  cases member

namespace Scanner

/-- The text in front of the cursor without what is skipped first. -/
def ahead (scanner : Scanner) : List Char := scanner.remaining.dropWhile CharClass.skipped

/-- The cursor moved over the given characters. -/
structure Moves (start stop : Scanner) (crossed : List Char) : Prop where
  passed : stop.passed = crossed.reverse ++ start.passed
  remaining : start.remaining = crossed ++ stop.remaining
  skips : stop.skips = start.skips
  caseSensitive : stop.caseSensitive = start.caseSensitive

namespace Moves

theorem refl (scanner : Scanner) : Moves scanner scanner [] := ⟨rfl, rfl, rfl, rfl⟩

theorem trans {start middle stop : Scanner} {first second : List Char}
    (before : Moves start middle first) (after : Moves middle stop second) :
    Moves start stop (first ++ second) where
  passed := by simp [after.passed, before.passed]
  remaining := by simp [before.remaining, after.remaining]
  skips := after.skips.trans before.skips
  caseSensitive := after.caseSensitive.trans before.caseSensitive

theorem text {start stop : Scanner} {crossed : List Char} (moves : Moves start stop crossed) :
    stop.text = start.text := by
  simp [Scanner.text, moves.passed, moves.remaining]

end Moves

theorem forward_moves (scanner : Scanner) (count : Nat) :
    Moves scanner (scanner.forward count) (scanner.remaining.take count) where
  passed := rfl
  remaining := (List.take_append_drop count scanner.remaining).symm
  skips := rfl
  caseSensitive := rfl

theorem backTo_moves (scanner earlier : Scanner) (skips : scanner.skips = earlier.skips)
    (caseSensitive : scanner.caseSensitive = earlier.caseSensitive) :
    Moves earlier (scanner.backTo earlier) [] := ⟨rfl, rfl, skips, caseSensitive⟩

theorem startsWith_self (caseSensitive : Bool) (word rest : List Char) :
    startsWith caseSensitive word (word ++ rest) = true := by
  induction word with
  | nil => rfl
  | cons character word ih => simp [startsWith, sameChar, ih]

theorem ahead_solid (scanner : Scanner) :
    ∀ character ∈ scanner.ahead.head?, CharClass.skipped character = false := by
  intro character found
  have solid := List.head?_dropWhile_not CharClass.skipped scanner.remaining
  unfold ahead at found
  rw [found] at solid
  exact solid

theorem ahead_of_solid {scanner : Scanner}
    (solid : ∀ character ∈ scanner.remaining.head?, CharClass.skipped character = false) :
    scanner.ahead = scanner.remaining := by
  unfold ahead
  cases remaining : scanner.remaining with
  | nil => rfl
  | cons character text =>
      rw [remaining] at solid
      simp [solid character rfl]

theorem ahead_of_remaining {scanner other : Scanner} (same : scanner.remaining = other.ahead) :
    scanner.ahead = other.ahead :=
  (ahead_of_solid (same ▸ other.ahead_solid)).trans same

/-- What is skipped at the cursor. -/
def gap (scanner : Scanner) : List Char := scanner.remaining.takeWhile CharClass.skipped

theorem gap_append_ahead (scanner : Scanner) : scanner.gap ++ scanner.ahead = scanner.remaining :=
  List.takeWhile_append_dropWhile

theorem skipIgnored_crosses (scanner : Scanner) :
    Moves scanner scanner.skipIgnored (scanner.remaining.takeWhile scanner.isSkipped) := by
  unfold skipIgnored
  split
  next none => rw [none]; exact .refl scanner
  next skipped _ =>
    have moves := forward_moves scanner (scanner.remaining.takeWhile scanner.isSkipped).length
    rwa [← List.prefix_iff_eq_take.mp (List.takeWhile_prefix _)] at moves

theorem skipIgnored_remaining (scanner : Scanner) :
    scanner.skipIgnored.remaining = scanner.remaining.dropWhile scanner.isSkipped := by
  have whole : scanner.remaining.takeWhile scanner.isSkipped ++ scanner.remaining.dropWhile scanner.isSkipped =
      scanner.remaining.takeWhile scanner.isSkipped ++ scanner.skipIgnored.remaining :=
    List.takeWhile_append_dropWhile.trans scanner.skipIgnored_crosses.remaining
  exact (List.append_cancel_left whole).symm

theorem skipIgnored_skipIgnored (scanner : Scanner) : scanner.skipIgnored.skipIgnored = scanner.skipIgnored := by
  have skips : scanner.skipIgnored.isSkipped = scanner.isSkipped := by
    funext character
    simp only [isSkipped, scanner.skipIgnored_crosses.skips]
  have none : scanner.skipIgnored.remaining.takeWhile scanner.skipIgnored.isSkipped = [] := by
    have solid := List.head?_dropWhile_not scanner.isSkipped scanner.remaining
    rw [← skipIgnored_remaining] at solid
    rw [skips]
    cases remaining : scanner.skipIgnored.remaining with
    | nil => rfl
    | cons character rest =>
        rw [remaining] at solid
        exact List.takeWhile_cons_of_neg (by simpa using solid)
  conv => lhs; rw [skipIgnored, none]

theorem charactersWithin_byteLength (text rest : List Char) :
    charactersWithin (byteLength text) (text ++ rest) = text.length := by
  induction text with
  | nil =>
      cases rest with
      | nil => rfl
      | cons character rest =>
          have positive := character.utf8Size_pos
          simp [charactersWithin, byteLength, Nat.ne_of_gt positive]
  | cons character text ih =>
      simp [charactersWithin, byteLength, ih]

theorem take_location (scanner : Scanner) :
    scanner.text.take (charactersWithin scanner.location scanner.text) = scanner.passed.reverse := by
  unfold location text
  rw [← byteLength_reverse, charactersWithin_byteLength, List.take_left]

theorem slice_eq {start stop : Scanner} (same : stop.text = start.text) :
    stop.slice start.location stop.location = stop.passed.reverse.drop start.passed.length := by
  have before := take_location start
  have through := take_location stop
  rw [← same] at before
  have starts : byteLength start.passed.reverse = start.location := byteLength_reverse _
  have stops : byteLength stop.passed.reverse = stop.location := byteLength_reverse _
  simp only [slice, before, through, starts, stops, decide_true, Bool.and_self, if_true,
    List.length_reverse]

theorem Moves.slice {start stop : Scanner} {crossed : List Char} (moves : Moves start stop crossed) :
    stop.slice start.location stop.location = crossed := by
  rw [slice_eq moves.text, moves.passed, List.reverse_append, List.reverse_reverse, ← List.length_reverse,
    List.drop_left]

section

variable {scanner : Scanner} (skips : scanner.skips = some CharClass.skipped)

include skips

theorem isSkipped_eq : scanner.isSkipped = CharClass.skipped := by
  funext character
  simp [isSkipped, skips]

theorem skipIgnored_moves : Moves scanner scanner.skipIgnored scanner.gap := by
  have crosses := scanner.skipIgnored_crosses
  rwa [isSkipped_eq skips] at crosses

theorem remaining_skipIgnored : scanner.skipIgnored.remaining = scanner.ahead := by
  rw [skipIgnored_remaining, isSkipped_eq skips, ahead]

def meets (scanner : Scanner) (word : String) : Bool :=
  !scanner.ahead.isEmpty && startsWith scanner.caseSensitive word.toList scanner.ahead

theorem scanLiteral_eq (word : String) :
    scanner.scanLiteral word =
      if scanner.meets word then (true, scanner.skipIgnored.forward word.toList.length)
      else (false, scanner.skipIgnored) := by
  simp only [scanLiteral, meets, remaining_skipIgnored skips, (skipIgnored_moves skips).caseSensitive]
  rfl

theorem forward_skipIgnored_moves (count : Nat) :
    Moves scanner (scanner.skipIgnored.forward count) (scanner.gap ++ scanner.ahead.take count) := by
  have moves := (skipIgnored_moves skips).trans (forward_moves scanner.skipIgnored count)
  rwa [remaining_skipIgnored skips] at moves

/-- A keyword that comes next may still be the front of a longer word. -/
def meetsKeyword (scanner : Scanner) (word : String) : Bool :=
  scanner.meets word &&
    !(word.toList.getLast?.any CharClass.continuesKeyword &&
      (scanner.ahead.drop word.toList.length).head?.any CharClass.continuesKeyword)

theorem scanKeyword_eq (word : String) :
    scanner.scanKeyword word =
      if scanner.meetsKeyword word then (true, scanner.skipIgnored.forward word.toList.length)
      else if scanner.meets word then
        (false, (scanner.skipIgnored.forward word.toList.length).backTo scanner)
      else (false, scanner.skipIgnored) := by
  have rest : (scanner.skipIgnored.forward word.toList.length).peek =
      (scanner.ahead.drop word.toList.length).head? := by
    simp only [peek, forward, remaining_skipIgnored skips]
  unfold scanKeyword meetsKeyword
  rw [scanLiteral_eq skips]
  cases scanner.meets word with
  | false => rfl
  | true =>
      simp only [if_true, Bool.true_and, rest]
      cases word.toList.getLast?.any CharClass.continuesKeyword &&
        (scanner.ahead.drop word.toList.length).head?.any CharClass.continuesKeyword with
      | false => rfl
      | true => rfl

theorem atEnd_eq : scanner.atEnd = (scanner.ahead.isEmpty, scanner.skipIgnored.backTo scanner) := by
  simp only [atEnd, remaining_skipIgnored skips]

theorem backTo_skipIgnored_moves : Moves scanner (scanner.skipIgnored.backTo scanner) [] :=
  backTo_moves _ _ (skipIgnored_moves skips).skips (skipIgnored_moves skips).caseSensitive

theorem scanCharacters_some {set : CharClass}
    (solid : ∀ character ∈ CharClass.blanks, set character = false) (found : scanner.ahead.takeWhile set ≠ []) :
    ∃ stop, scanner.scanCharacters set = (some (scanner.ahead.takeWhile set), stop) ∧
      Moves scanner stop (scanner.gap ++ scanner.ahead.takeWhile set) := by
  have back := backTo_skipIgnored_moves skips
  have skipsBack := back.skips.trans skips
  have aheadBack : (scanner.skipIgnored.backTo scanner).skipIgnored.remaining = scanner.ahead :=
    remaining_skipIgnored skipsBack
  have nonempty : scanner.ahead.isEmpty = false := by
    cases empty : scanner.ahead with
    | nil => simp [empty] at found
    | cons => rfl
  have kept : (scanner.ahead.takeWhile set).filter (fun character =>
      !(scanner.skipIgnored.backTo scanner).skipIgnored.isSkipped character) =
        scanner.ahead.takeWhile set := by
    rw [isSkipped_eq ((skipIgnored_moves skipsBack).skips.trans skipsBack)]
    refine List.filter_eq_self.mpr fun character member => ?_
    rw [CharClass.solid solid (List.all_eq_true.mp List.all_takeWhile character member)]
    rfl
  have whole := forward_skipIgnored_moves skipsBack (scanner.ahead.takeWhile set).length
  have taken : (scanner.skipIgnored.backTo scanner).ahead.take (scanner.ahead.takeWhile set).length =
      scanner.ahead.takeWhile set :=
    (List.prefix_iff_eq_take.mp (List.takeWhile_prefix _)).symm
  rw [taken] at whole
  refine ⟨_, ?_, back.trans whole⟩
  unfold scanCharacters scanRun
  rw [atEnd_eq skips, nonempty]
  simp only [aheadBack, kept]

theorem scanCharacters_none {set : CharClass} (missing : scanner.ahead.takeWhile set = []) :
    ∃ stop, scanner.scanCharacters set = (none, stop) ∧
      ∃ crossed, Moves scanner stop crossed := by
  have back := backTo_skipIgnored_moves skips
  have skipsBack := back.skips.trans skips
  have aheadBack : (scanner.skipIgnored.backTo scanner).skipIgnored.remaining = scanner.ahead :=
    remaining_skipIgnored skipsBack
  unfold scanCharacters scanRun
  rw [atEnd_eq skips]
  cases scanner.ahead.isEmpty with
  | true => exact ⟨_, rfl, _, back⟩
  | false =>
      simp only [aheadBack, missing, List.filter_nil]
      exact ⟨_, rfl, _, back.trans (skipIgnored_moves skipsBack)⟩

end

end Scanner

end PredicateRules
