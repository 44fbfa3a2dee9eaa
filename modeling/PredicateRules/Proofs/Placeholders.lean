import PredicateRules.Proofs.Reading.Whole

namespace PredicateRules

open PredicateRules.Parser

/-- The number in the text of the placeholder that was passed last. -/
def Parser.placeInText (parser : Parser) : Nat := parser.lexis.placeholders - 1

/-- The placeholders of a text: the percent signs outside of strings. -/
def placeholderCount (text : String) : Nat := (Lexis.after text.toList.reverse).placeholders

namespace Predicate

/-- What a text denotes and how many arguments were read for it, if `which` numbers the argument that
a placeholder takes. -/
def reading? (which : Parser → Nat) (text : String) (arguments : List Value)
    (caseSensitive : Bool) : Option (Predicate × Nat) :=
  match Parse.wholePredicate which (Parser.ofText text arguments caseSensitive) with
  | .ok predicate stop => some (predicate, stop.nextArgument)
  | .error _ _ => none

theorem parse_eq_ok_iff {text : String} {arguments : List Value} {caseSensitive : Bool}
    {predicate : Predicate} :
    parse text arguments caseSensitive = .ok predicate ↔
      ∃ count, reading? Parser.nextArgument text arguments caseSensitive = some (predicate, count) := by
  unfold parse reading?
  cases Parse.wholePredicate Parser.nextArgument (Parser.ofText text arguments caseSensitive) with
  | ok found stop => simp
  | error error stop => simp

section

variable {which other : Parser → Nat} (agree : ∀ parser longer : Parser,
  longer.scanner.passed = parser.scanner.passed → longer.nextArgument = parser.nextArgument →
  parser.lexis.placeholders = parser.nextArgument + 1 → other longer = which parser)
  {text : String} {arguments : List Value} {caseSensitive : Bool} {predicate : Predicate}

include agree

theorem agree_nil (parser longer : Parser)
    (passed : longer.scanner.passed = parser.scanner.passed ++ ([] : List Char).reverse) :
    longer.nextArgument = parser.nextArgument →
      parser.lexis.placeholders = parser.nextArgument + 1 → other longer = which parser :=
  agree parser longer (by simpa using passed)

theorem wholePredicate_follows (room : Nat) :
    (Setting.ending [] which other (agree_nil agree)).Follows 0 (At room 0) (Parse.wholePredicate which)
      (Parse.wholePredicate other) fun _ parser => parser.At room 0 ∧ parser.scanner.ahead = [] :=
  @Setting.wholePredicate (Setting.ending [] which other (agree_nil agree)) room rfl trivial

theorem placeholders_at_end {stop : Parser}
    (outcome : Parse.wholePredicate which (Parser.ofText text arguments caseSensitive) =
      .ok predicate stop) :
    stop.lexis.placeholders = placeholderCount text ∧ placeholderCount text ≤ stop.nextArgument := by
  have reads := (wholePredicate_follows agree _).reads _
    (Parser.at_ofText text arguments caseSensitive)
  rw [outcome] at reads
  obtain ⟨advance, place, ends⟩ := reads
  have whole : stop.scanner.text = text.toList := advance.text
  have last := Parser.lexis_at_end place.outside ends
  rw [whole] at last
  have taken := advance.taken
  have same : stop.lexis.placeholders = placeholderCount text := (congrArg Lexis.placeholders last).symm
  refine ⟨same, ?_⟩
  have none : (Parser.ofText text arguments caseSensitive).lexis.placeholders = 0 := rfl
  have untaken : (Parser.ofText text arguments caseSensitive).nextArgument = 0 := rfl
  omega

theorem placeholderCount_le {count : Nat}
    (reads : reading? which text arguments caseSensitive = some (predicate, count)) :
    placeholderCount text ≤ count := by
  unfold reading? at reads
  split at reads
  next found stop outcome =>
    obtain ⟨rfl, rfl⟩ := Prod.mk.inj (Option.some.inj reads)
    exact (placeholders_at_end agree outcome).2
  next => cases reads

/-- Where no placeholder is read twice, its place and its turn give the same number. -/
theorem reading?_of_agree
    (reads : reading? which text arguments caseSensitive =
      some (predicate, placeholderCount text)) :
    reading? other text arguments caseSensitive = some (predicate, placeholderCount text) := by
  have mirrors := (wholePredicate_follows agree _).mirrors _ _
    (Parser.at_ofText text arguments caseSensitive)
    (Setting.related_ofText rfl rfl text arguments caseSensitive)
  unfold reading? at reads ⊢
  cases outcome : Parse.wholePredicate which (Parser.ofText text arguments caseSensitive) with
  | error error stop => simp [outcome] at reads
  | ok found stop =>
      simp only [outcome, Option.some.injEq, Prod.mk.injEq] at reads
      obtain ⟨rfl, taken⟩ := reads
      have last := (placeholders_at_end agree outcome).1
      rw [outcome] at mirrors
      obtain ⟨longerStop, same, related⟩ := mirrors (Nat.le_of_eq (taken.trans last.symm))
      simp only [same, id, Option.some.injEq, Prod.mk.injEq, true_and]
      exact related.taken.trans taken

end

theorem turn_of_place (parser longer : Parser)
    (_ : longer.scanner.passed = parser.scanner.passed)
    (taken : longer.nextArgument = parser.nextArgument)
    (counted : parser.lexis.placeholders = parser.nextArgument + 1) :
    longer.nextArgument = parser.placeInText := by
  unfold Parser.placeInText
  omega

theorem place_of_turn (parser longer : Parser)
    (passed : longer.scanner.passed = parser.scanner.passed)
    (_ : longer.nextArgument = parser.nextArgument)
    (counted : parser.lexis.placeholders = parser.nextArgument + 1) :
    longer.placeInText = parser.nextArgument := by
  have same : longer.lexis = parser.lexis := congrArg Lexis.after passed
  unfold Parser.placeInText
  rw [same]
  omega

variable {text : String} {arguments : List Value} {caseSensitive : Bool} {predicate : Predicate}

theorem count_le_length {count : Nat}
    (reads : reading? Parser.nextArgument text arguments caseSensitive = some (predicate, count)) :
    count ≤ arguments.length := by
  have limits := (wholePredicate_follows place_of_turn _).limits _
    (Parser.at_ofText text arguments caseSensitive)
  unfold reading? at reads
  split at reads
  next found stop outcome =>
    rw [outcome] at limits
    obtain ⟨-, rfl⟩ := Prod.mk.inj (Option.some.inj reads)
    have bound := limits rfl
    have untaken : (Parser.ofText text arguments caseSensitive).nextArgument = 0 := rfl
    have given : (Parser.ofText text arguments caseSensitive).arguments = arguments := rfl
    rw [untaken, given] at bound
    omega
  next => cases reads

/-- A text is read with its placeholders by their places exactly where none of them is read twice;
then the arguments it calls for are enough. -/
theorem placeholders_take_places_iff (text : String) (arguments : List Value)
    (caseSensitive : Bool) (predicate : Predicate) :
    (reading? Parser.nextArgument text arguments caseSensitive =
        some (predicate, placeholderCount text) ↔
      reading? Parser.placeInText text arguments caseSensitive =
        some (predicate, placeholderCount text)) ∧
    (arguments.length = placeholderCount text →
      (parse text arguments caseSensitive = .ok predicate ↔
        reading? Parser.placeInText text arguments caseSensitive =
          some (predicate, placeholderCount text))) := by
  have turns : reading? Parser.nextArgument text arguments caseSensitive =
        some (predicate, placeholderCount text) ↔
      reading? Parser.placeInText text arguments caseSensitive =
        some (predicate, placeholderCount text) :=
    ⟨reading?_of_agree place_of_turn, reading?_of_agree turn_of_place⟩
  refine ⟨turns, fun enough => ?_⟩
  rw [← turns, parse_eq_ok_iff]
  constructor
  · rintro ⟨count, reads⟩
    have least := placeholderCount_le place_of_turn reads
    have most := count_le_length reads
    obtain rfl : count = placeholderCount text := by omega
    exact reads
  · exact fun reads => ⟨_, reads⟩

/-- By its place the placeholder takes the only argument; in its turn it is read twice and takes none
the second time. -/
theorem parse_rejects_placeholder_read_twice :
    [Value.int 5].length = placeholderCount "(%d + 1) > 2" ∧
      (∃ predicate count, reading? Parser.placeInText "(%d + 1) > 2" [.int 5] false =
        some (predicate, count)) ∧
      ∀ predicate, parse "(%d + 1) > 2" [.int 5] false ≠ .ok predicate := by
  have counted : placeholderCount "(%d + 1) > 2" = 1 := by decide +kernel
  have placed : (reading? Parser.placeInText "(%d + 1) > 2" [.int 5] false).isSome = true := by
    decide +kernel
  have turned : (reading? Parser.nextArgument "(%d + 1) > 2" [.int 5] false).isNone = true := by
    decide +kernel
  refine ⟨counted.symm, ?_, fun predicate accepted => ?_⟩
  · obtain ⟨⟨predicate, count⟩, reads⟩ := Option.isSome_iff_exists.mp placed
    exact ⟨predicate, count, reads⟩
  · obtain ⟨count, reads⟩ := parse_eq_ok_iff.mp accepted
    rw [reads] at turned
    cases turned

end Predicate

end PredicateRules
