import PredicateRules.Proofs.Reading.Braces

/-!
A text of rulesets in the body of a ruleset that always holds. Each item of a body is taken for a
declaration before it is taken for a ruleset, and is not read again when the body cannot go on: so a
text keeps its meaning exactly where none of its rulesets begins as a declaration does.
-/

namespace PredicateRules

open PredicateRules.Parser

namespace Parse

variable {caseSensitive : Bool} {room : Nat} {place : Parser}

theorem parseAll_eq_ok {text : String} {rules : List PlacedRule} :
    PlacedRule.parseAll text caseSensitive = .ok rules ↔
      ∃ found stop, rulesetsFrom caseSensitive [] (Parser.ofModel text caseSensitive) =
        .ok found stop ∧ stop.scanner.ahead = [] ∧ rules = found.reverse.flatten := by
  have unfolded : placedRules (Parser.ofText text [] caseSensitive) = (do
      let found ← rulesetsFrom caseSensitive []
      if ← scan Scanner.atEnd then return found.reverse.flatten
      else throw (.unparsed (← scanner).line) : Parse (List PlacedRule))
        (Parser.ofModel text caseSensitive) := rfl
  unfold PlacedRule.parseAll
  rw [unfolded]
  simp only [bind, EStateM.bind]
  cases read : rulesetsFrom caseSensitive [] (Parser.ofModel text caseSensitive) with
  | error error stop => simp
  | ok found stop =>
      have skips := (rulesetsFrom_reads (at_ofModel text caseSensitive) read).2.skips
      simp only [scan, Scanner.atEnd_eq skips]
      cases ends : stop.scanner.ahead with
      | nil =>
          constructor
          · exact fun same => ⟨found, stop, rfl, ends, (Except.ok.inj same).symm⟩
          · rintro ⟨_, _, same, _, rfl⟩
            obtain ⟨rfl, rfl⟩ := EStateM.Result.ok.inj same
            rfl
      | cons character ahead =>
          constructor
          · intro same
            cases same
          · rintro ⟨_, _, same, none, _⟩
            obtain ⟨rfl, rfl⟩ := EStateM.Result.ok.inj same
            rw [ends] at none
            cases none

theorem ruleset_fails_at_end (there : place.At room 0) (ends : place.scanner.ahead = []) :
    ∃ error stop, ruleset caseSensitive [] place = .error error stop := by
  have last : place.At 1 0 := ⟨there.skips, by rw [ends]; exact Nat.zero_lt_one, there.outside,
    there.depth⟩
  have reads := ruleset_reads caseSensitive last
  cases outcome : ruleset caseSensitive [] place with
  | error error stop => exact ⟨error, stop, rfl⟩
  | ok rules stop =>
      rw [outcome] at reads
      exact absurd reads.2.room (Nat.not_lt_zero _)

theorem parseAll_ruleset {text : String} {rules : List PlacedRule} {stop : Parser}
    (read : ruleset caseSensitive [] (Parser.ofModel text caseSensitive) = .ok rules stop)
    (ends : stop.scanner.ahead = []) : PlacedRule.parseAll text caseSensitive = .ok rules := by
  have there := at_ofModel text caseSensitive
  have reads := ruleset_reads caseSensitive there
  rw [read] at reads
  obtain ⟨error, after, failed⟩ := ruleset_fails_at_end reads.2 ends
  refine parseAll_eq_ok.mpr ⟨[rules], after.back stop, ?_, ends, (List.append_nil rules).symm⟩
  refine (rulesetsFrom_eq there []).trans ?_
  rw [read]
  refine (rulesetsFrom_eq reads.2 [rules]).trans ?_
  rw [failed]

theorem closed_of_accepted {text : String} {found : List (List PlacedRule)} {stop : Parser}
    (read : rulesetsFrom caseSensitive [] (Parser.ofModel text caseSensitive) = .ok found stop)
    (ends : stop.scanner.ahead = []) :
    (Lexis.after text.toList.reverse).quote = none ∧
      (Lexis.after text.toList.reverse).depth = 0 := by
  obtain ⟨advance, there⟩ := rulesetsFrom_reads (at_ofModel text caseSensitive) read
  have whole : stop.scanner.text = text.toList := advance.text
  have last := Parser.lexis_at_end there.outside ends
  rw [whole] at last
  exact ⟨last ▸ there.outside, last ▸ there.depth⟩

theorem rulesForEach_true (caseSensitive : Bool) :
    rulesForEach caseSensitive [] [["TRUEPREDICATE"]] = .ok [] := by
  have reads : (Predicate.parse (specifierText ["TRUEPREDICATE"]) [] caseSensitive).toOption.isSome =
      true := by
    cases caseSensitive <;> decide +kernel
  obtain ⟨specifier, parsed⟩ := Option.isSome_iff_exists.mp reads
  simp only [rulesForEach, ok_of_toOption parsed, bind, Except.bind, rulesFor]
  rfl

theorem fuel_suffices {text : String} {inner : Parser}
    (related : Setting.braced.Related (Parser.ofModel text caseSensitive) inner) :
    (Parser.ofModel text caseSensitive).scanner.ahead.length + 1 ≤ (bracedText text).toList.length ∧
      (Parser.ofModel text caseSensitive).scanner.ahead.length + 1 ≤
        inner.scanner.remaining.length + 1 := by
  have short : (Parser.ofModel text caseSensitive).scanner.ahead.length ≤ text.toList.length :=
    Parser.ahead_length (Parser.ofModel text caseSensitive)
  have long : text.toList.length < (bracedText text).toList.length := by
    simp [toList_bracedText]
    omega
  have enough := Nat.le_trans related.ahead_length (Parser.ahead_length inner)
  exact ⟨Nat.lt_of_le_of_lt short long, Nat.succ_le_succ enough⟩

/-- Where no ruleset begins as a declaration, a text denotes in braces what it denotes by itself. -/
theorem parseAll_underTrue {text : String} {rules : List PlacedRule}
    (accepted : PlacedRule.parseAll text caseSensitive = .ok rules)
    (apart : ∀ start, RulesetStart caseSensitive (Parser.ofModel text caseSensitive) start →
      ∃ error after, declaration start = .error error after) :
    PlacedRule.parseAll (bracedText text) caseSensitive =
      .ok (rules.map (PlacedRule.underTrue caseSensitive)) := by
  obtain ⟨found, stop, read, ends, rfl⟩ := parseAll_eq_ok.mp accepted
  have there := at_ofModel text caseSensitive
  obtain ⟨inner, related, same⟩ := ruleset_true text caseSensitive (closed_of_accepted read ends)
  obtain ⟨deep, enough⟩ := fuel_suffices related
  obtain ⟨last, body, faces⟩ := bodyUnderTrue_rulesets deep enough there rfl related apart read ends
  have single : "\x7d".toList = ['\x7d'] := by decide
  obtain ⟨closed, remaining⟩ : expect "\x7d" "ruleset" last = _ ∧ _ := expect_found single faces
  have nested : (found.map (List.map (PlacedRule.underTrue caseSensitive))).reverse.flatten =
      found.reverse.flatten.map (PlacedRule.underTrue caseSensitive) := by
    rw [List.map_flatten, List.map_reverse]
  rw [← nested]
  have finished : (last.moved
      (last.scanner.skipIgnored.forward "\x7d".toList.length)).scanner.ahead = [] :=
    congrArg (List.dropWhile CharClass.skipped) remaining
  refine parseAll_ruleset ?_ finished
  rw [same]
  rw [List.map_nil] at body
  simp only [bind, EStateM.bind, body, closed, List.reverse_nil, rulesForEach_true]
  rfl

theorem exists_of_rulesForEach {path : List String} {declarations : List Declaration}
    {rules : List PlacedRule} (declared : declarations ≠ [])
    (made : rulesForEach caseSensitive declarations [path] = .ok rules) :
    ∃ placed ∈ rules, placed.path = path := by
  obtain ⟨specifier, own, others, _, first, _, rfl⟩ := rulesForEach_cons_ok made
  obtain ⟨declaration, declarations, rfl⟩ := List.exists_cons_of_ne_nil declared
  rw [rulesFor_eq_ok first]
  exact ⟨ruleUnder path specifier declaration, List.mem_append_left others List.mem_cons_self, rfl⟩

theorem rulesetsFrom_suffix (found : List (List PlacedRule)) :
    Yields (rulesetsFrom caseSensitive found) fun last => found <:+ last := by
  unfold rulesetsFrom repeatWhile
  refine Yields.recurse (fun between => found <:+ between) (fun again continues between holds => ?_)
    (List.suffix_refl found)
  have step : Yields (do return (← tried (ruleset caseSensitive [])).map (· :: between)) fun next =>
      ∀ others ∈ next, found <:+ others := by
    refine Yields.bind (Yields.anything _) fun rules _ => Yields.pure ?_
    intro others member
    obtain ⟨first, _, rfl⟩ := Option.map_eq_some_iff.mp (Option.mem_def.mp member)
    exact holds.trans (List.suffix_cons first between)
  refine Yields.bind step fun next good => ?_
  cases next with
  | some others => exact continues others (good others rfl)
  | none => exact Yields.pure holds

theorem ruleset_declares {text : String} {start : Parser}
    (begins : RulesetStart caseSensitive (Parser.ofModel text caseSensitive) start)
    {declared : Declaration} {after : Parser} (read : declaration start = .ok declared after)
    (closed : (Lexis.after text.toList.reverse).quote = none ∧
      (Lexis.after text.toList.reverse).depth = 0) {rules : List PlacedRule} {stop : Parser}
    (outcome : ruleset caseSensitive [] (Parser.ofModel (bracedText text) caseSensitive) =
      .ok rules stop) :
    ∃ placed ∈ rules, placed.path = ["TRUEPREDICATE"] := by
  obtain ⟨inner, related, same⟩ := ruleset_true text caseSensitive closed
  obtain ⟨deep, enough⟩ := fuel_suffices related
  rw [same] at outcome
  simp only [bind, EStateM.bind] at outcome
  cases body : bodyUnderTrue caseSensitive (bracedText text).toList.length
      (inner.scanner.remaining.length + 1) ⟨[], []⟩ inner with
  | error error last => simp [body] at outcome
  | ok held last =>
      have declares := bodyUnderTrue_of_start begins read deep enough (at_ofModel text caseSensitive)
        rfl related body
      simp only [body] at outcome
      cases brace : expect "\x7d" "ruleset" last with
      | error error final => simp [brace] at outcome
      | ok _ final =>
          simp only [brace] at outcome
          cases made : rulesForEach caseSensitive held.declarations.reverse [["TRUEPREDICATE"]] with
          | error cause =>
              rw [made] at outcome
              cases outcome
          | ok own =>
              rw [made] at outcome
              cases outcome
              have some : held.declarations.reverse ≠ [] :=
                fun none => declares (List.reverse_eq_nil_iff.mp none)
              obtain ⟨placed, member, path⟩ := exists_of_rulesForEach some made
              exact ⟨placed, List.mem_append_left _ member, path⟩

/-- Where a ruleset begins as a declaration, something is declared under the constant itself. -/
theorem declared_of_start {text : String} {start : Parser}
    (begins : RulesetStart caseSensitive (Parser.ofModel text caseSensitive) start)
    {declared : Declaration} {after : Parser} (read : declaration start = .ok declared after)
    (closed : (Lexis.after text.toList.reverse).quote = none ∧
      (Lexis.after text.toList.reverse).depth = 0) {rules : List PlacedRule}
    (accepted : PlacedRule.parseAll (bracedText text) caseSensitive = .ok rules) :
    ∃ placed ∈ rules, placed.path = ["TRUEPREDICATE"] := by
  obtain ⟨found, stop, readAll, ends, rfl⟩ := parseAll_eq_ok.mp accepted
  have there := at_ofModel (bracedText text) caseSensitive
  rw [rulesetsFrom_eq there] at readAll
  cases outcome : ruleset caseSensitive [] (Parser.ofModel (bracedText text) caseSensitive) with
  | error error next =>
      rw [outcome] at readAll
      cases readAll
      have none : (bracedText text).toList.dropWhile CharClass.skipped = [] := ends
      rw [toList_bracedText] at none
      cases none
  | ok first next =>
      rw [outcome] at readAll
      obtain ⟨placed, member, path⟩ := ruleset_declares begins read closed outcome
      have kept := (rulesetsFrom_suffix [first] next found stop readAll).subset
        (List.mem_singleton.mpr rfl)
      exact ⟨placed, List.mem_flatten.mpr ⟨first, List.mem_reverse.mpr kept, member⟩, path⟩

end Parse

/-- A text denotes in braces what it denotes by itself, exactly where none of its rulesets can be taken
for a declaration. -/
theorem PlacedRule.parseAll_bracedText_iff {text : String} {caseSensitive : Bool}
    {rules : List PlacedRule} (accepted : PlacedRule.parseAll text caseSensitive = .ok rules) :
    PlacedRule.parseAll (Parse.bracedText text) caseSensitive =
        .ok (rules.map (PlacedRule.underTrue caseSensitive)) ↔
      ∀ start, Parse.RulesetStart caseSensitive (Parser.ofModel text caseSensitive) start →
        ∃ error after, Parse.declaration start = .error error after := by
  constructor
  · intro nested start begins
    cases read : Parse.declaration start with
    | error error after => exact ⟨error, after, rfl⟩
    | ok declared after =>
        obtain ⟨found, stop, readAll, ends, _⟩ := Parse.parseAll_eq_ok.mp accepted
        obtain ⟨placed, member, path⟩ := Parse.declared_of_start begins read
          (Parse.closed_of_accepted readAll ends) nested
        -- What is declared there stands under nothing else, but every rule of the text does.
        obtain ⟨inner, listed, rfl⟩ := List.mem_map.mp member
        have none : inner.path = [] := (List.cons.inj path).2
        exact absurd none (PlacedRule.parseAll_placed accepted inner listed).nonempty
  · exact Parse.parseAll_underTrue accepted

/-- A ruleset that begins with a key path. -/
theorem PlacedRule.parseAll_bracedText_keyPath :
    ∃ rules, PlacedRule.parseAll "items.count > 0 \x7b k: 1 \x7d" false = .ok rules ∧
      (PlacedRule.parseAll (Parse.bracedText "items.count > 0 \x7b k: 1 \x7d") false =
          .ok (rules.map (PlacedRule.underTrue false)) ↔
        ∀ start, Parse.RulesetStart false
            (Parser.ofModel "items.count > 0 \x7b k: 1 \x7d" false) start →
          ∃ error after, Parse.declaration start = .error error after) := by
  have read : (PlacedRule.parseAll "items.count > 0 \x7b k: 1 \x7d" false).toOption.isSome = true := by
    decide +kernel
  obtain ⟨rules, accepted⟩ := Option.isSome_iff_exists.mp read
  have accepted := Parse.ok_of_toOption accepted
  exact ⟨rules, accepted, PlacedRule.parseAll_bracedText_iff accepted⟩

/-- A ruleset that begins with a call is taken for a declaration of a key, and the text is rejected. -/
theorem PlacedRule.parseAll_bracedText_call :
    (∃ rules, PlacedRule.parseAll "count:(items) > 0 \x7b k: 1 \x7d" false = .ok rules) ∧
      ∀ rules, PlacedRule.parseAll "TRUEPREDICATE \x7b count:(items) > 0 \x7b k: 1 \x7d \x7d" false ≠
        .ok rules := by
  have read : (PlacedRule.parseAll "count:(items) > 0 \x7b k: 1 \x7d" false).toOption.isSome =
      true := by
    decide +kernel
  have rejected : (PlacedRule.parseAll "TRUEPREDICATE \x7b count:(items) > 0 \x7b k: 1 \x7d \x7d"
      false).toOption.isNone = true := by
    decide +kernel
  obtain ⟨rules, accepted⟩ := Option.isSome_iff_exists.mp read
  refine ⟨⟨rules, Parse.ok_of_toOption accepted⟩, fun others nested => ?_⟩
  rw [nested] at rejected
  cases rejected

end PredicateRules
