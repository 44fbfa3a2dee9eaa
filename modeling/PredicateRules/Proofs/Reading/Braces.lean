import PredicateRules.Proofs.Reading.Chain
import PredicateRules.Proofs.Reading.Ruleset

namespace PredicateRules

open PredicateRules.Parser

def PlacedRule.underTrue (caseSensitive : Bool) (placed : PlacedRule) : PlacedRule :=
  let path := "TRUEPREDICATE" :: placed.path
  let specifier :=
    (Predicate.parse (specifierText path) [] caseSensitive).toOption.getD placed.rule.specifier
  { path := path
    rule := { placed.rule with
      specifier := specifier
      priority := Rule.priorityOf specifier placed.rule.weight } }

namespace Parse

variable {caseSensitive : Bool}

theorem specifierText_underTrue {path : List String} (some : path ≠ []) :
    specifierText ("TRUEPREDICATE" :: path) = "TRUEPREDICATE AND " ++ specifierText path := by
  obtain ⟨text, path, rfl⟩ := List.exists_cons_of_ne_nil some
  exact String.intercalate_cons_cons

theorem toOption_bind {α β : Type} (first : Except ParseError α) (next : α → Except ParseError β) :
    (first >>= next).toOption = first.toOption.bind fun result => (next result).toOption := by
  cases first <;> rfl

theorem parse_underTrue (caseSensitive : Bool) {path : List String} (some : path ≠ []) :
    (Predicate.parse (specifierText ("TRUEPREDICATE" :: path)) [] caseSensitive).toOption.isSome =
      (Predicate.parse (specifierText path) [] caseSensitive).toOption.isSome := by
  rw [Chain.toOption_parse, Chain.toOption_parse, specifierText_underTrue some,
    Setting.truePredicate_and]
  simp only [Option.isSome_map]

theorem rulesFor_underTrue {path : List String} (specifier : Predicate) {nested : Predicate}
    (reads : Predicate.parse (specifierText ("TRUEPREDICATE" :: path)) [] caseSensitive = .ok nested)
    (declarations : List Declaration) :
    rulesFor ("TRUEPREDICATE" :: path) nested declarations =
      (rulesFor path specifier declarations).map (List.map (PlacedRule.underTrue caseSensitive)) := by
  induction declarations with
  | nil => rfl
  | cons declaration declarations ih =>
      simp only [rulesFor, Rule.make]
      cases declaration.key.isEmpty with
      | true => rfl
      | false =>
          simp only [Bool.false_eq_true, if_false, ih]
          cases rulesFor path specifier declarations with
          | error cause => rfl
          | ok rules => simp [Except.map, PlacedRule.underTrue, reads, Except.toOption]

theorem rulesForEach_underTrue (declarations : List Declaration) {paths : List (List String)}
    (nonempty : ∀ path ∈ paths, path ≠ []) :
    (rulesForEach caseSensitive declarations (paths.map ("TRUEPREDICATE" :: ·))).toOption =
      (rulesForEach caseSensitive declarations paths).toOption.map
        (List.map (PlacedRule.underTrue caseSensitive)) := by
  induction paths with
  | nil => rfl
  | cons path paths ih =>
      have same := parse_underTrue caseSensitive (nonempty path (by simp))
      have others := ih fun path member => nonempty path (by simp [member])
      simp only [rulesForEach, List.map_cons, toOption_bind, others]
      cases parsed : (Predicate.parse (specifierText path) [] caseSensitive).toOption with
      | none =>
          rw [parsed] at same
          have none := Option.isNone_iff_eq_none.mp (Option.isSome_eq_false_iff.mp same)
          rw [none]
          rfl
      | some specifier =>
          rw [parsed] at same
          obtain ⟨nested, parsedTrue⟩ := Option.isSome_iff_exists.mp same
          simp only [parsedTrue, Option.bind_some,
            rulesFor_underTrue specifier (ok_of_toOption parsedTrue)]
          cases rulesFor path specifier declarations with
          | error cause => rfl
          | ok rules =>
              cases rulesForEach caseSensitive declarations paths with
              | error cause => rfl
              | ok further => simp [Except.map, Except.toOption, pure, Except.pure]

def pathsUnderTrue (parents : List (List String)) : List (List String) :=
  if parents.isEmpty then [["TRUEPREDICATE"]] else parents.map ("TRUEPREDICATE" :: ·)

theorem pathsUnderTrue_some {parents : List (List String)} (some : parents ≠ []) :
    pathsUnderTrue parents = parents.map ("TRUEPREDICATE" :: ·) :=
  if_neg (by simpa using some)

theorem joinedPaths_underTrue (parents : List (List String)) {own : List String}
    (some : own ≠ []) :
    joinedPaths (pathsUnderTrue parents) own = pathsUnderTrue (joinedPaths parents own) := by
  rw [pathsUnderTrue_some (joinedPaths_some parents some)]
  cases parents with
  | nil => simp [joinedPaths, pathsUnderTrue]
  | cons parent parents =>
      simp [joinedPaths, pathsUnderTrue, List.map_flatMap, List.flatMap_map, Function.comp_def]

end Parse

def Relocation.underTrue (caseSensitive : Bool) : Relocation caseSensitive where
  paths := Parse.pathsUnderTrue
  rule := PlacedRule.underTrue caseSensitive
  joined parents _ := Parse.joinedPaths_underTrue parents
  made declarations _ some nonempty := by
    rw [Parse.pathsUnderTrue_some some]
    exact Parse.rulesForEach_underTrue declarations nonempty

/-- A text in braces behind a constant. -/
def Setting.braced : Setting where
  front := "TRUEPREDICATE \x7b ".toList
  back := " \x7d".toList
  which := Parser.nextArgument
  other := Parser.nextArgument
  exact := True
  spaced _ member := (Option.some.inj member).symm
  silent := by
    decide
  unnumbered := rfl
  unselected := by
    decide
  unjoined _ := by
    decide
  unnamed _ character member := by
    obtain rfl : '\x7d' = character := Option.some.inj member
    decide
  agree _ _ _ taken _ := taken

def Parser.ofModel (text : String) (caseSensitive : Bool) : Parser :=
  { Parser.ofText text [] caseSensitive with trackLines := true }

namespace Parse

variable {caseSensitive : Bool} {room : Nat} {place : Parser}

/-- Where the next ruleset begins, after any number of them. -/
inductive RulesetStart (caseSensitive : Bool) : Parser → Parser → Prop
  | here (place : Parser) : RulesetStart caseSensitive place place
  | next {place after last : Parser} {rules : List PlacedRule}
      (read : ruleset caseSensitive [] place = .ok rules after)
      (further : RulesetStart caseSensitive after last) : RulesetStart caseSensitive place last

theorem ruleset_braced (caseSensitive : Bool) {fuel : Nat} (enough : room ≤ fuel) :
    Setting.braced.FollowsAs (List.map (PlacedRule.underTrue caseSensitive)) 0 (At room 0)
      (ruleset caseSensitive [])
      (recurseTo (rulesetWith caseSensitive) fuel [["TRUEPREDICATE"]])
      fun _ => At (room - 1) 0 :=
  Setting.ruleset rfl rfl trivial (Relocation.underTrue caseSensitive) enough []

theorem ruleset_reads (caseSensitive : Bool) (there : place.At room 0) :
    Setting.Reads place (fun _ => At (room - 1) 0) (ruleset caseSensitive [] place) :=
  (ruleset_braced caseSensitive (Nat.le_refl room)).reads place there

theorem declaration_braced : Setting.braced.Follows 0 (At (room + 1) 0) declaration declaration
    fun _ => At room 0 :=
  Setting.declaration rfl rfl

theorem rulesetsFrom_eq (there : place.At room 0) (found : List (List PlacedRule)) :
    rulesetsFrom caseSensitive found place =
      match ruleset caseSensitive [] place with
      | .ok rules after => rulesetsFrom caseSensitive (rules :: found) after
      | .error _ stop => .ok found (stop.back place) := by
  refine (repeatWhile_eq (fun room found parser there next after outcome => ?_) found there).trans ?_
  · have reads := ruleset_reads caseSensitive there
    simp only [bind, EStateM.bind, Setting.tried_eq] at outcome
    cases read : ruleset caseSensitive [] parser with
    | ok rules stop =>
        rw [read] at reads
        simp only [read] at outcome
        cases outcome
        exact reads.2
    | error error stop =>
        simp only [read] at outcome
        cases outcome
  · simp only [bind, EStateM.bind, Setting.tried_eq]
    cases ruleset caseSensitive [] place with
    | ok rules after => rfl
    | error error stop => rfl

theorem rulesetsFrom_reads {found last : List (List PlacedRule)} {stop : Parser}
    (there : place.At room 0) (read : rulesetsFrom caseSensitive found place = .ok last stop) :
    Advance place stop ∧ stop.At room 0 := by
  induction room generalizing place found with
  | zero => exact absurd there.room (Nat.not_lt_zero _)
  | succ room ih =>
      have reads := ruleset_reads caseSensitive there
      rw [rulesetsFrom_eq there] at read
      cases outcome : ruleset caseSensitive [] place with
      | ok rules after =>
          rw [outcome] at read reads
          obtain ⟨advance, last⟩ := ih reads.2 read
          exact ⟨reads.1.trans advance, last.weaken (Nat.le_succ room)⟩
      | error error after =>
          rw [outcome] at read reads
          cases read
          exact ⟨Kept.advance_back reads, there.back reads⟩

/-- Reads what stands under the constant. -/
def bodyUnderTrue (caseSensitive : Bool) (nesting fuel : Nat) : Body → Parse Body :=
  recurseTo (bodyStep (recurseTo (rulesetWith caseSensitive) nesting [["TRUEPREDICATE"]])) fuel

variable {nesting fuel : Nat} {longer : Parser}

theorem bodyUnderTrue_of_declaration {declared : Declaration} {after : Parser}
    (read : declaration longer = .ok declared after) (body : Body) :
    bodyUnderTrue caseSensitive nesting (fuel + 1) body longer = (do
      let body := { body with declarations := declared :: body.declarations }
      if ← literal ";" then bodyUnderTrue caseSensitive nesting fuel body else return body) after := by
  simp only [bodyUnderTrue, recurseTo, bodyStep, bind, EStateM.bind, Setting.tried_eq, read]

theorem bodyUnderTrue_of_ruleset {error : ParseError} {stop : Parser}
    (failed : declaration longer = .error error stop) (body : Body) :
    bodyUnderTrue caseSensitive nesting (fuel + 1) body longer =
      match recurseTo (rulesetWith caseSensitive) nesting [["TRUEPREDICATE"]] (stop.back longer) with
      | .ok rules after => bodyUnderTrue caseSensitive nesting fuel
          { body with nested := rules :: body.nested } after
      | .error _ last => .ok body (last.back (stop.back longer)) := by
  simp only [bodyUnderTrue, recurseTo, bodyStep, bind, EStateM.bind, Setting.tried_eq, failed]
  cases recurseTo (rulesetWith caseSensitive) nesting [["TRUEPREDICATE"]] (stop.back longer) with
  | ok rules after => rfl
  | error error last => rfl

/-- Where none of them is taken for a declaration, the rulesets are read as they are by themselves. -/
theorem bodyUnderTrue_rulesets {found last : List (List PlacedRule)} {stop : Parser}
    (deep : room ≤ nesting) (enough : room ≤ fuel) (there : place.At room 0)
    (none : place.arguments = []) (related : Setting.braced.Related place longer)
    (apart : ∀ start, RulesetStart caseSensitive place start →
      ∃ error after, declaration start = .error error after)
    (read : rulesetsFrom caseSensitive found place = .ok last stop)
    (ends : stop.scanner.ahead = []) :
    ∃ longerStop, bodyUnderTrue caseSensitive nesting fuel
        ⟨[], found.map (List.map (PlacedRule.underTrue caseSensitive))⟩ longer =
        .ok ⟨[], last.map (List.map (PlacedRule.underTrue caseSensitive))⟩ longerStop ∧
      longerStop.Faces ['\x7d'] := by
  induction room generalizing fuel place longer found with
  | zero => exact absurd there.room (Nat.not_lt_zero _)
  | succ room ih =>
      obtain ⟨fuel, rfl⟩ : ∃ rest, fuel = rest + 1 := ⟨fuel - 1, by omega⟩
      obtain ⟨error, after, failed⟩ := apart place (.here place)
      obtain ⟨cause, longerAfter, failedLonger, spent⟩ :=
        declaration_braced.failed rfl none there related (.inl trivial) failed
      have again := related.again spent
      have reads := ruleset_reads caseSensitive there
      have nested := ruleset_braced caseSensitive deep
      rw [rulesetsFrom_eq there] at read
      rw [bodyUnderTrue_of_ruleset failedLonger]
      cases outcome : ruleset caseSensitive [] place with
      | ok rules next =>
          rw [outcome] at read reads
          obtain ⟨longerNext, same, relatedNext⟩ := nested.found rfl none there again outcome
          rw [same]
          exact ih (by omega) (by omega) reads.2 (reads.1.arguments.trans none) relatedNext
            (fun start further => apart start (.next outcome further)) read
      | error error next =>
          rw [outcome] at read reads
          cases read
          obtain ⟨cause, longerNext, same, spentNext⟩ :=
            nested.failed rfl none there again (.inl trivial) outcome
          have final := again.again spentNext
          rw [same]
          refine ⟨_, rfl, final.skips, ?_⟩
          exact (final.ahead_cases.resolve_right fun more => more.1 ends).2

theorem bodyUnderTrue_declares {body : Body} (declared : body.declarations ≠ []) :
    Yields (bodyUnderTrue caseSensitive nesting fuel body) fun body => body.declarations ≠ [] := by
  refine Yields.recurseTo (fun body : Body => body.declarations ≠ [])
    (fun again continues body declared => ?_) fuel declared
  refine Yields.bind (Yields.anything _) fun declaration _ => ?_
  cases declaration with
  | some declaration =>
      refine Yields.bind (Yields.anything _) fun separated _ => ?_
      cases separated with
      | true => exact continues _ (List.cons_ne_nil _ _)
      | false => exact Yields.pure (List.cons_ne_nil _ _)
  | none =>
      refine Yields.bind (Yields.anything _) fun rules _ => ?_
      cases rules with
      | some rules => exact continues _ declared
      | none => exact Yields.pure declared

theorem bodyUnderTrue_misreads {declared : Declaration} {after : Parser} (there : place.At room 0)
    (none : place.arguments = []) (related : Setting.braced.Related place longer)
    (read : declaration place = .ok declared after) {body last : Body} {stop : Parser}
    (outcome : bodyUnderTrue caseSensitive nesting (fuel + 1) body longer = .ok last stop) :
    last.declarations ≠ [] := by
  obtain ⟨longerAfter, same, _⟩ :=
    declaration_braced.found rfl none (there.weaken (Nat.le_succ room)) related read
  rw [bodyUnderTrue_of_declaration same] at outcome
  have declares : ∀ body : Body, body.declarations ≠ [] → Yields (do
      if ← literal ";" then bodyUnderTrue caseSensitive nesting fuel body else return body)
      fun last => last.declarations ≠ [] := by
    intro body some
    refine Yields.bind (Yields.anything _) fun separated _ => ?_
    cases separated with
    | true => exact bodyUnderTrue_declares some
    | false => exact Yields.pure some
  exact declares _ (List.cons_ne_nil declared body.declarations) longerAfter last stop outcome

/-- Where one of them can be taken for a declaration, it is. -/
theorem bodyUnderTrue_of_start {start : Parser} (begins : RulesetStart caseSensitive place start)
    {declared : Declaration} {after : Parser} (read : declaration start = .ok declared after)
    (deep : room ≤ nesting) (enough : room ≤ fuel) (there : place.At room 0)
    (none : place.arguments = []) (related : Setting.braced.Related place longer)
    {body last : Body} {stop : Parser}
    (outcome : bodyUnderTrue caseSensitive nesting fuel body longer = .ok last stop) :
    last.declarations ≠ [] := by
  induction begins generalizing room fuel longer body with
  | here place =>
      have positive := there.room
      obtain ⟨fuel, rfl⟩ : ∃ rest, fuel = rest + 1 := ⟨fuel - 1, by omega⟩
      exact bodyUnderTrue_misreads there none related read outcome
  | @next place next _ rules found further ih =>
      have positive := there.room
      obtain ⟨fuel, rfl⟩ : ∃ rest, fuel = rest + 1 := ⟨fuel - 1, by omega⟩
      cases tried : declaration place with
      | ok other stop => exact bodyUnderTrue_misreads there none related tried outcome
      | error error stop =>
          obtain ⟨cause, longerAfter, failed, spent⟩ := declaration_braced.failed rfl none
            (there.weaken (Nat.le_succ room)) related (.inl trivial) tried
          have reads := ruleset_reads caseSensitive there
          rw [found] at reads
          obtain ⟨longerNext, same, relatedNext⟩ := (ruleset_braced caseSensitive deep).found rfl
            none there (related.again spent) found
          rw [bodyUnderTrue_of_ruleset failed, same] at outcome
          exact ih read (by omega) (by omega) reads.2 (reads.1.arguments.trans none) relatedNext
            outcome

section

variable {rest : List Char}

theorem silent_before_brace {word : String}
    (listed : word ∈ "," :: conjunctionWords.map Prod.fst) :
    Silent word ("\x7b".toList ++ ' ' :: rest) := by
  have solid : ∀ word ∈ "," :: conjunctionWords.map Prod.fst, ∀ character ∈ word.toList,
      Mark.of character ≠ .space := by
    decide
  have apart : ∀ word ∈ "," :: conjunctionWords.map Prod.fst, Silent word "\x7b".toList := by
    decide
  exact silent_before_space (solid word listed) (apart word listed)

theorem predicate_true (there : place.At (room + 1) 0)
    (faces : place.Faces ("TRUEPREDICATE".toList ++ ' ' :: ("\x7b".toList ++ ' ' :: rest))) :
    ∃ stop, predicate place = .ok (.value true) stop ∧
      stop.Faces ("\x7b".toList ++ ' ' :: rest) := by
  have term : Setting.braced.Consumes room (termOf Parser.nextArgument)
      (termOf Parser.nextArgument) := Setting.termOf room
  obtain ⟨middle, first, remaining⟩ := termOf_true Parser.nextArgument place faces
  have reads := (term room (Nat.le_refl room) 0 0 (Nat.le_refl 0)).reads place there
  rw [first] at reads
  have facesMiddle : middle.Faces ("\x7b".toList ++ ' ' :: rest) := by
    refine ⟨reads.2.skips, ?_⟩
    unfold Scanner.ahead
    rw [remaining]
    rfl
  have passes : Passes ("\x7b".toList ++ ' ' :: rest) (firstKeyword conjunctionWords) none :=
    firstKeyword_passes fun word member => silent_before_brace (List.mem_cons_of_mem _ member)
  obtain ⟨stop, ran, facesStop⟩ := passes middle facesMiddle
  refine ⟨stop, ?_, facesStop⟩
  have joined : joinStep Predicate.fold (termOf Parser.nextArgument) (.value true) middle =
      .ok none stop := by
    simp only [joinStep, furtherTerm, bind, EStateM.bind, ran]
    rfl
  simp only [predicate, predicateWith, terms, bind, EStateM.bind, first]
  exact repeatWhile_of_none joined

theorem specifiers_true (there : place.At (room + 1) 0)
    (faces : place.Faces ("TRUEPREDICATE".toList ++ ' ' :: ("\x7b".toList ++ ' ' :: rest))) :
    ∃ stop, specifiers place = .ok ["TRUEPREDICATE"] stop ∧
      stop.Faces ("\x7b".toList ++ ' ' :: rest) := by
  have follows : Setting.braced.Follows 0 (At (room + 1) 0) predicate predicate
      fun _ => At room 0 :=
    Setting.predicateWith (.inr trivial) (Nat.le_refl 0)
  obtain ⟨middle, found, facesMiddle⟩ := predicate_true there faces
  have reads := follows.reads place there
  rw [found] at reads
  have shorter : middle.scanner.ahead.length < place.scanner.ahead.length := by
    rw [facesMiddle.2, faces.2]
    simp
  have whole : trimSkipped (middle.scanner.slice place.scanner.location middle.scanner.location) =
      "TRUEPREDICATE".toList := by
    have cut : "TRUEPREDICATE".toList ++ ' ' :: ("\x7b".toList ++ ' ' :: rest) =
        "TRUEPREDICATE ".toList ++ ("\x7b".toList ++ ' ' :: rest) := by
      simp
    rw [Scanner.trimmed_slice reads.1.text shorter, facesMiddle.2, faces.2, cut, List.length_append,
      Nat.add_sub_cancel, List.take_left]
    decide
  have passes : Passes ("\x7b".toList ++ ' ' :: rest) (literal ",") false :=
    literal_passes (silent_before_brace List.mem_cons_self)
  obtain ⟨stop, ran, facesStop⟩ := passes middle facesMiddle
  refine ⟨stop, ?_, facesStop⟩
  have text : specifier place = .ok "TRUEPREDICATE" middle := by
    rw [Setting.specifier_eq, found]
    simp only [whole]
    rfl
  simp only [specifiers, recurse, recurseTo, bind, EStateM.bind, text, ran]
  rfl

end

def bracedText (text : String) : String := "TRUEPREDICATE \x7b " ++ text ++ " \x7d"

theorem toList_bracedText (text : String) :
    (bracedText text).toList = "TRUEPREDICATE".toList ++ ' ' :: ("\x7b".toList ++
      ' ' :: (text.toList ++ " \x7d".toList)) := by
  show ("TRUEPREDICATE \x7b " ++ text ++ " \x7d").toList = _
  simp [String.toList_append]

theorem at_ofModel (text : String) (caseSensitive : Bool) :
    (Parser.ofModel text caseSensitive).At
      ((Parser.ofModel text caseSensitive).scanner.ahead.length + 1) 0 :=
  ⟨rfl, Nat.lt_succ_self _, rfl, rfl⟩

theorem related_opened {text : String}
    (closed : (Lexis.after text.toList.reverse).quote = none ∧
      (Lexis.after text.toList.reverse).depth = 0) {parser : Parser}
    (inside : parser.Inside (bracedText text).toList caseSensitive)
    (skips : parser.scanner.skips = some CharClass.skipped)
    (remaining : (parser.scanner.skipIgnored.forward "\x7b".toList.length).remaining =
      ' ' :: (text.toList ++ " \x7d".toList)) :
    Setting.braced.Related (Parser.ofModel text caseSensitive)
      (parser.moved (parser.scanner.skipIgnored.forward "\x7b".toList.length)) := by
  have moves := Scanner.forward_skipIgnored_moves skips "\x7b".toList.length
  exact {
    text := by
      refine moves.text.trans (inside.whole.trans ?_)
      show ("TRUEPREDICATE \x7b " ++ text ++ " \x7d").toList = _
      rw [String.toList_append, String.toList_append]
      rfl
    ahead := by
      show (parser.scanner.skipIgnored.forward _).remaining.dropWhile _ = _
      rw [remaining]
      rfl
    skips := moves.skips.trans skips
    caseSensitive := moves.caseSensitive.trans inside.caseSensitive
    arguments := inside.arguments
    taken := inside.taken
    counted := rfl
    closed := fun _ => closed }

theorem ruleset_true (text : String) (caseSensitive : Bool)
    (closed : (Lexis.after text.toList.reverse).quote = none ∧
      (Lexis.after text.toList.reverse).depth = 0) :
    ∃ inner, Setting.braced.Related (Parser.ofModel text caseSensitive) inner ∧
      ruleset caseSensitive [] (Parser.ofModel (bracedText text) caseSensitive) = (do
        let body ← bodyUnderTrue caseSensitive (bracedText text).toList.length
          (inner.scanner.remaining.length + 1) ⟨[], []⟩
        expect "\x7d" "ruleset"
        match rulesForEach caseSensitive body.declarations.reverse [["TRUEPREDICATE"]] with
        | .ok rules => return rules ++ body.nested.reverse.flatten
        | .error error => throw error) inner := by
  have there := at_ofModel (bracedText text) caseSensitive
  have faces : (Parser.ofModel (bracedText text) caseSensitive).Faces ("TRUEPREDICATE".toList ++
      ' ' :: ("\x7b".toList ++ ' ' :: (text.toList ++ " \x7d".toList))) := by
    refine ⟨rfl, ?_⟩
    show (bracedText text).toList.dropWhile CharClass.skipped = _
    rw [toList_bracedText]
    rfl
  obtain ⟨middle, found, facesMiddle⟩ := specifiers_true there faces
  have follows (room : Nat) : Setting.braced.Follows 0 (At (room + 1) 0) specifiers specifiers
      fun own parser => own ≠ [] ∧ parser.At room 0 :=
    Setting.specifiers rfl rfl trivial
  have inside := (follows _).inside rfl rfl there ⟨rfl, rfl, rfl, rfl⟩ found
  have single : "\x7b".toList = ['\x7b'] := by decide
  rw [single] at facesMiddle
  obtain ⟨opened, remaining⟩ : expect "\x7b" "ruleset" middle = _ ∧ _ :=
    expect_found single facesMiddle
  refine ⟨_, related_opened closed inside facesMiddle.1 remaining, ?_⟩
  show rulesetWith caseSensitive
    (recurseTo (rulesetWith caseSensitive) (bracedText text).toList.length) [] _ = _
  simp only [rulesetWith, bind, EStateM.bind, Setting.tried_eq, found, opened]
  rfl

end Parse

end PredicateRules
