import PredicateRules.Proofs.Cutting.Predicate
import PredicateRules.Proofs.Printing.Specifier

namespace PredicateRules

open PredicateRules.Parser

namespace Parse

theorem Crosses.trimmed {start stop : Parser} (crosses : Crosses start stop) {crossed : List Char}
    (moves : start.scanner.Moves stop.scanner crossed)
    (shorter : stop.scanner.ahead.length < start.scanner.ahead.length) :
    ∃ taken rest, start.scanner.ahead = taken ++ rest ∧ stop.scanner.ahead = front rest ∧
      Fronted taken ∧ Settled taken rest ∧
      trimSkipped (stop.scanner.slice start.scanner.location stop.scanner.location) = taken := by
  obtain ⟨taken, rest, ahead, behind, solid, settled⟩ := crosses
  have whole : Fronted start.scanner.ahead := fronted_front _
  rw [ahead] at whole
  refine ⟨taken, rest, ahead, behind, whole.of_append, settled, ?_⟩
  have gaps : rest.takeWhile CharClass.skipped ++ front rest = rest := List.takeWhile_append_dropWhile
  have skipped : ∀ character ∈ rest.takeWhile CharClass.skipped, CharClass.skipped character = true :=
    List.all_eq_true.mp List.all_takeWhile
  have length : (taken ++ rest.takeWhile CharClass.skipped).length =
      (taken ++ rest).length - (front rest).length := by
    rw [← gaps, List.length_append, List.length_append, List.length_append, gaps]
    omega
  rw [Scanner.trimmed_slice moves.text shorter, ahead, behind, ← length]
  nth_rewrite 2 [← gaps]
  rw [← List.append_assoc, List.take_left, trimSkipped_append_right skipped]
  have begins : ∀ character ∈ taken.head?, CharClass.skipped character = false := by
    intro character found
    cases taken with
    | nil => cases found
    | cons first taken =>
        obtain rfl := Option.some.inj found
        exact fronted_cons.mp whole.of_append
  exact Trimmed.trimSkipped ⟨begins, solid⟩

end Parse

open Parse in
/-- The text of a predicate that takes no argument denotes the predicate. -/
theorem Predicate.parse_slice {start stop : Parser} {tree : Predicate}
    (skips : start.scanner.skips = some CharClass.skipped) (found : predicate start = .ok tree stop)
    (untaken : stop.nextArgument = start.nextArgument) :
    Predicate.parse (String.ofList (trimSkipped
      (stop.scanner.slice start.scanner.location stop.scanner.location))) []
      start.scanner.caseSensitive = .ok tree := by
  have draws : ∀ room roomAgain, Draws room roomAgain predicate predicate fun _ => true :=
    fun _ _ => .predicate
  have behaves := (draws _ 0).behaves start skips (Nat.lt_succ_self _)
  rw [found] at behaves
  obtain ⟨_, ⟨crossed, moves⟩, shorter, crosses⟩ := behaves
  obtain ⟨taken, rest, ahead, behind, fronted, settled, trimmed⟩ :=
    (crosses untaken).trimmed moves shorter
  rw [trimmed]
  have shared : Shared start.scanner.caseSensitive rest [] taken start
      (Parser.ofText (String.ofList taken) [] start.scanner.caseSensitive) := {
    cut := .final rfl settled
    fronted := fronted
    facing := ⟨skips, rfl, by rw [← ahead]; exact (fronted_front _).symm⟩
    again := ⟨rfl, rfl, by rw [List.append_nil]; exact congrArg front (String.toList_ofList)⟩
    arguments := rfl }
  obtain ⟨last, again, sharedLast⟩ := (draws _ _).draws (Nat.lt_succ_self _) (Nat.lt_succ_self _) shared
    found untaken (.final rfl (by intro _ found; cases found)) fronted_nil behind
  obtain ⟨finish, ends, _⟩ := expectEnd_taken rfl last sharedLast.again
  have whole : wholePredicate Parser.nextArgument
      (Parser.ofText (String.ofList taken) [] start.scanner.caseSensitive) = .ok tree finish := by
    simp only [wholePredicate, bind, EStateM.bind]
    rw [show predicateWith Parser.nextArgument _ = _ from again]
    simp only [ends]
    rfl
  unfold Predicate.parse
  rw [whole]

namespace Parse

/-- A predicate behind the text that it is read from. -/
def specifierInPlace : Parse (String × Predicate) := do
  let before ← scanner
  let tree ← predicate
  let after ← scanner
  return (String.ofList (trimSkipped (after.slice before.location after.location)), tree)

def specifiersInPlace : Parse (List (String × Predicate)) :=
  recurse (fun again found => do
    let specifier ← specifierInPlace
    if ← literal "," then again (specifier :: found) else return (specifier :: found).reverse) []

/-- The rules of each predicate with each of the declarations. No text is read again. -/
def rulesInPlace (declarations : List Declaration) :
    List (String × Predicate) → Except ParseError (List PlacedRule)
  | [] => .ok []
  | (text, tree) :: others => do
    let rules ← rulesFor [text] tree declarations
    let further ← rulesInPlace declarations others
    return rules ++ further

def rulesetInPlaceWith (nested : List (List String) → Parse (List PlacedRule)) :
    Parse (List PlacedRule) := do
  match ← tried specifiersInPlace with
  | none => fail .expectedSpecifier
  | some own =>
    expect "\x7b" "ruleset"
    let body ← bodyFrom (nested (own.map fun specifier => [specifier.1])) ⟨[], []⟩
    expect "\x7d" "ruleset"
    match rulesInPlace body.declarations.reverse own with
    | .ok rules => return rules ++ body.nested.reverse.flatten
    | .error error => throw error

/-- A ruleset at the top whose own predicates are read once. Those inside of it are read as ever. -/
def rulesetInPlace (caseSensitive : Bool) : Parse (List PlacedRule) := fun parser =>
  rulesetInPlaceWith (recurseTo (rulesetWith caseSensitive) parser.scanner.remaining.length) parser

theorem specifier_eq_map : specifier = Prod.fst <$> specifierInPlace := by
  funext parser
  simp only [specifier, specifierInPlace, bind, EStateM.bind, scanner, Functor.map, EStateM.map]
  cases predicate parser <;> rfl

section

variable {α β γ δ : Type} {step : (α → Parse β) → α → Parse β} {other : (γ → Parse δ) → γ → Parse δ}
  (argument : γ → α) (image : δ → β)
  (maps : ∀ again againOther, (∀ start, again (argument start) = image <$> againOther start) →
    ∀ start, step again (argument start) = image <$> other againOther start)

include maps

theorem recurseTo_map (fuel : Nat) (start : γ) :
    recurseTo step fuel (argument start) = image <$> recurseTo other fuel start := by
  induction fuel generalizing start with
  | zero => rfl
  | succ fuel ih => exact maps _ _ ih start

theorem recurse_map (start : γ) : recurse step (argument start) = image <$> recurse other start := by
  funext parser
  exact congrFun (recurseTo_map argument image maps (parser.scanner.remaining.length + 1) start) parser

end

theorem specifiers_eq_map : specifiers = List.map Prod.fst <$> specifiersInPlace := by
  refine recurse_map (List.map Prod.fst) (List.map Prod.fst) (fun again againOther same found => ?_) []
  simp only [specifier_eq_map, bind_map_left, map_bind]
  refine bind_congr fun specifier => bind_congr fun further => ?_
  cases further with
  | true => exact same (specifier :: found)
  | false => simp

structure Bare (caseSensitive : Bool) (parser : Parser) : Prop where
  skips : parser.scanner.skips = some CharClass.skipped
  caseSensitive : parser.scanner.caseSensitive = caseSensitive
  arguments : parser.arguments = []

variable {caseSensitive : Bool} {start stop : Parser}

theorem Bare.spared (bare : Bare caseSensitive start) (spared : Spared start stop) :
    Bare caseSensitive stop where
  skips := spared.skips.trans bare.skips
  caseSensitive := spared.caseSensitive.trans bare.caseSensitive
  arguments := spared.arguments.trans bare.arguments

/-- The text of each specifier denotes the tree that was read in place. -/
def ReadAgain (caseSensitive : Bool) (own : List (String × Predicate)) : Prop :=
  ∀ specifier ∈ own, Predicate.parse specifier.1 [] caseSensitive = .ok specifier.2

theorem specifierInPlace_ok (bare : Bare caseSensitive start) {specifier : String × Predicate}
    (same : specifierInPlace start = .ok specifier stop) :
    Bare caseSensitive stop ∧ Predicate.parse specifier.1 [] caseSensitive = .ok specifier.2 := by
  have draws : Draws (start.scanner.ahead.length + 1) 0 predicate predicate fun _ => true := .predicate
  have behaves := draws.behaves start bare.skips (Nat.lt_succ_self _)
  simp only [specifierInPlace, bind, EStateM.bind, scanner] at same
  cases found : predicate start with
  | error error stop =>
      rw [found] at same
      cases same
  | ok tree stop =>
      rw [found] at same behaves
      cases same
      have denotes := Predicate.parse_slice bare.skips found (behaves.1.untaken bare.arguments)
      rw [bare.caseSensitive] at denotes
      exact ⟨bare.spared behaves.1, denotes⟩

theorem specifiersInPlace_ok (bare : Bare caseSensitive start) {own : List (String × Predicate)}
    (same : specifiersInPlace start = .ok own stop) : ReadAgain caseSensitive own := by
  have deepens : ∀ fuel start (found : List (String × Predicate)), Bare caseSensitive start →
      ReadAgain caseSensitive found → recurseTo (fun again found => do
        let specifier ← specifierInPlace
        if ← literal "," then again (specifier :: found) else return (specifier :: found).reverse) fuel
        found start = .ok own stop → ReadAgain caseSensitive own := by
    intro fuel
    induction fuel with
    | zero => intro start found _ _ same; cases same
    | succ fuel ih =>
        intro start found bare again same
        simp only [recurseTo, bind, EStateM.bind] at same
        cases first : specifierInPlace start with
        | error error middle =>
            rw [first] at same
            cases same
        | ok specifier middle =>
            rw [first] at same
            obtain ⟨bare, denotes⟩ := specifierInPlace_ok bare first
            have grown : ReadAgain caseSensitive (specifier :: found) :=
              List.forall_mem_cons.mpr ⟨denotes, again⟩
            have comma : Draws (middle.scanner.ahead.length + 1) 0 (literal ",") (literal ",") id :=
              .literal (by decide) (by decide)
            have behaves := comma.behaves middle bare.skips (Nat.lt_succ_self _)
            dsimp only at same
            cases further : literal "," middle with
            | error error last =>
                rw [further] at same
                cases same
            | ok goes last =>
                rw [further] at same behaves
                cases goes with
                | true => exact ih last _ (bare.spared behaves.1) grown same
                | false =>
                    cases same
                    intro other member
                    exact grown other (List.mem_reverse.mp member)
  exact deepens _ start [] bare (by intro _ member; cases member) same

theorem rulesForEach_eq_rulesInPlace {own : List (String × Predicate)} (again : ReadAgain caseSensitive own)
    (declarations : List Declaration) :
    rulesForEach caseSensitive declarations (own.map fun specifier => [specifier.1]) =
      rulesInPlace declarations own := by
  induction own with
  | nil => rfl
  | cons specifier own ih =>
      obtain ⟨denotes, others⟩ := List.forall_mem_cons.mp again
      have text : specifierText [specifier.1] = specifier.1 := String.intercalate_singleton
      rw [List.map_cons, rulesForEach, text, denotes, ih others]
      rfl

theorem rulesInPlace_eq_ok {declarations : List Declaration} {own : List (String × Predicate)}
    {rules : List PlacedRule} (made : rulesInPlace declarations own = .ok rules) :
    rules = own.flatMap fun specifier => declarations.map (ruleUnder [specifier.1] specifier.2) := by
  induction own generalizing rules with
  | nil =>
      cases made
      rfl
  | cons specifier own ih =>
      simp only [rulesInPlace, bind, Except.bind] at made
      split at made
      · cases made
      next first =>
        split at made
        · cases made
        next others =>
          cases made
          rw [rulesFor_eq_ok first, ih others, List.flatMap_cons]

theorem ruleset_eq_rulesetInPlace (bare : Bare caseSensitive start) :
    ruleset caseSensitive [] start = rulesetInPlace caseSensitive start := by
  show rulesetWith caseSensitive _ [] start = rulesetInPlaceWith _ start
  simp only [rulesetWith, rulesetInPlaceWith, bind, EStateM.bind, Setting.tried_eq, specifiers_eq_map,
    Functor.map, EStateM.map]
  cases found : specifiersInPlace start with
  | error error middle => rfl
  | ok own middle =>
      have again := specifiersInPlace_ok bare found
      have paths : joinedPaths [] (own.map Prod.fst) = own.map fun specifier => [specifier.1] := by
        simp [joinedPaths]
      simp only [paths]
      refine congrArg (EStateM.bind (expect "\x7b" "ruleset") · middle) (funext fun _ => ?_)
      refine congrArg (EStateM.bind _) (funext fun body => congrArg (EStateM.bind _) (funext fun _ => ?_))
      cases rules : rulesInPlace body.declarations.reverse own <;>
        simp only [rulesForEach_eq_rulesInPlace again, rules]

/-- What an accepted ruleset at the top consists of. -/
theorem rulesetInPlace_ok {rules : List PlacedRule}
    (accepted : rulesetInPlace caseSensitive start = .ok rules stop) :
    ∃ own after inside body behind, specifiersInPlace start = .ok own after ∧
      expect "\x7b" "ruleset" after = .ok () inside ∧
      bodyFrom (recurseTo (rulesetWith caseSensitive) start.scanner.remaining.length
        (own.map fun specifier => [specifier.1])) ⟨[], []⟩ inside = .ok body behind ∧
      rules = (own.flatMap fun specifier =>
        body.declarations.reverse.map (ruleUnder [specifier.1] specifier.2)) ++ body.nested.reverse.flatten := by
  obtain ⟨found, after, first, accepted⟩ := bind_eq_ok.mp accepted
  rw [Setting.tried_eq] at first
  cases read : specifiersInPlace start with
  | error error after =>
      rw [read] at first
      cases first
      cases accepted
  | ok own after =>
      rw [read] at first
      cases first
      obtain ⟨_, inside, opened, accepted⟩ := bind_eq_ok.mp accepted
      obtain ⟨body, behind, held, accepted⟩ := bind_eq_ok.mp accepted
      obtain ⟨_, last, -, accepted⟩ := bind_eq_ok.mp accepted
      refine ⟨own, after, inside, body, behind, rfl, opened, held, ?_⟩
      cases made : rulesInPlace body.declarations.reverse own with
      | error error =>
          rw [made] at accepted
          cases accepted
      | ok top =>
          rw [made] at accepted
          cases accepted
          rw [rulesInPlace_eq_ok made]

/-- Wherever a predicate is read without an argument, its own text denotes the same tree; so a ruleset at
the top is as if the text of its specifiers was never read again. Where it is accepted, it has a rule for each
of its specifiers with each of its declarations, which stands under the tree that was read in place. -/
theorem specifier_read_alone :
    (∀ (start stop : Parser) (tree : Predicate), start.scanner.skips = some CharClass.skipped →
      predicate start = .ok tree stop → stop.nextArgument = start.nextArgument →
      Predicate.parse (String.ofList (trimSkipped
        (stop.scanner.slice start.scanner.location stop.scanner.location))) []
        start.scanner.caseSensitive = .ok tree) ∧
      ∀ (caseSensitive : Bool) (start : Parser), Bare caseSensitive start →
        ruleset caseSensitive [] start = rulesetInPlace caseSensitive start ∧
          ∀ rules stop, ruleset caseSensitive [] start = .ok rules stop →
            ∃ own after inside body behind, specifiersInPlace start = .ok own after ∧
              expect "\x7b" "ruleset" after = .ok () inside ∧
              bodyFrom (recurseTo (rulesetWith caseSensitive) start.scanner.remaining.length
                (own.map fun specifier => [specifier.1])) ⟨[], []⟩ inside = .ok body behind ∧
              rules = (own.flatMap fun specifier =>
                body.declarations.reverse.map (ruleUnder [specifier.1] specifier.2)) ++
                  body.nested.reverse.flatten := by
  refine ⟨fun _ _ _ => Predicate.parse_slice, fun caseSensitive start bare => ?_⟩
  have same := ruleset_eq_rulesetInPlace bare
  exact ⟨same, fun rules stop accepted => rulesetInPlace_ok (same ▸ accepted)⟩

def placedAt (text : String) (caseSensitive : Bool) (position : Nat) : Parser :=
  let start := Parser.ofText text [] caseSensitive
  start.moved (start.scanner.forward position)

/-- A predicate that begins behind a comma and ends before a brace. -/
theorem specifier_read_alone_behind_comma :
    ∃ start stop tree rules last, start.scanner.text = "x, (a) = 12 \x7b k: 1 \x7d".toList ∧
      start.scanner.passed = [',', 'x'] ∧ Bare false start ∧ predicate start = .ok tree stop ∧
      stop.nextArgument = start.nextArgument ∧ stop.scanner.remaining.length = 8 ∧
      Predicate.parse "(a) = 12" [] false = .ok tree ∧
      ruleset false [] start = rulesetInPlace false start ∧ ruleset false [] start = .ok rules last ∧
      rules.length = 1 ∧ ∃ own after, ∃ body : Body, specifiersInPlace start = .ok own after ∧
        rules = (own.flatMap fun specifier =>
          body.declarations.reverse.map (ruleUnder [specifier.1] specifier.2)) ++
            body.nested.reverse.flatten := by
  have listed : (match ruleset false [] (placedAt "x, (a) = 12 \x7b k: 1 \x7d" false 2) with
    | .ok rules _ => rules.length == 1
    | _ => false) = true := by
    decide +kernel
  have read : (match predicate (placedAt "x, (a) = 12 \x7b k: 1 \x7d" false 2) with
    | .ok _ stop => stop.nextArgument == 0 && stop.scanner.remaining.length == 8 &&
      String.ofList (trimSkipped (stop.scanner.slice
        (placedAt "x, (a) = 12 \x7b k: 1 \x7d" false 2).scanner.location stop.scanner.location)) ==
          "(a) = 12"
    | _ => false) = true := by
    decide +kernel
  have bare : Bare false (placedAt "x, (a) = 12 \x7b k: 1 \x7d" false 2) := ⟨rfl, rfl, rfl⟩
  split at listed
  next rules last accepted =>
    split at read
    next tree stop found =>
      simp only [Bool.and_eq_true, beq_iff_eq] at read
      obtain ⟨⟨untaken, remaining⟩, text⟩ := read
      have alone := specifier_read_alone.1 _ stop tree bare.skips found untaken
      rw [text] at alone
      obtain ⟨same, consists⟩ := specifier_read_alone.2 false _ bare
      obtain ⟨own, after, _, body, _, inPlace, -, -, rules⟩ := consists rules last accepted
      exact ⟨_, stop, tree, _, last, by decide +kernel, by decide +kernel, bare, found, untaken, remaining, alone,
        same, accepted, by simpa using listed, own, after, body, inPlace, rules⟩
    next => cases read
  next => cases listed

end Parse

end PredicateRules
