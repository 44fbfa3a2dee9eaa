import PredicateRules.Grammar.Ruleset

namespace PredicateRules

namespace Parse

variable {α β : Type} {property : α → Prop}

theorem bind_eq_ok {first : Parse β} {next : β → Parse α} {parser stop : Parser} {result : α} :
    (first >>= next) parser = .ok result stop ↔
      ∃ middle place, first parser = .ok middle place ∧ next middle place = .ok result stop := by
  simp only [Bind.bind, EStateM.bind]
  cases first parser with
  | error cause place => simp
  | ok found place => simp [and_assoc]

/-- Whatever the step returns has the property. -/
def Yields (step : Parse α) (property : α → Prop) : Prop :=
  ∀ parser result stop, step parser = .ok result stop → property result

namespace Yields

theorem bind {middle : β → Prop} {first : Parse β} {next : β → Parse α}
    (before : Yields first middle) (after : ∀ result, middle result → Yields (next result) property) :
    Yields (first >>= next) property := by
  intro parser last stop outcome
  obtain ⟨result, place, found, outcome⟩ := bind_eq_ok.mp outcome
  exact after result (before parser result place found) place last stop outcome

theorem anything (step : Parse α) : Yields step fun _ => True := fun _ _ _ _ => trivial

theorem pure {result : α} (holds : property result) : Yields (Pure.pure result) property := by
  intro parser other stop outcome
  cases outcome
  exact holds

theorem never {step : Parse α} (fails : ∀ parser, ∃ error stop, step parser = .error error stop) :
    Yields step property := by
  intro parser result stop outcome
  obtain ⟨error, place, failed⟩ := fails parser
  rw [failed] at outcome
  cases outcome

theorem fail (error : Location → ParseError) : Yields (Parse.fail error) property :=
  never fun parser => ⟨error parser.location, parser, rfl⟩

theorem throw (error : ParseError) : Yields (MonadExcept.throw error) property :=
  never fun parser => ⟨error, parser, rfl⟩

theorem tried {step : Parse α} (yields : Yields step property) :
    Yields (Parse.tried step) fun result => ∀ found ∈ result, property found := by
  intro parser result stop outcome found member
  obtain rfl := Option.mem_def.mp member
  simp only [Parse.tried, Bind.bind, EStateM.bind, Parse.scanner, Parse.attempt] at outcome
  cases inner : step parser with
  | ok other place =>
      simp only [inner] at outcome
      cases outcome
      exact yields parser found stop inner
  | error error place =>
      simp only [inner] at outcome
      cases outcome

section

variable {γ : Type} {step : (γ → Parse α) → γ → Parse α} (invariant : γ → Prop)
  (grows : ∀ again, (∀ start, invariant start → Yields (again start) property) →
    ∀ start, invariant start → Yields (step again start) property)

include grows

theorem recurseTo (depth : Nat) {start : γ} (holds : invariant start) :
    Yields (Parse.recurseTo step depth start) property := by
  induction depth generalizing start with
  | zero => exact fail .missingIdentifier
  | succ depth ih => exact grows _ (fun _ => ih) start holds

theorem recurse {start : γ} (holds : invariant start) : Yields (Parse.recurse step start) property :=
  fun parser => recurseTo invariant grows _ holds parser

end

end Yields

end Parse

/-- The rule stands under the joined texts of its path. -/
structure PlacedRule.Placed (caseSensitive : Bool) (placed : PlacedRule) : Prop where
  nonempty : placed.path ≠ []
  reads : Predicate.parse (specifierText placed.path) [] caseSensitive = .ok placed.rule.specifier

namespace Parse

variable {caseSensitive : Bool}

theorem rulesFor_cons_ok {path : List String} {specifier : Predicate} {declaration : Declaration}
    {declarations : List Declaration} {rules : List PlacedRule}
    (made : rulesFor path specifier (declaration :: declarations) = .ok rules) :
    ∃ rule others, Rule.make specifier declaration.key declaration.value 0 = .ok rule ∧
      rulesFor path specifier declarations = .ok others ∧ rules = ⟨path, rule⟩ :: others := by
  simp only [rulesFor] at made
  cases first : Rule.make specifier declaration.key declaration.value 0 with
  | error cause => simp [first] at made
  | ok rule =>
      cases rest : rulesFor path specifier declarations with
      | error cause => simp [first, rest, Except.map] at made
      | ok others =>
          simp only [first, rest, Except.map, Except.ok.injEq] at made
          exact ⟨rule, others, rfl, rfl, made.symm⟩

theorem rulesForEach_cons_ok {declarations : List Declaration} {path : List String}
    {paths : List (List String)} {rules : List PlacedRule}
    (made : rulesForEach caseSensitive declarations (path :: paths) = .ok rules) :
    ∃ specifier own others, Predicate.parse (specifierText path) [] caseSensitive = .ok specifier ∧
      rulesFor path specifier declarations = .ok own ∧
      rulesForEach caseSensitive declarations paths = .ok others ∧ rules = own ++ others := by
  simp only [rulesForEach, bind, Except.bind] at made
  cases parsed : Predicate.parse (specifierText path) [] caseSensitive with
  | error cause => simp [parsed] at made
  | ok specifier =>
      cases first : rulesFor path specifier declarations with
      | error cause => simp [parsed, first] at made
      | ok own =>
          cases rest : rulesForEach caseSensitive declarations paths with
          | error cause => simp [parsed, first, rest] at made
          | ok others =>
              simp only [parsed, first, rest] at made
              exact ⟨specifier, own, others, rfl, first, rfl, (Except.ok.inj made).symm⟩

/-- The rule of a declaration that stands under a path. -/
def ruleUnder (path : List String) (specifier : Predicate) (declaration : Declaration) : PlacedRule :=
  ⟨path, specifier, declaration.key, declaration.value, 0, Rule.priorityOf specifier 0⟩

theorem rulesFor_eq_ok {path : List String} {specifier : Predicate} {declarations : List Declaration}
    {rules : List PlacedRule} (made : rulesFor path specifier declarations = .ok rules) :
    rules = declarations.map (ruleUnder path specifier) := by
  induction declarations generalizing rules with
  | nil =>
      cases made
      rfl
  | cons declaration declarations ih =>
      obtain ⟨rule, others, first, rest, rfl⟩ := rulesFor_cons_ok made
      obtain rfl := Rule.eq_of_make first
      rw [ih rest]
      rfl

theorem rulesForEach_placed {declarations : List Declaration} {paths : List (List String)}
    {rules : List PlacedRule} (nonempty : ∀ path ∈ paths, path ≠ [])
    (made : rulesForEach caseSensitive declarations paths = .ok rules) :
    ∀ placed ∈ rules, placed.Placed caseSensitive := by
  induction paths generalizing rules with
  | nil =>
      cases made
      intro placed member
      cases member
  | cons path paths ih =>
      obtain ⟨some, others⟩ := List.forall_mem_cons.mp nonempty
      obtain ⟨specifier, own, further, parsed, first, rest, rfl⟩ := rulesForEach_cons_ok made
      refine List.forall_mem_append.mpr ⟨fun placed member => ?_, ih others rest⟩
      rw [rulesFor_eq_ok first] at member
      obtain ⟨declaration, -, rfl⟩ := List.mem_map.mp member
      exact ⟨some, parsed⟩

theorem joinedPaths_nonempty (parents : List (List String)) (own : List String) :
    ∀ path ∈ joinedPaths parents own, path ≠ [] := by
  intro path member
  unfold joinedPaths at member
  split at member
  · obtain ⟨child, _, rfl⟩ := List.mem_map.mp member
    exact List.cons_ne_nil _ _
  · obtain ⟨parent, _, member⟩ := List.mem_flatMap.mp member
    obtain ⟨child, _, rfl⟩ := List.mem_map.mp member
    simp

def AllPlaced (caseSensitive : Bool) (found : List (List PlacedRule)) : Prop :=
  ∀ rules ∈ found, ∀ placed ∈ rules, placed.Placed caseSensitive

theorem allPlaced_nil : AllPlaced caseSensitive [] :=
  fun _ member => absurd member List.not_mem_nil

theorem AllPlaced.cons {rules : List PlacedRule} {found : List (List PlacedRule)}
    (first : ∀ placed ∈ rules, placed.Placed caseSensitive) (others : AllPlaced caseSensitive found) :
    AllPlaced caseSensitive (rules :: found) := by
  intro some member
  rcases List.mem_cons.mp member with rfl | member
  · exact first
  · exact others some member

theorem AllPlaced.flatten {found : List (List PlacedRule)} (all : AllPlaced caseSensitive found) :
    ∀ placed ∈ found.reverse.flatten, placed.Placed caseSensitive := by
  intro placed member
  obtain ⟨rules, listed, member⟩ := List.mem_flatten.mp member
  exact all rules (List.mem_reverse.mp listed) placed member

theorem bodyFrom_placed {ruleset : Parse (List PlacedRule)}
    (yields : Yields ruleset fun rules => ∀ placed ∈ rules, placed.Placed caseSensitive)
    {body : Body} (holds : AllPlaced caseSensitive body.nested) :
    Yields (bodyFrom ruleset body) fun body => AllPlaced caseSensitive body.nested := by
  refine Yields.recurse (fun body : Body => AllPlaced caseSensitive body.nested)
    (fun again continues body holds => ?_) holds
  refine Yields.bind (Yields.anything _) fun declaration _ => ?_
  cases declaration with
  | some declaration =>
      refine Yields.bind (Yields.anything _) fun separated _ => ?_
      cases separated with
      | true => exact continues _ holds
      | false => exact Yields.pure holds
  | none =>
      refine Yields.bind yields.tried fun found good => ?_
      cases found with
      | none => exact Yields.pure holds
      | some rules => exact continues _ (holds.cons (good rules rfl))

theorem ruleset_placed (parents : List (List String)) :
    Yields (ruleset caseSensitive parents) fun rules =>
      ∀ placed ∈ rules, placed.Placed caseSensitive := by
  refine Yields.recurse (fun _ => True) (fun again yields parents _ => ?_) trivial
  refine Yields.bind (Yields.anything _) fun own _ => ?_
  cases own with
  | none => exact Yields.fail _
  | some own =>
      refine Yields.bind (Yields.anything _) fun _ _ => ?_
      refine Yields.bind (bodyFrom_placed (yields _ trivial) allPlaced_nil) fun body nested => ?_
      refine Yields.bind (Yields.anything _) fun _ _ => ?_
      cases made : rulesForEach caseSensitive body.declarations.reverse (joinedPaths parents own) with
      | error cause => exact Yields.throw cause
      | ok rules =>
          refine Yields.pure fun placed member => ?_
          rcases List.mem_append.mp member with member | member
          · exact rulesForEach_placed (joinedPaths_nonempty parents own) made placed member
          · exact nested.flatten placed member

theorem rulesetsFrom_placed {found : List (List PlacedRule)}
    (holds : AllPlaced caseSensitive found) :
    Yields (rulesetsFrom caseSensitive found) (AllPlaced caseSensitive) := by
  unfold rulesetsFrom repeatWhile
  refine Yields.recurse (AllPlaced caseSensitive) (fun again continues found holds => ?_) holds
  have step : Yields (do return (← tried (ruleset caseSensitive [])).map (· :: found)) fun next =>
      ∀ others ∈ next, AllPlaced caseSensitive others := by
    refine Yields.bind (ruleset_placed []).tried fun rules good => Yields.pure ?_
    intro others member
    obtain ⟨first, found, rfl⟩ := Option.map_eq_some_iff.mp (Option.mem_def.mp member)
    exact holds.cons (good first found)
  refine Yields.bind step fun next good => ?_
  cases next with
  | none => exact Yields.pure holds
  | some next => exact continues next (good next rfl)

theorem placedRules_placed (parser : Parser) {rules : List PlacedRule} {stop : Parser}
    (outcome : placedRules parser = .ok rules stop) :
    ∀ placed ∈ rules, placed.Placed parser.scanner.caseSensitive := by
  have yields : Yields (do
      let found ← rulesetsFrom parser.scanner.caseSensitive []
      if ← scan Scanner.atEnd then return found.reverse.flatten
      else throw (.unparsed (← scanner).line)) fun rules =>
        ∀ placed ∈ rules, placed.Placed parser.scanner.caseSensitive := by
    refine Yields.bind (rulesetsFrom_placed allPlaced_nil) fun found all => ?_
    refine Yields.bind (Yields.anything _) fun ends _ => ?_
    cases ends with
    | true => exact Yields.pure all.flatten
    | false => exact Yields.bind (Yields.anything _) fun scanner _ => Yields.throw _
  exact yields { parser with trackLines := true } rules stop outcome

theorem ok_of_map_toOption {ε α β : Type} {result : Except ε α} {part : α → β} {known : β}
    (found : result.toOption.map part = some known) :
    ∃ value, result = .ok value ∧ part value = known := by
  cases result with
  | error cause => cases found
  | ok value => exact ⟨value, rfl, Option.some.inj found⟩

end Parse

theorem PlacedRule.parseAll_placed {text : String} {caseSensitive : Bool} {rules : List PlacedRule}
    (accepted : PlacedRule.parseAll text caseSensitive = .ok rules) :
    ∀ placed ∈ rules, placed.Placed caseSensitive := by
  unfold PlacedRule.parseAll at accepted
  cases outcome : Parse.placedRules (Parser.ofText text [] caseSensitive) with
  | error error stop => simp [outcome] at accepted
  | ok found stop =>
      simp only [outcome, Except.ok.injEq] at accepted
      subst accepted
      exact Parse.placedRules_placed _ outcome

end PredicateRules
