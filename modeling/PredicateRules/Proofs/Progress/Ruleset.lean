import PredicateRules.Proofs.Cutting.Specifier
import PredicateRules.Proofs.Progress.Predicate

namespace PredicateRules

/-- All texts of the path have the property, and the priority is what the specifier asks for. -/
structure PlacedRule.Standing (property : String → Prop) (placed : PlacedRule) : Prop where
  parts : ∀ part ∈ placed.path, property part
  priority : placed.rule.priority = .ofNat placed.rule.specifier.specificity

namespace Parse

variable {property : String → Prop}

theorem rulesFor_standing {path : List String} (parts : ∀ part ∈ path, property part)
    {specifier : Predicate} {declarations : List Declaration} {rules : List PlacedRule}
    (made : rulesFor path specifier declarations = .ok rules) :
    ∀ placed ∈ rules, placed.Standing property := by
  induction declarations generalizing rules with
  | nil =>
      cases made
      simp
  | cons declaration declarations ih =>
      obtain ⟨rule, others, first, rest, rfl⟩ := rulesFor_cons_ok made
      obtain rfl := Rule.eq_of_make first
      exact List.forall_mem_cons.mpr ⟨⟨parts, by simp⟩, ih rest⟩

theorem rulesForEach_standing {caseSensitive : Bool} {declarations : List Declaration}
    {paths : List (List String)} (parts : ∀ path ∈ paths, ∀ part ∈ path, property part)
    {rules : List PlacedRule} (made : rulesForEach caseSensitive declarations paths = .ok rules) :
    ∀ placed ∈ rules, placed.Standing property := by
  induction paths generalizing rules with
  | nil =>
      cases made
      simp
  | cons path paths ih =>
      obtain ⟨own, others⟩ := List.forall_mem_cons.mp parts
      obtain ⟨specifier, found, further, _, first, rest, rfl⟩ := rulesForEach_cons_ok made
      exact List.forall_mem_append.mpr ⟨rulesFor_standing own first, ih others rest⟩

theorem joinedPaths_parts {parents : List (List String)} {own : List String}
    (above : ∀ path ∈ parents, ∀ part ∈ path, property part) (texts : ∀ text ∈ own, property text) :
    ∀ path ∈ joinedPaths parents own, ∀ part ∈ path, property part := by
  intro path member
  unfold joinedPaths at member
  split at member
  · obtain ⟨child, listed, rfl⟩ := List.mem_map.mp member
    simpa using texts child listed
  · obtain ⟨parent, listed, member⟩ := List.mem_flatMap.mp member
    obtain ⟨child, inside, rfl⟩ := List.mem_map.mp member
    refine List.forall_mem_append.mpr ⟨above parent listed, ?_⟩
    simpa using texts child inside

/-- All rules of some rulesets. -/
def AllStanding (property : String → Prop) (found : List (List PlacedRule)) : Prop :=
  ∀ rules ∈ found, ∀ placed ∈ rules, placed.Standing property

theorem AllStanding.flatten {found : List (List PlacedRule)} (all : AllStanding property found) :
    ∀ placed ∈ found.reverse.flatten, placed.Standing property := by
  intro placed member
  obtain ⟨rules, listed, member⟩ := List.mem_flatten.mp member
  exact all rules (List.mem_reverse.mp listed) placed member

namespace Advances

variable {ground : Ground} {room : Nat}

theorem characters {set : CharClass} (solid : ∀ character ∈ CharClass.blanks, set character = false)
    (error : Location → ParseError) :
    Advances ground room (Parse.characters set error) (Parse.characters set error) (fun _ => true)
      fun _ => True := by
  have run : Advances ground room (Parse.scan fun scanner => scanner.scanCharacters set)
      (Parse.scan fun scanner => scanner.scanCharacters set) Option.isSome fun _ => True := by
    refine scan (fun scanner skips => ?_) fun scanner skips found => ?_
    · by_cases missing : scanner.ahead.takeWhile set = []
      · obtain ⟨stop, scanned, moves⟩ := Scanner.scanCharacters_none skips missing
        rw [scanned]
        exact moves
      · obtain ⟨stop, scanned, moves⟩ := Scanner.scanCharacters_some skips solid missing
        rw [scanned]
        exact ⟨_, moves⟩
    · by_cases missing : scanner.ahead.takeWhile set = []
      · obtain ⟨stop, scanned, _⟩ := Scanner.scanCharacters_none skips missing
        rw [scanned] at found
        cases found
      · obtain ⟨stop, scanned, moves⟩ := Scanner.scanCharacters_some skips solid missing
        rw [scanned]
        have whole := moves.remaining
        rw [← Scanner.gap_append_ahead scanner, List.append_assoc, List.append_cancel_left_eq] at whole
        have least := front_length stop.remaining
        have := List.length_pos_iff.mpr missing
        show (front stop.remaining).length < _
        rw [whole, List.length_append]
        omega
  refine bind run fun found _ => ?_
  cases found with
  | none => exact .fail
  | some found => exact .pure rfl trivial

theorem declaration :
    Advances ground room Parse.declaration Parse.declaration (fun _ => true) fun _ => True := by
  refine bind (characters (by decide) _) fun key _ => ?_
  refine bind (.expect (by decide) "declaration") fun _ _ => ?_
  exact returns (expressionWith .anything Parser.nextArgument) (by simp) fun _ _ => trivial

/-- What the text of every predicate has that is read on the ground. -/
def Texts (ground : Ground) (property : String → Prop) : Prop :=
  ∀ start text stop, ground.Holds start → Parse.specifier start = .ok text stop → property text

section

variable (texts : Texts ground property)

include texts

theorem specifier :
    Advances ground room Parse.specifier Parse.specifier (fun _ => true) property := by
  have reads : Advances ground room Parse.specifier Parse.specifier (fun _ => true) fun _ => True := by
    constructor
    · intro start stands inside
      have comes := (predicateWith Parser.nextArgument).comes start stands inside
      simp only [Parse.specifier, Parse.predicate, Bind.bind, EStateM.bind, Parse.scanner]
      cases outcome : Parse.predicateWith Parser.nextArgument start with
      | error error stop =>
          rw [outcome] at comes
          exact comes
      | ok tree stop =>
          rw [outcome] at comes
          exact comes
    · exact fun _ _ _ => rfl
  exact reads.yielding texts

def specifiersStep (again : List String → Parse (List String)) (found : List String) :
    Parse (List String) := do
  let text ← Parse.specifier
  if ← Parse.literal "," then again (text :: found) else return (text :: found).reverse

theorem specifiersStep_advances {again other : List String → Parse (List String)}
    (further : ∀ found, (∀ text ∈ found, property text) → Advances ground (room - 1) (again found)
      (other found) (fun _ => true) fun texts => ∀ text ∈ texts, property text)
    {found : List String} (holds : ∀ text ∈ found, property text) :
    Advances ground room (specifiersStep again found) (specifiersStep other found) (fun _ => true)
      fun texts => ∀ text ∈ texts, property text := by
  refine bind (specifier texts) fun text good => ?_
  have grown : ∀ other ∈ text :: found, property other := List.forall_mem_cons.mpr ⟨good, holds⟩
  refine branch (.literal (by decide))
    (((further (text :: found) grown).mono (Nat.sub_le _ _)).weaken (by simp) fun _ => id) ?_
  exact .pure (by simp) fun other member => grown other (List.mem_reverse.mp member)

theorem specifiers :
    Advances ground room Parse.specifiers Parse.specifiers (fun _ => true)
      fun texts => ∀ text ∈ texts, property text := by
  refine recurse (fun found => ∀ text ∈ found, property text)
    (fun less within again other further found holds => ?_) (by simp)
  exact specifiersStep_advances texts further holds

end

section

variable {kept : List PlacedRule → Prop} {inner other : Parse (List PlacedRule)}
  (nested : Advances ground room inner other (fun _ => true) kept)

include nested

theorem bodyStep {again againOther : Body → Parse Body}
    (further : ∀ body : Body, (∀ rules ∈ body.nested, kept rules) → Advances ground (room - 1) (again body)
      (againOther body) (fun _ => false) fun body => ∀ rules ∈ body.nested, kept rules)
    {body : Body} (holds : ∀ rules ∈ body.nested, kept rules) :
    Advances ground room (Parse.bodyStep inner again body) (Parse.bodyStep other againOther body)
      (fun _ => false) fun body => ∀ rules ∈ body.nested, kept rules := by
  refine bind (tried declaration) fun found _ => ?_
  cases found with
  | some declaration =>
      have goes := further { body with declarations := declaration :: body.declarations } holds
      exact branch (.literal (by decide)) (goes.mono (by omega)) (.pure rfl holds)
  | none =>
      refine bind (tried nested) fun found good => ?_
      cases found with
      | none => exact .pure rfl holds
      | some rules =>
          have grown : ∀ other ∈ rules :: body.nested, kept other :=
            List.forall_mem_cons.mpr ⟨good rules rfl, holds⟩
          exact (further { body with nested := rules :: body.nested } grown).mono (Nat.le_refl _)

theorem bodyFrom {body : Body} (holds : ∀ rules ∈ body.nested, kept rules) :
    Advances ground room (Parse.bodyFrom inner body) (Parse.bodyFrom other body) (fun _ => false)
      fun body => ∀ rules ∈ body.nested, kept rules := by
  refine recurse (fun body : Body => ∀ rules ∈ body.nested, kept rules)
    (fun less within again againOther further body holds => ?_) holds
  exact bodyStep (nested.mono within) further holds

end

variable (texts : Texts ground property) (caseSensitive : Bool)

include texts

theorem rulesetWith {inner other : List (List String) → Parse (List PlacedRule)}
    (nested : ∀ paths, (∀ path ∈ paths, ∀ part ∈ path, property part) → Advances ground (room - 1)
      (inner paths) (other paths) (fun _ => true) fun rules => ∀ placed ∈ rules, placed.Standing property)
    {parents : List (List String)} (above : ∀ path ∈ parents, ∀ part ∈ path, property part) :
    Advances ground room (Parse.rulesetWith caseSensitive inner parents)
      (Parse.rulesetWith caseSensitive other parents) (fun _ => true)
      fun rules => ∀ placed ∈ rules, placed.Standing property := by
  refine bind (tried (specifiers texts)) fun own good => ?_
  cases own with
  | none => exact .fail
  | some own =>
      have parts := joinedPaths_parts above (good own rfl)
      refine bind (.expect (by decide) "ruleset") fun _ _ => ?_
      refine bind (bodyFrom ((nested _ parts).mono (Nat.sub_le (room - 1) 1)) nofun) fun body standing => ?_
      refine bind (.expect (by decide) "ruleset") fun _ _ => ?_
      cases made : rulesForEach caseSensitive body.declarations.reverse (joinedPaths parents own) with
      | error cause => exact .throw
      | ok rules =>
          refine .pure (by simp) (List.forall_mem_append.mpr ⟨?_, AllStanding.flatten standing⟩)
          exact rulesForEach_standing parts made

theorem ruleset {parents : List (List String)} (above : ∀ path ∈ parents, ∀ part ∈ path, property part) :
    Advances ground room (Parse.ruleset caseSensitive parents) (Parse.ruleset caseSensitive parents)
      (fun _ => true) fun rules => ∀ placed ∈ rules, placed.Standing property := by
  refine recurse (fun parents => ∀ path ∈ parents, ∀ part ∈ path, property part)
    (fun less within inner other nested parents above => ?_) above
  exact rulesetWith texts caseSensitive nested above

def rulesetsStep (caseSensitive : Bool) (found : List (List PlacedRule)) :
    Parse (Option (List (List PlacedRule))) := do
  return (← Parse.tried (Parse.ruleset caseSensitive [])).map (· :: found)

theorem rulesetsStep_advances {found : List (List PlacedRule)} (holds : AllStanding property found) :
    Advances ground room (rulesetsStep caseSensitive found) (rulesetsStep caseSensitive found)
      Option.isSome fun next => ∀ found ∈ next, AllStanding property found := by
  refine returns (tried (ruleset texts caseSensitive (by simp))) (by simp) ?_
  intro rules good next member
  obtain ⟨first, same, rfl⟩ := Option.map_eq_some_iff.mp (Option.mem_def.mp member)
  exact List.forall_mem_cons.mpr ⟨good first same, holds⟩

theorem rulesetsFrom {found : List (List PlacedRule)} (holds : AllStanding property found) :
    Advances ground room (Parse.rulesetsFrom caseSensitive found)
      (Parse.rulesetsFrom caseSensitive found) (fun _ => false) (AllStanding property) :=
  repeatWhile (fun _ good => rulesetsStep_advances texts caseSensitive good) holds

end Advances

end Parse

end PredicateRules
