import PredicateRules.Proofs.Evaluation.Decision
import PredicateRules.Proofs.Progress.Ruleset
import PredicateRules.Proofs.Reading.Chain

namespace PredicateRules

theorem Evaluated.seek_false_eq_true {results : List (Evaluated Bool)} :
    seek false results = .ok true ↔ ∀ result ∈ results, result = .ok true := by
  induction results with
  | nil => simp [seek]
  | cons result results ih =>
      rw [List.forall_mem_cons]
      cases result with
      | error cause => simp [seek, bind, Except.bind]
      | ok held =>
          cases held with
          | true => simpa [seek_passed] using ih
          | false => simp [seek_found]

namespace Predicate

variable {world other : World} {object : Value}

theorem forall_partsIn_and (matched : world.Matches other) {predicate : Predicate}
    (steady : predicate.Steady world other) :
    (∀ part ∈ predicate.partsIn .and, part.evaluate other object = .ok true) ↔
      predicate.evaluate world object = .ok true := by
  rw [evaluate_partsIn (show CompoundKind.and ≠ .not by decide) matched steady]
  exact List.forall_mem_map.symm.trans Evaluated.seek_false_eq_true.symm

theorem evaluate_fold_and (matched : world.Matches world) {left right : Predicate}
    (leftSteady : left.Steady world world) (rightSteady : right.Steady world world) :
    (fold .and left right).evaluate world object = .ok true ↔
      left.evaluate world object = .ok true ∧ right.evaluate world object = .ok true := by
  rw [← forall_partsIn_and matched leftSteady, ← forall_partsIn_and matched rightSteady,
    ← forall_partsIn_and matched (Steady.fold_iff.mpr ⟨leftSteady, rightSteady⟩)]
  rcases fold_eq .and left right with same | same
  · rw [same]
    exact List.forall_mem_append
  · rw [same, and_comm]
    exact List.forall_mem_append

end Predicate

namespace Chain

variable {world other : World} {object : Value}

/-- Nothing but AND is between the terms. -/
def Conjunctive (chain : Chain) : Prop := ∀ further ∈ chain.further, further.1 = .and

theorem foldFrom_steady {left : Predicate} {further : List (CompoundKind × Predicate)} :
    (foldFrom left further).Steady world other ↔
      left.Steady world other ∧ ∀ term ∈ further, term.2.Steady world other := by
  induction further with
  | nil => simp [foldFrom]
  | cons term before ih =>
      obtain ⟨kind, right⟩ := term
      rw [foldFrom, Predicate.Steady.fold_iff, ih, List.forall_mem_cons, and_assoc]
      exact and_congr_right fun _ => and_comm

theorem evaluate_foldFrom (matched : world.Matches world)
    {further : List (CompoundKind × Predicate)} (conjunctive : ∀ term ∈ further, term.1 = .and)
    {left : Predicate} (steady : (foldFrom left further).Steady world world) :
    (foldFrom left further).evaluate world object = .ok true ↔
      left.evaluate world object = .ok true ∧
        ∀ term ∈ further, term.2.evaluate world object = .ok true := by
  induction further with
  | nil => simp [foldFrom]
  | cons term before ih =>
      obtain ⟨kind, right⟩ := term
      obtain rfl : kind = .and := conjunctive (kind, right) (by simp)
      obtain ⟨front, own⟩ := Predicate.Steady.fold_iff.mp steady
      have rest := ih (fun term member => conjunctive term (by simp [member])) front
      simp only [foldFrom, Predicate.evaluate_fold_and matched front own, rest, List.forall_mem_cons]
      rw [and_assoc, and_comm (b := right.evaluate world object = .ok true)]

theorem foldFrom_append (left : Predicate) (later earlier : List (CompoundKind × Predicate)) :
    foldFrom left (later ++ earlier) = foldFrom (foldFrom left earlier) later := by
  induction later with
  | nil => rfl
  | cons other later ih => simp only [List.cons_append, foldFrom, ih]

theorem append_predicate (chain behind : Chain) : (chain.append behind).predicate =
    foldFrom (.fold .and chain.predicate behind.first) behind.further :=
  foldFrom_append chain.first behind.further _

theorem append_steady {chain behind : Chain} (before : chain.predicate.Steady world other)
    (after : behind.predicate.Steady world other) :
    (chain.append behind).predicate.Steady world other := by
  obtain ⟨first, further⟩ := foldFrom_steady.mp after
  rw [append_predicate]
  exact foldFrom_steady.mpr ⟨Predicate.Steady.fold_iff.mpr ⟨before, first⟩, further⟩

/-- Behind any terms a conjunction adds what it says by itself. -/
theorem evaluate_append (matched : world.Matches world) {chain behind : Chain}
    (conjunctive : behind.Conjunctive) (before : chain.predicate.Steady world world)
    (after : behind.predicate.Steady world world) :
    (chain.append behind).predicate.evaluate world object = .ok true ↔
      chain.predicate.evaluate world object = .ok true ∧
        behind.predicate.evaluate world object = .ok true := by
  have whole := append_steady before after
  rw [append_predicate] at whole ⊢
  rw [evaluate_foldFrom matched conjunctive whole,
    Predicate.evaluate_fold_and matched before (foldFrom_steady.mp after).1, and_assoc]
  exact and_congr_right fun _ => (evaluate_foldFrom matched conjunctive after).symm

theorem Conjunctive.append {chain behind : Chain} (before : chain.Conjunctive)
    (after : behind.Conjunctive) : (chain.append behind).Conjunctive := by
  intro other member
  rcases List.mem_append.mp member with member | member
  · exact after other member
  · rcases List.mem_cons.mp member with rfl | member
    · rfl
    · exact before other member

end Chain

theorem specifierText_cons (text next : String) (path : List String) :
    specifierText (text :: next :: path) = text ++ " AND " ++ specifierText (next :: path) :=
  String.intercalate_cons_cons

/-- Whether the text joins its terms with AND alone. -/
def ConjunctiveText (caseSensitive : Bool) (text : String) : Prop :=
  ∀ chain ∈ Chain.parse? text caseSensitive, chain.Conjunctive

/-- The joined text of a path holds where each of its texts does, if the nested ones are conjunctions. -/
theorem specifierText_chain {caseSensitive : Bool} {world : World} (matched : world.Matches world)
    (object : Value) (text : String) (path : List String)
    (accepted : ∀ part ∈ text :: path, ∃ chain ∈ Chain.parse? part caseSensitive,
      chain.predicate.Steady world world)
    (conjunctive : ∀ part ∈ path, ConjunctiveText caseSensitive part) :
    ∃ whole ∈ Chain.parse? (specifierText (text :: path)) caseSensitive,
      (ConjunctiveText caseSensitive text → whole.Conjunctive) ∧
      whole.predicate.Steady world world ∧
      (whole.predicate.evaluate world object = .ok true ↔
        ∀ part ∈ text :: path, ∃ chain ∈ Chain.parse? part caseSensitive,
          chain.predicate.evaluate world object = .ok true) := by
  induction path generalizing text with
  | nil =>
      obtain ⟨chain, found, steady⟩ := accepted text (by simp)
      have same : specifierText [text] = text := String.intercalate_singleton
      rw [same]
      refine ⟨chain, found, fun alone => alone chain found, steady, ?_⟩
      simp [Option.mem_def.mp found]
  | cons next path ih =>
      obtain ⟨chain, found, steady⟩ := accepted text (by simp)
      obtain ⟨behind, foundBehind, conjunctiveBehind, steadyBehind, holds⟩ := ih next
        (fun part member => accepted part (by simp [member]))
        fun part member => conjunctive part (by simp [member])
      have nested := conjunctiveBehind (conjunctive next (by simp))
      rw [specifierText_cons, Chain.parse?_and found foundBehind]
      refine ⟨chain.append behind, rfl, fun alone => (alone chain found).append nested,
        Chain.append_steady steady steadyBehind, ?_⟩
      rw [Chain.evaluate_append matched nested steady steadyBehind, holds]
      simp [Option.mem_def.mp found]

namespace PlacedRule

variable {text : String} {caseSensitive : Bool} {rules : List PlacedRule}

open Parse in
theorem parseAll_standing {property : String → Prop}
    (texts : Advances.Texts ⟨caseSensitive, []⟩ property)
    (accepted : PlacedRule.parseAll text caseSensitive = .ok rules) :
    ∀ placed ∈ rules, placed.Standing property := by
  unfold PlacedRule.parseAll at accepted
  have stands : Ground.Holds ⟨caseSensitive, []⟩
      { Parser.ofText text [] caseSensitive with trackLines := true } := ⟨rfl, rfl, rfl⟩
  have nothing : AllStanding property [] := nofun
  have comes := (Advances.rulesetsFrom texts caseSensitive nothing).comes _ stands
    (Nat.lt_succ_self _)
  have sensitive : (Parser.ofText text [] caseSensitive).scanner.caseSensitive = caseSensitive := rfl
  simp only [placedRules, trackLines, bind, EStateM.bind, scanner, sensitive] at accepted
  cases outcome : rulesetsFrom caseSensitive []
      { Parser.ofText text [] caseSensitive with trackLines := true } with
  | error error stop =>
      rw [outcome] at accepted
      cases accepted
  | ok found stop =>
      rw [outcome] at accepted comes
      dsimp only [Parse.scan] at accepted
      cases ends : stop.scanner.atEnd with
      | mk atEnd last =>
          rw [ends] at accepted
          cases atEnd with
          | true =>
              cases accepted
              exact AllStanding.flatten comes.2.2.2
          | false => cases accepted

theorem texts_accepted : Parse.Advances.Texts ⟨caseSensitive, []⟩ fun part =>
    ∃ predicate, Predicate.parse part [] caseSensitive = .ok predicate := by
  intro start part stop stands outcome
  have bare : Parse.Bare caseSensitive start := ⟨stands.skips, stands.caseSensitive, stands.arguments⟩
  rw [Parse.specifier_eq_map] at outcome
  simp only [Functor.map, EStateM.map] at outcome
  cases read : Parse.specifierInPlace start with
  | error error last =>
      rw [read] at outcome
      cases outcome
  | ok specifier last =>
      rw [read] at outcome
      cases outcome
      exact ⟨specifier.2, (Parse.specifierInPlace_ok bare read).2⟩

end PlacedRule

/-- A rule holds where every specifier text above it holds by itself, each at its own moment, if none of
the nested texts joins its terms with OR and none asks for a time or a random number that has changed. -/
theorem PlacedRule.inherits_iff {text : String} {caseSensitive : Bool} {rules : List PlacedRule}
    (accepted : PlacedRule.parseAll text caseSensitive = .ok rules) {placed : PlacedRule}
    (member : placed ∈ rules)
    (conjunctive : ∀ part ∈ placed.path.tail, ConjunctiveText caseSensitive part)
    (world : World) (others : String → World) (matched : ∀ part ∈ placed.path, world.Matches (others part))
    (steady : ∀ part ∈ placed.path, ∀ predicate, Predicate.parse part [] caseSensitive = .ok predicate →
      predicate.Steady world (others part))
    (object : Value) :
    placed.rule.specifier.evaluate world object = .ok true ↔
      ∀ part ∈ placed.path, ∃ predicate, Predicate.parse part [] caseSensitive = .ok predicate ∧
        predicate.evaluate (others part) object = .ok true := by
  obtain ⟨nonempty, reads⟩ := PlacedRule.parseAll_placed accepted placed member
  have parsed := (parseAll_standing texts_accepted accepted placed member).parts
  obtain ⟨first, path, whole⟩ := List.exists_cons_of_ne_nil nonempty
  rw [whole] at parsed conjunctive reads matched steady ⊢
  have found : ∀ part ∈ first :: path, ∃ chain ∈ Chain.parse? part caseSensitive,
      chain.predicate.Steady world world := by
    intro part listed
    obtain ⟨predicate, same⟩ := parsed part listed
    obtain ⟨chain, found, rfl⟩ := (Chain.parse_eq part caseSensitive predicate).mp same
    exact ⟨chain, found, (steady part listed _ same).symm.settled⟩
  have even : world.Matches world :=
    (matched first List.mem_cons_self).trans (matched first List.mem_cons_self).symm
  obtain ⟨joined, same, _, _, holds⟩ := specifierText_chain even object first path found conjunctive
  obtain ⟨chain, read, denotes⟩ := (Chain.parse_eq _ caseSensitive _).mp reads
  obtain rfl : joined = chain := Option.some.inj (same.symm.trans read)
  rw [← denotes, holds]
  constructor
  · intro all part listed
    obtain ⟨chain, found, true_⟩ := all part listed
    have read := (Chain.parse_eq _ _ _).mpr ⟨chain, found, rfl⟩
    have settled := Predicate.evaluate_of_matches (matched part listed) (steady part listed _ read) object
    exact ⟨chain.predicate, read, settled ▸ true_⟩
  · intro all part listed
    obtain ⟨predicate, same, true_⟩ := all part listed
    obtain ⟨chain, found, rfl⟩ := (Chain.parse_eq _ _ _).mp same
    have settled := Predicate.evaluate_of_matches (matched part listed) (steady part listed _ same) object
    exact ⟨chain, found, settled.trans true_⟩

/-- A disjunction of the outermost text does not matter. -/
theorem PlacedRule.inherits_from_disjunction :
    let outer := "FALSEPREDICATE OR 1 < 2"
    let inner := "NOT FALSEPREDICATE AND TRUEPREDICATE"
    let world : World := ⟨fun _ => .silent, fun _ _ _ => .ok .null⟩
    let other : World :=
      ⟨fun site => { Host.silent with random := fun _ => .ofNat site.length }, fun _ _ _ => .ok .null⟩
    ∃ rules placed,
      PlacedRule.parseAll
        "FALSEPREDICATE OR 1 < 2 \x7b NOT FALSEPREDICATE AND TRUEPREDICATE \x7b k: 'x' \x7d \x7d" false =
          .ok rules ∧
      placed ∈ rules ∧ placed.path = [outer, inner] ∧
      (∀ part ∈ placed.path.tail, ConjunctiveText false part) ∧ world.Matches other ∧
      (∀ part ∈ placed.path, ∀ predicate, Predicate.parse part [] false = .ok predicate →
        predicate.Steady world other) ∧
      ∀ object : Value, placed.rule.specifier.evaluate world object = .ok true ↔
        ∀ part ∈ placed.path, ∃ predicate, Predicate.parse part [] false = .ok predicate ∧
          predicate.evaluate other object = .ok true := by
  intro outer inner world other
  have read : (PlacedRule.parseAll
      "FALSEPREDICATE OR 1 < 2 \x7b NOT FALSEPREDICATE AND TRUEPREDICATE \x7b k: 'x' \x7d \x7d"
      false).toOption.map (List.map PlacedRule.path) = some [[outer, inner]] := by
    decide +kernel
  have joins : (Chain.parse? inner false).map (fun chain => chain.further.map Prod.fst) =
      some [.and] := by
    decide +kernel
  have timeless : ∀ part ∈ [outer, inner],
      (Predicate.parse part [] false).toOption.map (fun predicate => decide predicate.NeverTimed) =
        some true := by
    decide +kernel
  obtain ⟨rules, accepted, paths⟩ := Parse.ok_of_map_toOption read
  obtain ⟨placed, rest, rfl, path, -⟩ := List.map_eq_cons_iff.mp paths
  obtain ⟨nested, foundInner, kinds⟩ := Option.map_eq_some_iff.mp joins
  have member : placed ∈ placed :: rest := List.mem_cons_self
  have conjunctive : ∀ part ∈ placed.path.tail, ConjunctiveText false part := by
    rw [path]
    intro part listed chain found further behind
    obtain rfl := List.mem_singleton.mp listed
    obtain rfl := Option.some.inj (foundInner.symm.trans found)
    have kind : further.1 ∈ nested.further.map Prod.fst := List.mem_map_of_mem behind
    rw [kinds] at kind
    exact List.mem_singleton.mp kind
  have matched : world.Matches other := ⟨fun _ _ => ⟨rfl, rfl, rfl⟩, fun _ => rfl⟩
  have steady : ∀ part ∈ placed.path, ∀ predicate, Predicate.parse part [] false = .ok predicate →
      predicate.Steady world other := by
    rw [path]
    intro part listed predicate found
    have asked := timeless part listed
    rw [found] at asked
    exact Predicate.NeverTimed.steady (of_decide_eq_true (Option.some.inj asked)) world other
  exact ⟨_, placed, accepted, member, path, conjunctive, matched, steady, fun object =>
    PlacedRule.inherits_iff accepted member conjunctive world (fun _ => other) (fun _ _ => matched) steady
      object⟩

def Predicate.isEither : Predicate → Bool
  | .compound .or [.value false, .value true] => true
  | _ => false

def Predicate.isEscaped : Predicate → Bool
  | .compound .or [.compound .and [.value false, .value false], .value true] => true
  | _ => false

theorem Predicate.evaluate_either {predicate : Predicate} (either : predicate.isEither = true)
    (world : World) (object : Value) : predicate.evaluate world object = .ok true := by
  unfold isEither at either
  split at either
  next => rfl
  next => cases either

theorem Predicate.evaluate_escaped {predicate : Predicate} (escaped : predicate.isEscaped = true)
    (world : World) (object : Value) : predicate.evaluate world object = .ok true := by
  unfold isEscaped at escaped
  split at escaped
  next => rfl
  next => cases escaped

/-- What stands behind an OR in a nested text makes the rule hold under any condition. -/
theorem PlacedRule.nested_disjunction_escapes :
    ∃ rules placed nested,
      PlacedRule.parseAll
        "FALSEPREDICATE \x7b FALSEPREDICATE OR TRUEPREDICATE \x7b k: 'x' \x7d \x7d" false = .ok rules ∧
      placed ∈ rules ∧
      placed.path = ["FALSEPREDICATE", "FALSEPREDICATE OR TRUEPREDICATE"] ∧
      Predicate.parse "FALSEPREDICATE" [] false = .ok (.value false) ∧
      Predicate.parse "FALSEPREDICATE OR TRUEPREDICATE" [] false = .ok nested ∧
      ∀ (world : World) (object : Value), nested.evaluate world object = .ok true ∧
        placed.rule.specifier.evaluate world object = .ok true := by
  have read : (PlacedRule.parseAll
      "FALSEPREDICATE \x7b FALSEPREDICATE OR TRUEPREDICATE \x7b k: 'x' \x7d \x7d" false).toOption.map
        (List.map fun placed => (placed.path, placed.rule.specifier.isEscaped)) =
      some [(["FALSEPREDICATE", "FALSEPREDICATE OR TRUEPREDICATE"], true)] := by
    decide +kernel
  have inner : (Predicate.parse "FALSEPREDICATE OR TRUEPREDICATE" [] false).toOption.map
      Predicate.isEither = some true := by
    decide +kernel
  obtain ⟨rules, accepted, seen⟩ := Parse.ok_of_map_toOption read
  obtain ⟨placed, rest, rfl, same, -⟩ := List.map_eq_cons_iff.mp seen
  obtain ⟨path, escaped⟩ := Prod.mk.inj same
  obtain ⟨nested, acceptedInner, either⟩ := Parse.ok_of_map_toOption inner
  exact ⟨_, placed, nested, accepted, List.mem_cons_self, path, rfl, acceptedInner,
    fun world object => ⟨Predicate.evaluate_either either world object,
      Predicate.evaluate_escaped escaped world object⟩⟩

end PredicateRules
