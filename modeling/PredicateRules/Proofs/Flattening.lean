import PredicateRules.Proofs.Evaluation.Decision
import PredicateRules.Proofs.Inference.Firing
import PredicateRules.Proofs.Progress.Building

namespace PredicateRules.Predicate

/-- A negation has one part; a conjunction and a disjunction have two parts or more, none of which is a
compound of the same kind. -/
inductive Flattened : Predicate → Prop where
  | value (holds : Bool) : Flattened (.value holds)
  | comparison (operands : Comparison) : Flattened (.comparison operands)
  | negation {part : Predicate} (flattened : Flattened part) : Flattened (negation part)
  | compound {kind : CompoundKind} {parts : List Predicate} (joins : kind ≠ .not)
      (several : 2 ≤ parts.length) (apart : ∀ part ∈ parts, part.partsOf? kind = none)
      (flattened : ∀ part ∈ parts, Flattened part) : Flattened (compound kind parts)

namespace Flattened

variable {kind : CompoundKind} {predicate left right : Predicate}

theorem of_partsOf? (flattened : predicate.Flattened) (joins : kind ≠ .not) {parts : List Predicate}
    (found : predicate.partsOf? kind = some parts) :
    2 ≤ parts.length ∧ ∀ part ∈ parts, part.partsOf? kind = none ∧ part.Flattened := by
  obtain rfl := eq_compound_of_partsOf? found
  cases flattened with
  | negation _ => exact absurd rfl joins
  | compound _ several apart each => exact ⟨several, fun part member => ⟨apart part member, each part member⟩⟩

theorem partsIn (flattened : predicate.Flattened) (joins : kind ≠ .not) :
    1 ≤ (predicate.partsIn kind).length ∧
      ∀ part ∈ predicate.partsIn kind, part.partsOf? kind = none ∧ part.Flattened := by
  unfold Predicate.partsIn
  cases found : predicate.partsOf? kind with
  | some parts =>
      obtain ⟨several, each⟩ := flattened.of_partsOf? joins found
      exact ⟨Nat.le_of_succ_le several, each⟩
  | none => exact ⟨Nat.le_refl 1, List.forall_mem_singleton.mpr ⟨found, flattened⟩⟩

theorem compound_partsIn (joins : kind ≠ .not) (first : left.Flattened) (second : right.Flattened) :
    (Predicate.compound kind (left.partsIn kind ++ right.partsIn kind)).Flattened := by
  obtain ⟨some, each⟩ := first.partsIn joins
  obtain ⟨others, eachOther⟩ := second.partsIn joins
  have all := List.forall_mem_append.mpr ⟨each, eachOther⟩
  refine .compound joins ?_ (fun part member => (all part member).1) fun part member => (all part member).2
  rw [List.length_append]
  exact Nat.add_le_add some others

theorem fold (joins : kind ≠ .not) (first : left.Flattened) (second : right.Flattened) :
    (Predicate.fold kind left right).Flattened := by
  rcases fold_eq kind left right with same | same
  · exact same ▸ compound_partsIn joins first second
  · exact same ▸ compound_partsIn joins second first

theorem built : Built Flattened where
  value := .value
  comparison := .comparison
  negation := .negation
  fold := fold

end Flattened

/-- What is read is flat, on any text and with any arguments. What is joined says what both sides say by
themselves, at whatever moments the three are evaluated, although the parts of the right side may come
to stand first, if wherever they ask for the time or for a random number they get the same; among contexts
it is enough that their rules ask for neither. -/
theorem read_flattened_and_fold_joins :
    (∀ (which : Parser → Nat) (parser : Parser) (predicate : Predicate) (after : Parser),
      Parse.predicateWith which parser = .ok predicate after → predicate.Flattened) ∧
    (∀ (here there world : World), here.Matches world → there.Matches world →
      ∀ (object : Value) (left right : Predicate), left.Steady here world → right.Steady there world →
      ∀ first second : Bool,
      left.evaluate here object = .ok first → right.evaluate there object = .ok second →
      (fold .and left right).evaluate world object = .ok (first && second) ∧
        (fold .or left right).evaluate world object = .ok (first || second)) ∧
    ∀ contexts : Contexts, contexts.Timeless → ∀ program other : Program, program.Agrees other →
      ∀ (inferring : Inferring) (trail : List Site),
        (contexts.world program inferring trail).Matches (contexts.world other inferring trail) := by
  refine ⟨Parse.predicateWith_yields Flattened.built, ?_, fun contexts timeless program other agrees =>
    Contexts.world_matches timeless agrees⟩
  intro here there world matchesHere matchesThere object left right leftSteady rightSteady first second
    leftHolds rightHolds
  have folds {kind : CompoundKind} (joins : kind ≠ .not) :=
    evaluate_fold joins matchesHere matchesThere leftSteady rightSteady leftHolds rightHolds
  constructor
  · rw [folds (show CompoundKind.and ≠ .not by decide)]
    cases first <;> rfl
  · rw [folds (show CompoundKind.or ≠ .not by decide)]
    cases first <;> rfl

/-- A mixed chain of a negation and of terms in parentheses; and a disjunction on the right, of which the
parts come to stand before the comparison on the left, which infers two keys of a context. -/
theorem read_flattened_and_fold_joins_reordered :
    let here := (Contexts.chained 2).world .silent [] []
    let there := (Contexts.chained 2).world .restless [] []
    let world := (Contexts.chained 2).world .restless [] []
    let object := Contexts.subject 0 []
    let left := direct (.keyPath "outer") .equalTo (.constant (.bool true))
    let right := disjunction [value false, value true]
    (∃ predicate after, Parse.predicate (Parser.ofText
        "TRUEPREDICATE OR ! (FALSEPREDICATE AND 1 < 2) OR (TRUEPREDICATE OR NONE {1} = 2)" [] true) =
          .ok predicate after ∧ predicate.Flattened) ∧
      here.Matches world ∧ there.Matches world ∧ left.Steady here world ∧ right.Steady there world ∧
      left.evaluate here object = .ok true ∧ right.evaluate there object = .ok true ∧
      fold .or left right = disjunction [value false, value true, left] ∧
      (fold .or left right).evaluate world object = .ok (true || true) := by
  intro here there world object left right
  have read : (Parse.outcome? Parse.predicate (Parser.ofText
      "TRUEPREDICATE OR ! (FALSEPREDICATE AND 1 < 2) OR (TRUEPREDICATE OR NONE {1} = 2)" [] true)).isSome =
        true := by
    decide +kernel
  obtain ⟨predicate, found⟩ := Option.isSome_iff_exists.mp read
  obtain ⟨after, outcome⟩ := Parse.ok_of_outcome? found
  have matchesHere : here.Matches world := read_flattened_and_fold_joins.2.2 (.chained 2)
    (Contexts.timeless_chained 2) .silent .restless Program.silent_agrees [] []
  have matchesThere : there.Matches world := matchesHere.symm.trans matchesHere
  have leftSteady : left.Steady here world := by
    refine NeverTimed.steady ?_ here world
    simp [left, direct, NeverTimed, expressions, Expression.parts, Expression.Timeless]
  have rightSteady : right.Steady there world := by
    refine NeverTimed.steady ?_ there world
    simp [right, disjunction, NeverTimed, expressions, expressionsOfEach]
  have leftHolds : left.evaluate here object = .ok true := rfl
  have rightHolds : right.evaluate there object = .ok true := rfl
  exact ⟨⟨predicate, after, outcome, read_flattened_and_fold_joins.1 _ _ _ _ outcome⟩, matchesHere,
    matchesThere, leftSteady, rightSteady, leftHolds, rightHolds, rfl,
    (read_flattened_and_fold_joins.2.1 here there world matchesHere matchesThere object left right leftSteady
      rightSteady true true leftHolds rightHolds).2⟩

end PredicateRules.Predicate
