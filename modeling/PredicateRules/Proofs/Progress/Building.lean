import PredicateRules.Proofs.Progress.Predicate

namespace PredicateRules

namespace Predicate

/-- It holds of what stands by itself, and of everything that a rule of the grammar makes of parts that it
holds of. -/
structure Built (property : Predicate → Prop) : Prop where
  value (holds : Bool) : property (value holds)
  comparison (operands : Comparison) : property (comparison operands)
  negation {part : Predicate} : property part → property (negation part)
  fold {kind : CompoundKind} {left right : Predicate} : kind ≠ .not → property left → property right →
    property (fold kind left right)

end Predicate

namespace Parse

variable {property : Predicate → Prop} {term : Parse Predicate}

section

variable {α : Type} {whole : α → Prop} (yields : Yields term property)

include yields

theorem furtherTerm_yields : Yields (furtherTerm term) fun found =>
    ∀ further ∈ found, further.1 ≠ .not ∧ property further.2 := by
  refine Yields.bind (firstKeyword_yields _) fun kind listed => ?_
  cases kind with
  | none => exact Yields.pure nofun
  | some kind =>
      refine Yields.bind yields fun right holds => Yields.pure ?_
      rintro _ ⟨⟩
      refine ⟨?_, holds⟩
      obtain ⟨entry, member, same⟩ := listed kind rfl
      exact same ▸ (show ∀ entry ∈ conjunctionWords, entry.2 ≠ .not by decide) entry member

theorem joinFrom_yields {join : CompoundKind → α → Predicate → α}
    (joins : ∀ kind left right, kind ≠ .not → whole left → property right → whole (join kind left right))
    {left : α} (holds : whole left) : Yields (joinFrom join term left) whole := by
  unfold joinFrom repeatWhile
  refine Yields.recurse whole (fun again further current good => ?_) holds
  have step : Yields (joinStep join term current) fun next => ∀ found ∈ next, whole found := by
    refine Yields.bind (furtherTerm_yields yields) fun found others => Yields.pure ?_
    intro next member
    obtain ⟨right, same, rfl⟩ := Option.map_eq_some_iff.mp (Option.mem_def.mp member)
    obtain ⟨kind, holdsRight⟩ := others right same
    exact joins right.1 current right.2 kind good holdsRight
  refine Yields.bind step fun next more => ?_
  cases next with
  | none => exact Yields.pure good
  | some next => exact further next (more next rfl)

end

section

variable (built : Predicate.Built property)

include built

theorem terms_yields (yields : Yields term property) : Yields (terms term) property := by
  refine Yields.bind yields fun first holds => ?_
  exact joinFrom_yields yields (fun kind left right => built.fold) holds

theorem parenthesized_yields (yields : Yields term property) : Yields (parenthesized term) property :=
  Yields.bind (terms_yields built yields) fun _ holds =>
    Yields.bind (Yields.anything _) fun _ _ => Yields.pure holds

theorem comparison_yields (which : Parser → Nat) : Yields (comparison which) property := by
  refine Yields.bind (Yields.anything _) fun found _ => ?_
  rcases found.getD (.direct, false) with ⟨modifier, negates⟩
  refine Yields.bind (Yields.anything _) fun left _ => ?_
  refine Yields.bind (Yields.anything _) fun operator _ => ?_
  cases operator with
  | none => exact Yields.fail _
  | some operator =>
      refine Yields.bind (Yields.anything _) fun options _ => ?_
      refine Yields.bind (Yields.anything _) fun right _ => Yields.pure ?_
      cases negates with
      | true => exact built.negation (built.comparison _)
      | false => exact built.comparison _

theorem opened?_yields (which : Parser → Nat) (yields : Yields term property) :
    Yields (opened? which term) fun found => ∀ opened ∈ found, property opened := by
  intro start found stop outcome opened member
  obtain rfl := Option.mem_def.mp member
  rw [Setting.opened?_literal] at outcome
  split at outcome
  next place _ =>
    split at outcome
    next inner last same =>
      cases outcome
      exact parenthesized_yields built yields _ _ _ same
    next error failed _ =>
      split at outcome
      next operands last same =>
        cases outcome
        exact comparison_yields built which _ _ _ same
      next => cases outcome
  next => cases outcome
  next => cases outcome

theorem termOf_yields (which : Parser → Nat) : Yields (termOf which) property := by
  refine Yields.recurse (fun _ => True) (fun again yields start _ => ?_) trivial
  have term : Yields (again ()) property := yields () trivial
  refine Yields.bind (opened?_yields built which term) fun opened holds => ?_
  cases opened with
  | some opened => exact Yields.pure (holds opened rfl)
  | none => ?_
  have negation : Yields (do return Predicate.negation (← again ())) property :=
    Yields.bind term fun _ holds => Yields.pure (built.negation holds)
  refine Yields.bind (Yields.anything _) fun met _ => ?_
  cases met with
  | true => exact negation
  | false => ?_
  refine Yields.bind (Yields.anything _) fun met _ => ?_
  cases met with
  | true => exact negation
  | false => ?_
  refine Yields.bind (Yields.anything _) fun met _ => ?_
  cases met with
  | true => exact Yields.pure (built.value true)
  | false => ?_
  refine Yields.bind (Yields.anything _) fun met _ => ?_
  cases met with
  | true => exact Yields.pure (built.value false)
  | false => exact comparison_yields built which

theorem predicateWith_yields (which : Parser → Nat) : Yields (predicateWith which) property :=
  terms_yields built (termOf_yields built which)

end

end Parse

end PredicateRules
