import PredicateRules.Proofs.Cutting.Expression

namespace PredicateRules.Parse.Draws

variable {α : Type} {room roomAgain : Nat}

theorem comparisonOptions :
    Draws room roomAgain Parse.comparisonOptions Parse.comparisonOptions fun _ => false := by
  refine branch (.literal (by decide) (by decide)) (.pure rfl) ?_
  refine branch (.literal (by decide) (by decide)) (.pure rfl) ?_
  exact branch (.literal (by decide) (by decide)) (.pure rfl) (.pure rfl)

theorem modifierWords_worded : ∀ entry ∈ Parse.modifierWords, Solid entry.1 ∧ Worded entry.1 := by
  decide

theorem operatorWords_worded : ∀ entry ∈ Parse.operatorWords, Solid entry.1 ∧ Worded entry.1 := by
  decide

theorem conjunctionWords_worded : ∀ entry ∈ Parse.conjunctionWords, Solid entry.1 ∧ Worded entry.1 := by
  decide

theorem comparison (which : Parser → Nat) :
    Draws room roomAgain (Parse.comparison which) (Parse.comparison which) fun _ => true := by
  refine bind (.firstKeyword modifierWords_worded) fun modifier => ?_
  refine bind (expressionWith which) fun left => ?_
  refine bind (.firstKeyword operatorWords_worded) fun operator => ?_
  cases operator with
  | none => exact .fail
  | some operator =>
      refine bind comparisonOptions fun options => ?_
      exact bind (expressionWith which) fun right => .pure (by simp)

section

variable {term termAgain : Parse Predicate}

theorem furtherTerm (inner : Draws (room - 1) (roomAgain - 1) term termAgain fun _ => true) :
    Draws room roomAgain (Parse.furtherTerm term) (Parse.furtherTerm termAgain) Option.isSome := by
  refine bind (.firstKeyword conjunctionWords_worded) fun kind => ?_
  cases kind with
  | none => exact .pure rfl
  | some kind => exact returns inner (fun right => some (kind, right)) (by simp)

theorem joinFrom (inner : Draws (room - 1) (roomAgain - 1) term termAgain fun _ => true)
    (join : CompoundKind → α → Predicate → α) (left : α) :
    Draws room roomAgain (Parse.joinFrom join term left) (Parse.joinFrom join termAgain left)
      fun _ => false := by
  refine repeatWhile (fun current => ?_) left
  exact returns (furtherTerm inner) (Option.map fun further => join further.1 current further.2) (by simp)

variable (inner : Draws room roomAgain term termAgain fun _ => true)

include inner

theorem terms : Draws room roomAgain (Parse.terms term) (Parse.terms termAgain) fun _ => true := by
  refine bind inner fun first => ?_
  have further : Draws (room - 1 - 1) (roomAgain - 1 - 1) term termAgain fun _ => true :=
    inner.mono (by omega) (by omega)
  exact (joinFrom further Predicate.fold first).weaken (by simp)

theorem parenthesized :
    Draws room roomAgain (Parse.parenthesized term) (Parse.parenthesized termAgain) fun _ => true := by
  refine bind (terms inner) fun found => ?_
  exact returns (.expect (by decide) (by decide) "predicate") (fun _ => found) (by simp)

end

end PredicateRules.Parse.Draws
