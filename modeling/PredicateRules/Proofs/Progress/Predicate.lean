import PredicateRules.Proofs.Progress.Expression

namespace PredicateRules.Parse.Advances

variable {α : Type} {ground : Ground} {room : Nat} {term other : Parse Predicate}

theorem comparison (which : Parser → Nat) :
    Advances ground room (Parse.comparison which) (Parse.comparison which) (fun _ => true) fun _ => True :=
  of_draws (.comparison which)

theorem furtherTerm (inner : Advances ground (room - 1) term other (fun _ => true) fun _ => True) :
    Advances ground room (Parse.furtherTerm term) (Parse.furtherTerm other) Option.isSome
      fun _ => True := by
  refine bind (.firstKeyword Draws.conjunctionWords_worded) fun kind _ => ?_
  cases kind with
  | none => exact .pure rfl trivial
  | some kind => exact returns inner (by simp) fun _ _ => trivial

theorem joinStep (inner : Advances ground (room - 1) term other (fun _ => true) fun _ => True)
    (join : CompoundKind → α → Predicate → α) (left : α) :
    Advances ground room (Parse.joinStep join term left) (Parse.joinStep join other left) Option.isSome
      fun _ => True :=
  returns (furtherTerm inner) (by simp) fun _ _ => trivial

theorem joinFrom (inner : Advances ground (room - 1) term other (fun _ => true) fun _ => True)
    (join : CompoundKind → α → Predicate → α) (left : α) :
    Advances ground room (Parse.joinFrom join term left) (Parse.joinFrom join other left)
      (fun _ => false) fun _ => True :=
  repeatWhile (fun current _ => (joinStep inner join current).weaken (by simp) (by simp)) trivial

section

variable (inner : Advances ground room term other (fun _ => true) fun _ => True)

include inner

theorem terms : Advances ground room (Parse.terms term) (Parse.terms other) (fun _ => true)
    fun _ => True := by
  refine bind inner fun first _ => ?_
  exact (joinFrom (inner.mono (by omega)) Predicate.fold first).weaken (by simp) fun _ => id

theorem parenthesized : Advances ground room (Parse.parenthesized term) (Parse.parenthesized other)
    (fun _ => true) fun _ => True := by
  refine bind (terms inner) fun found _ => ?_
  exact returns (.expect (by decide) "predicate") (by simp) fun _ _ => trivial

end

section

variable (inner : Advances ground (room - 1) term other (fun _ => true) fun _ => True)

include inner

theorem opened? (which : Parser → Nat) :
    Advances ground room (Parse.opened? which term) (Parse.opened? which other) Option.isSome
      fun _ => True where
  comes start stands inside := by
    have opening : Advances ground room (Parse.literal "(") (Parse.literal "(") id fun _ => True :=
      literal (by decide)
    have opens := opening.comes start stands inside
    rw [Setting.opened?_literal]
    cases outcome : Parse.literal "(" start with
    | error error stop =>
        rw [outcome] at opens
        exact opens
    | ok found opened =>
        rw [outcome] at opens
        have ⟨kept, moves, shorter, _⟩ := opens
        cases found with
        | false => exact ⟨kept, moves, shorter, trivial⟩
        | true =>
            have less : opened.scanner.ahead.length + 1 ≤ start.scanner.ahead.length := shorter
            have comes := (parenthesized inner).comes opened kept (by omega)
            dsimp only
            cases outcomeInner : Parse.parenthesized term opened with
            | ok found stop =>
                rw [outcomeInner] at comes
                obtain ⟨keptInner, movesInner, shorterInner, _⟩ := comes
                exact opens.trans ⟨keptInner, movesInner, Nat.le_of_add_right_le shorterInner, trivial⟩
            | error error failed =>
                rw [outcomeInner] at comes
                -- The parenthesis opened no predicate: a comparison is read from where it stands.
                have again := (comparison which).comes (failed.back start) (comes.back start) inside
                dsimp only
                cases outcomeAgain : Parse.comparison which (failed.back start) with
                | error _ stop =>
                    rw [outcomeAgain] at again
                    exact again
                | ok operands stop =>
                    rw [outcomeAgain] at again
                    obtain ⟨keptAgain, ⟨crossedAgain, movesAgain⟩, shorterAgain, _⟩ := again
                    exact ⟨keptAgain, ⟨_, (stands.moves_back comes).trans movesAgain⟩, shorterAgain,
                      trivial⟩
  same start stands inside := by
    have opening : Advances ground room (Parse.literal "(") (Parse.literal "(") id fun _ => True :=
      literal (by decide)
    have opens := opening.comes start stands inside
    rw [Setting.opened?_literal, Setting.opened?_literal]
    cases outcome : Parse.literal "(" start with
    | error error stop => rfl
    | ok found opened =>
        rw [outcome] at opens
        obtain ⟨kept, _, shorter, _⟩ := opens
        cases found with
        | false => rfl
        | true =>
            have less : opened.scanner.ahead.length + 1 ≤ start.scanner.ahead.length := shorter
            dsimp only
            rw [(parenthesized inner).same opened kept (by omega)]

theorem termWith (which : Parser → Nat) :
    Advances ground room (Parse.termWith which term) (Parse.termWith which other) (fun _ => true)
      fun _ => True := by
  refine bind (opened? inner which) fun opened _ => ?_
  cases opened with
  | some opened => exact .pure rfl trivial
  | none => ?_
  have negation : Advances ground (room - 1) (do return Predicate.negation (← term))
      (do return Predicate.negation (← other)) (fun _ => false) fun _ => True :=
    returns inner (by simp) fun _ _ => trivial
  refine branch (.keyword (by decide) (by decide)) negation ?_
  refine branch (.keyword (by decide) (by decide)) negation ?_
  refine branch (.keyword (by decide) (by decide)) (.pure rfl trivial) ?_
  refine branch (.keyword (by decide) (by decide)) (.pure rfl trivial) ?_
  exact comparison which

end

theorem termOf (which : Parser → Nat) :
    Advances ground room (Parse.termOf which) (Parse.termOf which) (fun _ => true) fun _ => True :=
  recurse (fun _ => True) (fun _ _ _ _ inner _ _ => termWith (inner () trivial) which) trivial

theorem predicateWith (which : Parser → Nat) :
    Advances ground room (Parse.predicateWith which) (Parse.predicateWith which) (fun _ => true)
      fun _ => True :=
  terms (termOf which)

end PredicateRules.Parse.Advances
