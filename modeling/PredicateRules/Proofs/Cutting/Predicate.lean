import PredicateRules.Proofs.Cutting.Parenthesis

namespace PredicateRules.Parse

open PredicateRules.Parser

variable {room roomAgain : Nat}

theorem termTo_tracks {fuel : Nat} (enough : room ≤ fuel) :
    (Setting.behind []).Tracks room (termTo Parser.nextArgument fuel) (termTo Parser.nextArgument fuel) := by
  induction fuel generalizing room with
  | zero =>
      intro less bound base depth inside
      obtain rfl : less = 0 := by omega
      exact Setting.FollowsAs.vacuous
  | succ fuel ih =>
      have consumes : (Setting.behind []).Consumes fuel (termTo Parser.nextArgument (fuel + 1))
          (termTo Parser.nextArgument (fuel + 1)) :=
        Setting.termWith (ih (Nat.le_refl fuel))
      intro less bound
      exact consumes.tracks less (by omega)

namespace Draws

section

variable {term termAgain : Parse Predicate}

theorem termWith (terms : Mutual (room - 1) (roomAgain - 1) term termAgain fun _ => true)
    (tracks : (Setting.behind []).Tracks (roomAgain - 1) termAgain termAgain) :
    Draws room roomAgain (Parse.termWith Parser.nextArgument term)
      (Parse.termWith Parser.nextArgument termAgain) fun _ => true := by
  refine bind (opened? terms tracks) fun opened => ?_
  cases opened with
  | some opened => exact .pure rfl
  | none => ?_
  have negation : Draws (room - 1) (roomAgain - 1) (do return Predicate.negation (← term))
      (do return Predicate.negation (← termAgain)) fun _ => false :=
    returns terms.there Predicate.negation (by simp)
  refine branch (.keyword (by decide) (by decide)) negation ?_
  refine branch (.keyword (by decide) (by decide)) negation ?_
  refine branch (.keyword (by decide) (by decide)) (.pure rfl) ?_
  refine branch (.keyword (by decide) (by decide)) (.pure rfl) ?_
  exact comparison _

end

theorem termTo {bound : Nat} (within : room ≤ bound) (withinAgain : roomAgain ≤ bound)
    {fuel fuelAgain : Nat} (enough : room ≤ fuel) (enoughAgain : roomAgain ≤ fuelAgain) :
    Draws room roomAgain (Parse.termTo Parser.nextArgument fuel)
      (Parse.termTo Parser.nextArgument fuelAgain) fun _ => true := by
  induction bound generalizing room roomAgain fuel fuelAgain with
  | zero =>
      obtain rfl := Nat.le_zero.mp within
      exact vacuous
  | succ bound ih =>
      cases room with
      | zero => exact vacuous
      | succ room =>
          obtain ⟨fuel, rfl⟩ : ∃ rest, fuel = rest + 1 := ⟨fuel - 1, by omega⟩
          cases roomAgain with
          | zero =>
              have self : Draws room room (Parse.termTo Parser.nextArgument fuel)
                  (Parse.termTo Parser.nextArgument fuel) fun _ => true :=
                ih (by omega) (by omega) (by omega) (by omega)
              have step : Draws (room + 1) (room + 1) (Parse.termTo Parser.nextArgument (fuel + 1))
                  (Parse.termTo Parser.nextArgument (fuel + 1)) fun _ => true :=
                termWith ⟨self, self, self, self⟩ (termTo_tracks (by omega))
              exact step.blind
          | succ roomAgain =>
              obtain ⟨fuelAgain, rfl⟩ : ∃ rest, fuelAgain = rest + 1 := ⟨fuelAgain - 1, by omega⟩
              refine termWith ⟨?_, ?_, ?_, ?_⟩ (termTo_tracks (by omega))
              all_goals exact ih (by omega) (by omega) (by omega) (by omega)

theorem predicate : Draws room roomAgain Parse.predicate Parse.predicate fun _ => true := by
  have term : Draws room roomAgain (Parse.termOf Parser.nextArgument) (Parse.termOf Parser.nextArgument)
      fun _ => true :=
    deepens fun less within lessAgain withinAgain fuel fuelAgain enough enoughAgain =>
      termTo (Nat.le_trans within (Nat.le_max_left room roomAgain))
        (Nat.le_trans withinAgain (Nat.le_max_right room roomAgain)) enough enoughAgain
  exact terms term

end Draws

end PredicateRules.Parse
