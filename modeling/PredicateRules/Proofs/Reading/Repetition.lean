import PredicateRules.Proofs.Reading.Setting

namespace PredicateRules.Parse

open PredicateRules.Parser

section

variable {α β : Type} {step : (α → Parse β) → α → Parse β} {depth : Nat}
  (grows : ∀ room (again other : α → Parse β),
    (∀ next parser, parser.At room depth → again next parser = other next parser) →
    ∀ current parser, parser.At (room + 1) depth → step again current parser = step other current parser)

include grows

theorem recurseTo_eq {room fuel other : Nat} (enough : room ≤ fuel) (enoughOther : room ≤ other)
    (current : α) {parser : Parser} (place : parser.At room depth) :
    recurseTo step fuel current parser = recurseTo step other current parser := by
  induction room generalizing fuel other current parser with
  | zero => exact absurd place.room (Nat.not_lt_zero _)
  | succ room ih =>
      obtain ⟨fuel, rfl⟩ : ∃ rest, fuel = rest + 1 := ⟨fuel - 1, by omega⟩
      obtain ⟨other, rfl⟩ : ∃ rest, other = rest + 1 := ⟨other - 1, by omega⟩
      exact grows room _ _ (fun next _ there => ih (by omega) (by omega) next there) current _ place

theorem recurse_eq (current : α) {room : Nat} {parser : Parser} (place : parser.At room depth) :
    recurse step current parser = step (recurse step) current parser := by
  have length := parser.ahead_length
  refine grows parser.scanner.ahead.length _ _ (fun next other there => ?_) current _ place.tight
  have lengthOther := other.ahead_length
  have inside := there.room
  exact recurseTo_eq grows (by omega) (Nat.succ_le_succ lengthOther) next there.tight

end

/-- What a repetition comes to, from what its first step comes to. -/
theorem repeatWhile_eq {α : Type} {step : α → Parse (Option α)} {depth : Nat}
    (takes : ∀ room current parser, parser.At (room + 1) depth → ∀ next after,
      step current parser = .ok (some next) after → after.At room depth)
    (current : α) {room : Nat} {parser : Parser} (place : parser.At room depth) :
    repeatWhile step current parser =
      match step current parser with
      | .ok (some next) after => repeatWhile step next after
      | .ok none after => .ok current after
      | .error error after => .error error after := by
  refine (recurse_eq ?_ current place).trans ?_
  · intro room again other same current parser place
    simp only [bind, EStateM.bind]
    cases outcome : step current parser with
    | error error after => rfl
    | ok next after =>
        cases next with
        | none => rfl
        | some next => exact same next after (takes room current parser place next after outcome)
  · simp only [bind, EStateM.bind]
    cases step current parser with
    | error error after => rfl
    | ok next after => cases next <;> rfl

theorem repeatWhile_of_none {α : Type} {step : α → Parse (Option α)} {current : α}
    {parser after : Parser} (finished : step current parser = .ok none after) :
    repeatWhile step current parser = .ok current after := by
  simp only [repeatWhile, recurse, recurseTo, bind, EStateM.bind, finished]
  rfl

end PredicateRules.Parse
