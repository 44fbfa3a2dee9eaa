import PredicateRules.Proofs.Cutting.Predicate
import PredicateRules.Proofs.PlacedRules

/-!
Steps that get on in the text. Wherever a step is taken, it stays in the text and keeps the case policy
and the arguments, and what it reads has a property that the grammar builds up. All that it does with a
part of itself it does further on, so that part may be replaced by anything that is the same there.
-/

namespace PredicateRules.Parse

/-- What every step of a reading keeps, besides what is skipped between tokens. -/
structure Ground where
  caseSensitive : Bool
  arguments : List Value

/-- The parser stands on the ground, at any place of any text. -/
structure Ground.Holds (ground : Ground) (parser : Parser) : Prop where
  skips : parser.scanner.skips = some CharClass.skipped
  caseSensitive : parser.scanner.caseSensitive = ground.caseSensitive
  arguments : parser.arguments = ground.arguments

def Ground.of (parser : Parser) : Ground := ⟨parser.scanner.caseSensitive, parser.arguments⟩

namespace Ground

variable {ground : Ground} {start stop : Parser}

theorem holds_of (skips : start.scanner.skips = some CharClass.skipped) : (of start).Holds start :=
  ⟨skips, rfl, rfl⟩

theorem Holds.spared (holds : ground.Holds start) (spared : start.Spared stop) : ground.Holds stop where
  skips := spared.skips.trans holds.skips
  caseSensitive := spared.caseSensitive.trans holds.caseSensitive
  arguments := spared.arguments.trans holds.arguments

theorem Holds.back (holds : ground.Holds stop) (start : Parser) : ground.Holds (stop.back start) :=
  ⟨holds.skips, holds.caseSensitive, holds.arguments⟩

theorem Holds.moves_back (holds : ground.Holds start) (failed : ground.Holds stop) :
    start.scanner.Moves (stop.back start).scanner [] :=
  ⟨rfl, rfl, failed.skips.trans holds.skips.symm,
    failed.caseSensitive.trans holds.caseSensitive.symm⟩

end Ground

def repeatStep (step : α → Parse (Option α)) (again : α → Parse α) (current : α) : Parse α := do
  match ← step current with
  | some next => again next
  | none => return current

/-- Where a step comes to: further on by a character at the least if it spends, with a result that has
the property. -/
def Comes (ground : Ground) (start : Parser) (spends : α → Bool) (made : α → Prop) :
    EStateM.Result ParseError Parser α → Prop
  | .ok result stop => ground.Holds stop ∧ (∃ crossed, start.scanner.Moves stop.scanner crossed) ∧
      stop.scanner.ahead.length + (spends result).toNat ≤ start.scanner.ahead.length ∧ made result
  | .error _ stop => ground.Holds stop

theorem Comes.trans {γ : Type} {ground : Ground} {start place : Parser} {spendsFirst : γ → Bool}
    {middle : γ → Prop} {spends : α → Bool} {made : α → Prop} {found : γ}
    {outcome : EStateM.Result ParseError Parser α}
    (before : Comes ground start spendsFirst middle (.ok found place))
    (after : Comes ground place (fun result => spends result && !spendsFirst found) made outcome) :
    Comes ground start spends made outcome := by
  obtain ⟨_, ⟨crossed, moves⟩, shorter, _⟩ := before
  cases outcome with
  | error error stop => exact after
  | ok result stop =>
      obtain ⟨kept, ⟨crossedNext, movesNext⟩, shorterNext, holds⟩ := after
      refine ⟨kept, ⟨_, moves.trans movesNext⟩, ?_, holds⟩
      cases spent : spendsFirst found <;> simp only [spent, Bool.not_true, Bool.not_false,
        Bool.and_true, Bool.and_false, Bool.toNat_true, Bool.toNat_false] at shorter shorterNext
      · omega
      · have := Bool.toNat_le (spends result)
        omega

/-- With less than `room` characters ahead the step gets on, and the other one is the same. -/
structure Advances (ground : Ground) (room : Nat) (step other : Parse α) (spends : α → Bool)
    (made : α → Prop) : Prop where
  comes : ∀ start, ground.Holds start → start.scanner.ahead.length < room →
    Comes ground start spends made (step start)
  same : ∀ start, ground.Holds start → start.scanner.ahead.length < room → other start = step start

namespace Advances

variable {α β γ : Type} {ground : Ground} {room : Nat} {step other : Parse α} {spends : α → Bool}
  {made : α → Prop}

theorem pure {result : α} (free : spends result = false) (holds : made result) :
    Advances ground room (Pure.pure result) (Pure.pure result) spends made where
  comes start stands _ := ⟨stands, ⟨[], .refl _⟩, by simp [free], holds⟩
  same _ _ _ := rfl

theorem fail {error : Location → ParseError} :
    Advances ground room (Parse.fail error) (Parse.fail error) spends made where
  comes _ stands _ := stands
  same _ _ _ := rfl

theorem throw {error : ParseError} :
    Advances ground room (MonadExcept.throw error) (MonadExcept.throw error) spends made where
  comes _ stands _ := stands
  same _ _ _ := rfl

theorem mono {less : Nat} (advances : Advances ground room step other spends made) (le : less ≤ room) :
    Advances ground less step other spends made where
  comes start stands inside := advances.comes start stands (by omega)
  same start stands inside := advances.same start stands (by omega)

theorem weaken {fewer : α → Bool} {weaker : α → Prop}
    (advances : Advances ground room step other spends made)
    (less : ∀ result, fewer result = true → spends result = true)
    (follows : ∀ result, made result → weaker result) :
    Advances ground room step other fewer weaker where
  comes start stands inside := by
    have comes := advances.comes start stands inside
    revert comes
    cases step start with
    | error error stop => exact id
    | ok result stop =>
        rintro ⟨kept, moves, shorter, holds⟩
        refine ⟨kept, moves, ?_, follows result holds⟩
        cases spent : fewer result with
        | false => exact Nat.le_trans (Nat.le_add_right _ _) shorter
        | true => rwa [less result spent] at shorter
  same := advances.same

theorem yielding {property : α → Prop} (advances : Advances ground room step other spends made)
    (yields : ∀ start result stop, ground.Holds start → step start = .ok result stop → property result) :
    Advances ground room step other spends property where
  comes start stands inside := by
    have comes := advances.comes start stands inside
    cases outcome : step start with
    | error error stop =>
        rw [outcome] at comes
        exact comes
    | ok result stop =>
        rw [outcome] at comes
        obtain ⟨kept, moves, shorter, _⟩ := comes
        exact ⟨kept, moves, shorter, yields start result stop stands outcome⟩
  same := advances.same

/-- What is known to behave at every place gets on. -/
theorem of_draws (draws : Draws room 0 step step spends) :
    Advances ground room step step spends fun _ => True where
  comes start stands inside := by
    have behaves := draws.behaves start stands.skips inside
    revert behaves
    cases step start with
    | error error stop => exact stands.spared
    | ok result stop =>
        rintro ⟨spared, moves, shorter, _⟩
        exact ⟨stands.spared spared, moves, shorter, trivial⟩
  same _ _ _ := rfl

theorem scan {operation : Scanner → α × Scanner}
    (moves : ∀ scanner : Scanner, scanner.skips = some CharClass.skipped →
      ∃ crossed, scanner.Moves (operation scanner).2 crossed)
    (shorter : ∀ scanner : Scanner, scanner.skips = some CharClass.skipped →
      spends (operation scanner).1 = true →
      (operation scanner).2.ahead.length < scanner.ahead.length) :
    Advances ground room (Parse.scan operation) (Parse.scan operation) spends fun _ => True where
  comes start stands _ := by
    obtain ⟨crossed, crosses⟩ := moves start.scanner stands.skips
    refine ⟨⟨crosses.skips.trans stands.skips, crosses.caseSensitive.trans stands.caseSensitive,
      stands.arguments⟩, ⟨crossed, crosses⟩, ?_, trivial⟩
    cases spent : spends (operation start.scanner).1 with
    | false => exact crosses.ahead_suffix.length_le
    | true => exact shorter start.scanner stands.skips spent
  same _ _ _ := rfl

theorem token {property : α → Prop} (draws : Draws room 0 step step spends)
    (yields : Yields step property) : Advances ground room step step spends property :=
  (of_draws draws).yielding fun start result stop _ => yields start result stop

theorem bind {first firstOther : Parse γ} {next nextOther : γ → Parse α} {spendsFirst : γ → Bool}
    {middle : γ → Prop} (before : Advances ground room first firstOther spendsFirst middle)
    (after : ∀ found, middle found → Advances ground (room - (spendsFirst found).toNat) (next found)
      (nextOther found) (fun result => spends result && !spendsFirst found) made) :
    Advances ground room (first >>= next) (firstOther >>= nextOther) spends made where
  comes start stands inside := by
    have comes := before.comes start stands inside
    simp only [Bind.bind, EStateM.bind]
    cases outcome : first start with
    | error error stop =>
        rw [outcome] at comes
        exact comes
    | ok found place =>
        rw [outcome] at comes
        have ⟨kept, _, shorter, holds⟩ := comes
        exact comes.trans ((after found holds).comes place kept (by omega))
  same start stands inside := by
    have comes := before.comes start stands inside
    simp only [Bind.bind, EStateM.bind, before.same start stands inside]
    cases outcome : first start with
    | error error stop => rfl
    | ok found place =>
        rw [outcome] at comes
        obtain ⟨kept, _, shorter, holds⟩ := comes
        exact (after found holds).same place kept (by omega)

theorem returns {image : γ → α} {first firstOther : Parse γ} {spendsFirst : γ → Bool}
    {middle : γ → Prop} (before : Advances ground room first firstOther spendsFirst middle)
    (less : ∀ found, spends (image found) = true → spendsFirst found = true)
    (holds : ∀ found, middle found → made (image found)) :
    Advances ground room (do return image (← first)) (do return image (← firstOther)) spends made := by
  refine bind before fun found good => pure ?_ (holds found good)
  cases spent : spends (image found) with
  | false => rfl
  | true => rw [less found spent]; rfl

theorem branch {test testOther : Parse Bool} {yes no yesOther noOther : Parse α} {middle : Bool → Prop}
    (tests : Advances ground room test testOther id middle)
    (holds : Advances ground (room - 1) yes yesOther (fun _ => false) made)
    (misses : Advances ground room no noOther spends made) :
    Advances ground room (do if ← test then yes else no) (do if ← testOther then yesOther else noOther)
      spends made := by
  refine bind tests fun found _ => ?_
  cases found with
  | true => exact holds.weaken (by simp) fun _ => id
  | false => exact misses.weaken (by simp) fun _ => id

theorem tried (advances : Advances ground room step other spends made) :
    Advances ground room (Parse.tried step) (Parse.tried other) (fun found => found.any spends)
      fun found => ∀ result ∈ found, made result where
  comes start stands inside := by
    have comes := advances.comes start stands inside
    simp only [Parse.tried, Bind.bind, EStateM.bind, Parse.scanner, Parse.attempt]
    cases outcome : step start with
    | error error stop =>
        rw [outcome] at comes
        refine ⟨comes.back start, ⟨[], stands.moves_back comes⟩, Nat.le_refl _, fun _ found => ?_⟩
        cases found
    | ok result stop =>
        rw [outcome] at comes
        obtain ⟨kept, moves, shorter, holds⟩ := comes
        exact ⟨kept, moves, shorter, fun _ found => Option.some.inj found ▸ holds⟩
  same start stands inside := by
    simp only [Parse.tried, Bind.bind, EStateM.bind, Parse.scanner, Parse.attempt,
      advances.same start stands inside]

section

variable {step other : (β → Parse α) → β → Parse α} {bound : Nat} (invariant : β → Prop)
  (grows : ∀ less ≤ bound, ∀ inner innerOther,
    (∀ start, invariant start →
      Advances ground (less - 1) (inner start) (innerOther start) spends made) →
    ∀ start, invariant start →
      Advances ground less (step inner start) (other innerOther start) spends made)

include grows

theorem recurseTo {depth depthOther : Nat} (within : room ≤ bound) (enough : room ≤ depth)
    (enoughOther : room ≤ depthOther) {start : β} (holds : invariant start) :
    Advances ground room (Parse.recurseTo step depth start) (Parse.recurseTo other depthOther start)
      spends made := by
  induction depth generalizing room depthOther start with
  | zero =>
      obtain rfl := Nat.le_zero.mp enough
      exact ⟨fun _ _ none => absurd none (Nat.not_lt_zero _),
        fun _ _ none => absurd none (Nat.not_lt_zero _)⟩
  | succ depth ih =>
      cases depthOther with
      | zero =>
          obtain rfl := Nat.le_zero.mp enoughOther
          exact ⟨fun _ _ none => absurd none (Nat.not_lt_zero _),
            fun _ _ none => absurd none (Nat.not_lt_zero _)⟩
      | succ depthOther =>
          refine grows room within _ _ (fun next good => ?_) start holds
          exact ih (by omega) (by omega) (by omega) good

theorem recurse {start : β} (holds : invariant start) :
    Advances ground bound (Parse.recurse step start) (Parse.recurse other start) spends made := by
  have deep : ∀ parser : Parser, parser.scanner.ahead.length < bound →
      Advances ground (parser.scanner.ahead.length + 1)
        (Parse.recurseTo step (parser.scanner.remaining.length + 1) start)
        (Parse.recurseTo other (parser.scanner.remaining.length + 1) start) spends made := by
    intro parser inside
    have ahead : parser.scanner.ahead.length ≤ parser.scanner.remaining.length := front_length _
    exact recurseTo invariant grows inside (by omega) (by omega) holds
  constructor
  · intro parser stands inside
    exact (deep parser inside).comes parser stands (Nat.lt_succ_self _)
  · intro parser stands inside
    exact (deep parser inside).same parser stands (Nat.lt_succ_self _)

end

theorem repeatStep {step other : α → Parse (Option α)}
    (advances : ∀ current, made current → Advances ground room (step current) (other current)
      Option.isSome fun next => ∀ found ∈ next, made found)
    {again againOther : α → Parse α}
    (further : ∀ current, made current →
      Advances ground (room - 1) (again current) (againOther current) (fun _ => false) made)
    {current : α} (holds : made current) :
    Advances ground room (Parse.repeatStep step again current)
      (Parse.repeatStep other againOther current) (fun _ => false) made := by
  refine bind (advances current holds) fun next good => ?_
  cases next with
  | none => exact pure rfl holds
  | some next => exact further next (good next rfl)

theorem repeatWhile {step other : α → Parse (Option α)}
    (advances : ∀ current, made current → Advances ground room (step current) (other current)
      Option.isSome fun next => ∀ found ∈ next, made found)
    {current : α} (holds : made current) :
    Advances ground room (Parse.repeatWhile step current) (Parse.repeatWhile other current)
      (fun _ => false) made := by
  refine recurse made (fun less within inner innerOther further current good => ?_) holds
  exact repeatStep (fun current good => (advances current good).mono within) further good

end Advances

end PredicateRules.Parse
