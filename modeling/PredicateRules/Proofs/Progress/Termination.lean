import Mathlib.Logic.Function.Iterate
import PredicateRules.Proofs.Progress.Ruleset

/-!
Reading ends. Every recursion of the grammars, be it of a rule that stands inside of itself or of a loop,
comes back to itself only further on in the text. So there are never more calls of it inside each other
than characters ahead, and what would be done any deeper does not matter.
-/

namespace PredicateRules

theorem Scanner.byteLength_pos {text : List Char} (some : text ≠ []) : 0 < byteLength text := by
  exact (List.length_pos_iff.mpr some).trans_le (length_le_byteLength text)

namespace Scanner.Moves

variable {start stop : Scanner} {crossed : List Char}

theorem crossed_ne_nil (moves : start.Moves stop crossed)
    (shorter : stop.ahead.length < start.ahead.length) : crossed ≠ [] := by
  rintro rfl
  have same : start.remaining = stop.remaining := moves.remaining
  rw [Scanner.ahead, Scanner.ahead, same] at shorter
  exact Nat.lt_irrefl _ shorter

theorem location_lt (moves : start.Moves stop crossed) (some : crossed ≠ []) :
    start.location < stop.location := by
  have least : 0 < byteLength crossed.reverse := byteLength_pos (by simpa using some)
  have whole : stop.location = byteLength crossed.reverse + start.location := by
    simp [location, moves.passed]
  omega

end Scanner.Moves

theorem Scanner.location_le (scanner : Scanner) : scanner.location ≤ byteLength scanner.text := by
  rw [location, text, byteLength_append, byteLength_reverse]
  exact Nat.le_add_right _ _

namespace Parse

variable {α β : Type}

/-- The reader does what its step does, and all that the step asks of the reader is what it does on the
same ground with less ahead. -/
def Unrolls (reader : β → Parse α) (step : (β → Parse α) → β → Parse α) : Prop :=
  ∀ start parser, parser.scanner.skips = some CharClass.skipped → ∀ other : β → Parse α,
    (∀ next place, (Ground.of parser).Holds place →
      place.scanner.ahead.length < parser.scanner.ahead.length → other next place = reader next place) →
    step other start parser = reader start parser

/-- Where there is less ahead than steps are inside each other, they do what the reader does, whatever
is at the bottom. -/
def BottomsOut (reader : β → Parse α) (step : (β → Parse α) → β → Parse α) : Prop :=
  ∀ (bottom : β → Parse α) (depth : Nat) (start : β) (parser : Parser),
    parser.scanner.skips = some CharClass.skipped → parser.scanner.ahead.length < depth →
    step^[depth] bottom start parser = reader start parser

theorem Unrolls.bottomsOut {reader : β → Parse α} {step : (β → Parse α) → β → Parse α}
    (unrolls : Unrolls reader step) : BottomsOut reader step := by
  intro bottom depth
  induction depth with
  | zero => exact fun _ _ _ none => absurd none (Nat.not_lt_zero _)
  | succ depth ih =>
      intro start parser skips inside
      rw [Function.iterate_succ_apply']
      exact unrolls start parser skips _ fun next place stands further =>
        ih next place stands.skips (by omega)

theorem unrolls_recurse {step : (β → Parse α) → β → Parse α} (spends : α → Bool) (made : α → Prop)
    (grows : ∀ ground room inner other,
      (∀ start, Advances ground (room - 1) (inner start) (other start) spends made) →
      ∀ start, Advances ground room (step inner start) (step other start) spends made) :
    Unrolls (recurse step) step := by
  intro start parser skips other agrees
  have stands := Ground.holds_of skips
  have ahead : parser.scanner.ahead.length ≤ parser.scanner.remaining.length := front_length _
  have deep : ∀ (room depth depthOther : Nat) (next : β), room ≤ depth → room ≤ depthOther →
      Advances (Ground.of parser) room (recurseTo step depth next) (recurseTo step depthOther next)
        spends made := fun room depth depthOther next enough enoughOther =>
    Advances.recurseTo (fun _ : β => True)
      (fun less _ inner innerOther further next _ =>
        grows _ less inner innerOther (fun next => further next trivial) next)
      (Nat.le_refl room) enough enoughOther trivial
  -- Further on the reader itself is deep enough, and so is what is left of the depth from here.
  have further : ∀ next, Advances (Ground.of parser) parser.scanner.ahead.length
      (recurseTo step parser.scanner.remaining.length next) (other next) spends made := by
    intro next
    refine ⟨(deep _ _ _ next ahead ahead).comes, fun place holds inside => ?_⟩
    have aheadPlace : place.scanner.ahead.length ≤ place.scanner.remaining.length := front_length _
    rw [agrees next place holds inside]
    exact (deep (place.scanner.ahead.length + 1) _ _ next (by omega) (by omega)).same place holds
      (Nat.lt_succ_self _)
  exact (grows _ (parser.scanner.ahead.length + 1) _ _ further start).same parser stands
    (Nat.lt_succ_self _)

theorem unrolls_repeatWhile {step : α → Parse (Option α)} (made : Option α → Prop)
    (advances : ∀ ground room current,
      Advances ground room (step current) (step current) Option.isSome made) :
    Unrolls (repeatWhile step) (repeatStep step) := by
  refine unrolls_recurse (fun _ => false) (fun _ => True) fun ground room inner other further current => ?_
  exact Advances.repeatStep (fun current _ => (advances ground room current).weaken (fun _ => id) (by simp))
    (fun current _ => further current) trivial

def selectorStep (selector : String) : Parse (Option String) := do
  return (← selectorPart?).map fun part => selector ++ part

/-- What comes back to itself in the grammars, with what it does until then. -/
inductive Recursion :
    {α β : Type} → (β → Parse α) → ((β → Parse α) → β → Parse α) → Prop
  | expression (which : Parser → Nat) :
    Recursion (fun _ : Unit => expressionWith which) fun again _ => binary which (again ())
  | items (which : Parser → Nat) {close : String} (listed : close ∈ [")", "\x7d"]) (construct : String) :
    Recursion (recurse (Advances.itemsStep (expressionWith which) close construct))
      (Advances.itemsStep (expressionWith which) close construct)
  | selector : Recursion selectorParts (repeatStep selectorStep)
  | suffixes (which : Parser → Nat) :
    Recursion (repeatWhile (functionalStep which (expressionWith which)))
      (repeatStep (functionalStep which (expressionWith which)))
  | powers (which : Parser → Nat) :
    Recursion (repeatWhile (Advances.joinedStep [("**", .raiseToPower)]
        (functional which (expressionWith which))))
      (repeatStep (Advances.joinedStep [("**", .raiseToPower)]
        (functional which (expressionWith which))))
  | factors (which : Parser → Nat) :
    Recursion (repeatWhile (Advances.joinedStep [("*", .multiply), ("/", .divide)]
        (power which (expressionWith which))))
      (repeatStep (Advances.joinedStep [("*", .multiply), ("/", .divide)]
        (power which (expressionWith which))))
  | summands (which : Parser → Nat) :
    Recursion (repeatWhile (Advances.joinedStep [("+", .add), ("-", .subtract)]
        (multiplication which (expressionWith which))))
      (repeatStep (Advances.joinedStep [("+", .add), ("-", .subtract)]
        (multiplication which (expressionWith which))))
  | sets (which : Parser → Nat) :
    Recursion (repeatWhile (binaryStep which (expressionWith which)))
      (repeatStep (binaryStep which (expressionWith which)))
  | term (which : Parser → Nat) :
    Recursion (fun _ : Unit => termOf which) fun again _ => termWith which (again ())
  | terms (which : Parser → Nat) :
    Recursion (joinFrom Predicate.fold (termOf which))
      (repeatStep (joinStep Predicate.fold (termOf which)))
  | specifiers : Recursion (recurse Advances.specifiersStep) Advances.specifiersStep
  | body (caseSensitive : Bool) (paths : List (List String)) :
    Recursion (bodyFrom (ruleset caseSensitive paths)) (bodyStep (ruleset caseSensitive paths))
  | ruleset (caseSensitive : Bool) : Recursion (ruleset caseSensitive) (rulesetWith caseSensitive)
  | rulesets (caseSensitive : Bool) :
    Recursion (rulesetsFrom caseSensitive) (repeatStep (Advances.rulesetsStep caseSensitive))

theorem texts_anything {ground : Ground} : Advances.Texts ground fun _ => True :=
  fun _ _ _ _ _ => trivial

theorem Recursion.unrolls {reader : β → Parse α} {step : (β → Parse α) → β → Parse α}
    (recursion : Recursion reader step) : Unrolls reader step := by
  -- Nothing is asked of what is built here, only that each step gets on.
  have anything : ∀ {ground : Ground}, Expression.Built ground fun _ => True := .anything
  have operand : ∀ {ground : Ground} {room : Nat} (which : Parser → Nat),
      Advances ground room (expressionWith which) (expressionWith which) (fun _ => true) fun _ => True :=
    .expressionWith anything
  have joins : ∀ {signs : List (String × Builtin)}, ∀ function ∈ signs.map Prod.snd,
      ∀ left right : Expression, True → True → True := fun _ _ _ _ _ => id
  cases recursion with
  | expression which =>
      exact unrolls_recurse _ _ fun ground room inner other further _ =>
        Advances.binary anything (further ()) which
  | items which listed construct =>
      have solid : Solid _ := List.forall_mem_cons.mpr ⟨by decide, by simp; decide⟩ _ listed
      exact unrolls_recurse (fun _ => true) (fun items => ∀ item ∈ items, True)
        fun ground room inner other further items =>
          Advances.itemsStep_advances solid construct (operand which) (fun items _ => further items) (by simp)
  | selector =>
      refine unrolls_repeatWhile (fun _ => True) fun ground room current => ?_
      exact Advances.returns (.of_draws .selectorPart?) (by simp) (by simp)
  | suffixes which =>
      exact unrolls_repeatWhile _ fun ground room current =>
        Advances.functionalStep anything (operand which) which trivial
  | powers which =>
      exact unrolls_repeatWhile _ fun ground room current =>
        Advances.joinedStep_advances (by decide) joins (Advances.functional anything (operand which) which)
          trivial
  | factors which =>
      exact unrolls_repeatWhile _ fun ground room current =>
        Advances.joinedStep_advances (by decide) joins (Advances.power anything (operand which) which)
          trivial
  | summands which =>
      exact unrolls_repeatWhile _ fun ground room current =>
        Advances.joinedStep_advances (by decide) joins
          (Advances.multiplication anything (operand which) which) trivial
  | sets which =>
      exact unrolls_repeatWhile _ fun ground room current =>
        Advances.binaryStep anything (operand which) which trivial
  | term which =>
      exact unrolls_recurse _ _ fun ground room inner other further _ => Advances.termWith (further ()) which
  | terms which =>
      exact unrolls_repeatWhile _ fun ground room current =>
        Advances.joinStep (.termOf which) Predicate.fold current
  | specifiers =>
      exact unrolls_recurse _ _ fun ground room inner other further found =>
        Advances.specifiersStep_advances texts_anything (fun found _ => further found) (by simp)
  | body caseSensitive paths =>
      refine unrolls_recurse (fun _ => false) (fun body => ∀ rules ∈ body.nested, True)
        fun ground room inner other further body => ?_
      have nested : Advances ground room (Parse.ruleset caseSensitive paths)
          (Parse.ruleset caseSensitive paths) (fun _ => true) fun _ => True :=
        (Advances.ruleset texts_anything caseSensitive (by simp)).weaken (fun _ => id) (by simp)
      exact Advances.bodyStep nested (fun body _ => further body) (by simp)
  | ruleset caseSensitive =>
      exact unrolls_recurse _ _ fun ground room inner other further parents =>
        Advances.rulesetWith texts_anything caseSensitive (fun paths _ => further paths) (by simp)
  | rulesets caseSensitive =>
      refine unrolls_repeatWhile (fun _ => True) fun ground room current => ?_
      exact Advances.returns (.tried (Advances.ruleset texts_anything caseSensitive (by simp))) (by simp)
        (by simp)

/-- What was read ends in the same text, strictly behind where it began and within the text. -/
def ReadsOn (start : Parser) : EStateM.Result ParseError Parser α → Prop
  | .ok _ stop => stop.scanner.text = start.scanner.text ∧
      start.scanner.location < stop.scanner.location ∧
      stop.scanner.location ≤ Scanner.byteLength stop.scanner.text
  | .error _ _ => True

theorem Advances.readsOn {reader : Parse α} {made : α → Prop} {start : Parser}
    (skips : start.scanner.skips = some CharClass.skipped)
    (advances : ∀ ground room, Advances ground room reader reader (fun _ => true) made) :
    ReadsOn start (reader start) := by
  have comes := (advances (Ground.of start) (start.scanner.ahead.length + 1)).comes start
    (Ground.holds_of skips) (Nat.lt_succ_self _)
  cases outcome : reader start with
  | error error stop => trivial
  | ok result stop =>
      rw [outcome] at comes
      obtain ⟨_, ⟨crossed, moves⟩, shorter, _⟩ := comes
      exact ⟨moves.text, moves.location_lt (moves.crossed_ne_nil shorter), stop.scanner.location_le⟩

/-- Reading ends: each recursion of the grammars comes back to itself only with less ahead, so that its
steps inside each other never get to the bottom. And an expression, a predicate or a ruleset that is read
takes a part of the text. -/
theorem reading_ends_further_on :
    (∀ {α β : Type} (reader : β → Parse α) (step : (β → Parse α) → β → Parse α),
      Recursion reader step → Unrolls reader step ∧ BottomsOut reader step) ∧
    ∀ start : Parser, start.scanner.skips = some CharClass.skipped →
      ReadsOn start (expression start) ∧ ReadsOn start (predicate start) ∧
      ∀ caseSensitive parents, ReadsOn start (ruleset caseSensitive parents start) := by
  constructor
  · intro α β reader step recursion
    exact ⟨recursion.unrolls, recursion.unrolls.bottomsOut⟩
  · intro start skips
    refine ⟨?_, ?_, fun caseSensitive parents => ?_⟩
    · exact Advances.readsOn skips fun _ _ => .expressionWith .anything Parser.nextArgument
    · exact Advances.readsOn skips fun _ _ => .predicateWith Parser.nextArgument
    · exact Advances.readsOn skips fun _ _ => .ruleset texts_anything caseSensitive (by simp)

/-- A ruleset inside of another one, in front of what is no ruleset. -/
theorem reading_ends_further_on_nested :
    BottomsOut (ruleset false) (rulesetWith false) ∧
    ∃ rules stop,
      ruleset false [] (Parser.ofText "a = 1 \x7b b: -(2); c = 3 \x7b d: 4 \x7d \x7d e" [] false) =
        .ok rules stop ∧
      0 < stop.scanner.location ∧ stop.scanner.location ≤ Scanner.byteLength stop.scanner.text := by
  have further : ∀ start : Parser, start.scanner.skips = some CharClass.skipped →
      (EStateM.run' (ruleset false []) start).isSome → ∃ rules stop,
        ruleset false [] start = .ok rules stop ∧ 0 < stop.scanner.location ∧
          stop.scanner.location ≤ Scanner.byteLength stop.scanner.text := by
    intro start skips read
    have reads := (reading_ends_further_on.2 start skips).2.2 false []
    unfold EStateM.run' EStateM.run at read
    cases outcome : ruleset false [] start with
    | error error stop =>
        rw [outcome] at read
        cases read
    | ok rules stop =>
        rw [outcome] at reads
        obtain ⟨_, later, within⟩ := reads
        exact ⟨rules, stop, rfl, Nat.zero_lt_of_lt later, within⟩
  exact ⟨(reading_ends_further_on.1 _ _ (.ruleset false)).2, further _ rfl (by decide +kernel)⟩

end Parse

end PredicateRules
