import PredicateRules.Proofs.Reading.Predicate

namespace PredicateRules

open PredicateRules.Parser

theorem Parser.at_ofText (text : String) (arguments : List Value) (caseSensitive : Bool) :
    (Parser.ofText text arguments caseSensitive).At
      ((Parser.ofText text arguments caseSensitive).scanner.ahead.length + 1) 0 :=
  ⟨rfl, Nat.lt_succ_self _, rfl, rfl⟩

structure Parser.Inside (whole : List Char) (caseSensitive : Bool) (parser : Parser) : Prop where
  whole : parser.scanner.text = whole
  caseSensitive : parser.scanner.caseSensitive = caseSensitive
  arguments : parser.arguments = []
  taken : parser.nextArgument = 0

theorem Parser.inside_ofText (text : String) (caseSensitive : Bool) :
    (Parser.ofText text [] caseSensitive).Inside text.toList caseSensitive :=
  ⟨rfl, rfl, rfl, rfl⟩

def Parse.outcome? (step : Parse α) (parser : Parser) : Option α :=
  match step parser with
  | .ok result _ => some result
  | .error _ _ => none

theorem Parse.ok_of_outcome? {step : Parse α} {parser : Parser} {result : α}
    (found : Parse.outcome? step parser = some result) :
    ∃ stop, step parser = .ok result stop := by
  unfold Parse.outcome? at found
  cases outcome : step parser with
  | ok other stop =>
      simp only [outcome, Option.some.injEq] at found
      exact ⟨stop, by rw [found]⟩
  | error error stop => simp [outcome] at found

namespace Setting

def ending (front : List Char) (which other : Parser → Nat)
    (agree : ∀ parser longer : Parser,
      longer.scanner.passed = parser.scanner.passed ++ front.reverse →
      longer.nextArgument = parser.nextArgument →
      parser.lexis.placeholders = parser.nextArgument + 1 → other longer = which parser) :
    Setting where
  front := front
  back := []
  which := which
  other := other
  exact := True
  spaced := by simp
  silent := by
    decide
  unnumbered := rfl
  unselected _ := rfl
  unjoined _ := by
    decide
  unnamed _ := by simp
  agree := agree

/-- A text at the end of a longer one that takes its arguments in the same order. -/
def behind (front : List Char) : Setting :=
  ending front Parser.nextArgument Parser.nextArgument fun _ _ _ taken _ => taken

theorem related_ofText {setting : Setting} (front : setting.front = []) (back : setting.back = [])
    (text : String) (arguments : List Value) (caseSensitive : Bool) :
    setting.Related (Parser.ofText text arguments caseSensitive)
      (Parser.ofText text arguments caseSensitive) where
  text := by simp [front, back]
  ahead := by simp [back, Scanner.ahead]
  skips := rfl
  caseSensitive := rfl
  arguments := rfl
  taken := rfl
  counted := rfl
  closed some := absurd back some

theorem Related.again {setting : Setting} {place longer longerStop : Parser}
    (related : setting.Related place longer) (spent : Spent longer longerStop) :
    setting.Related place (longerStop.back longer) where
  text := related.text
  ahead := related.ahead
  skips := spent.skips.trans related.skips
  caseSensitive := spent.caseSensitive.trans related.caseSensitive
  arguments := spent.arguments.trans related.arguments
  taken := spent.taken.trans related.taken
  counted := related.counted
  closed := related.closed

namespace FollowsAs

variable {setting : Setting} {α β : Type} {image : α → β} {base : Nat} {pre : Parser → Prop}
  {post : α → Parser → Prop} {step : Parse α} {longer : Parse β} {start place : Parser}
  (follows : setting.FollowsAs image base pre step longer post)
  (inOrder : setting.which = Parser.nextArgument) (none : start.arguments = []) (holds : pre start)

include follows inOrder none holds

theorem untaken :
    (∀ result stop, step start = .ok result stop → stop.nextArgument ≤ start.nextArgument) ∧
      ∀ error stop, step start = .error error stop → stop.nextArgument ≤ start.nextArgument := by
  have limits := follows.limits start holds
  have length : start.arguments.length = 0 := by rw [none, List.length_nil]
  constructor
  · intro result stop outcome
    rw [outcome] at limits
    have := limits inOrder
    omega
  · intro error stop outcome
    rw [outcome] at limits
    have := limits inOrder
    omega

theorem inside {whole : List Char} {caseSensitive : Bool} (here : start.Inside whole caseSensitive)
    {result : α} {stop : Parser} (outcome : step start = .ok result stop) :
    stop.Inside whole caseSensitive := by
  have reads := follows.reads start holds
  have taken := (untaken follows inOrder none holds).1 result stop outcome
  rw [outcome] at reads
  have advance := reads.1
  exact {
    whole := advance.text.trans here.whole
    caseSensitive := advance.kept.caseSensitive.trans here.caseSensitive
    arguments := advance.arguments.trans here.arguments
    taken := Nat.le_zero.mp (here.taken ▸ taken) }

/-- So what the text comes to is repeated. -/
theorem found (related : setting.Related start place) {result : α} {stop : Parser}
    (outcome : step start = .ok result stop) :
    ∃ longerStop, longer place = .ok (image result) longerStop ∧
      setting.Related stop longerStop := by
  have reads := follows.reads start holds
  have mirrors := follows.mirrors start place holds related
  have taken := (untaken follows inOrder none holds).1 result stop outcome
  rw [outcome] at reads mirrors
  have := reads.1.placeholders
  have := related.counted
  exact mirrors (by omega)

theorem failed (related : setting.Related start place) (followed : setting.exact ∨ 0 < base)
    {error : ParseError} {stop : Parser} (outcome : step start = .error error stop) :
    ∃ cause longerStop, longer place = .error cause longerStop ∧ Spent place longerStop := by
  have mirrors := follows.mirrors start place holds related
  have taken := (untaken follows inOrder none holds).2 error stop outcome
  rw [outcome] at mirrors
  exact mirrors taken followed

theorem outcome?_eq (related : setting.Related start place) (followed : setting.exact ∨ 0 < base) :
    Parse.outcome? longer place = (Parse.outcome? step start).map image := by
  unfold Parse.outcome?
  cases outcome : step start with
  | ok result stop =>
      obtain ⟨longerStop, same, _⟩ := found follows inOrder none holds related outcome
      simp [same]
  | error error stop =>
      obtain ⟨cause, longerStop, same, _⟩ := failed follows inOrder none holds related followed outcome
      simp [same]

end FollowsAs

end Setting

end PredicateRules
