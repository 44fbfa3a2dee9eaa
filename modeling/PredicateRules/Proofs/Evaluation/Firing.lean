import PredicateRules.Proofs.Evaluation.Resolution
import PredicateRules.Proofs.Evaluation.Timeless

namespace PredicateRules

namespace Rule

def fires (world : World) (subject : Value) (rule : Rule) : Bool :=
  match rule.specifier.evaluate world subject with
  | .ok holds => holds
  | .error _ => false

def fire (world : World) (subject : Value) (rule : Rule) : Evaluated (Option Value) := do
  if ← rule.specifier.evaluate world subject then
    return some (← rule.value.evaluate world subject [])
  else return none

variable {world : World} {subject : Value} {rule : Rule}

theorem specifier_of_fire_none (fired : rule.fire world subject = .ok none) :
    rule.specifier.evaluate world subject = .ok false := by
  unfold fire at fired
  cases specified : rule.specifier.evaluate world subject with
  | error cause => rw [specified] at fired; contradiction
  | ok holds =>
      cases holds with
      | false => rfl
      | true =>
          cases valued : rule.value.evaluate world subject [] <;>
            simp [specified, valued, bind, Except.bind] at fired

theorem specifier_of_fire_some {value : Value} (fired : rule.fire world subject = .ok (some value)) :
    rule.specifier.evaluate world subject = .ok true ∧
      rule.value.evaluate world subject [] = .ok value := by
  unfold fire at fired
  cases specified : rule.specifier.evaluate world subject with
  | error cause => rw [specified] at fired; contradiction
  | ok holds =>
      cases holds with
      | false => simp [specified, bind, Except.bind] at fired
      | true =>
          cases valued : rule.value.evaluate world subject [] with
          | error cause => simp [specified, valued, bind, Except.bind] at fired
          | ok other => simpa [specified, valued, bind, Except.bind] using fired

end Rule

namespace Surroundings.Placeless

variable {world other : World}

theorem within (placeless : world.Placeless) (step : Step) : (world.within step).Agrees world where
  host site := placeless.host _ site
  contextKey := funext fun site => placeless.contextKey _ site

theorem of_agrees (placeless : world.Placeless) (agrees : world.Agrees other) : other.Placeless where
  host site place := ((agrees.host site).symm.trans (placeless.host site place)).trans (agrees.host place)
  contextKey site place := by
    rw [← agrees.contextKey]
    exact placeless.contextKey site place

end Surroundings.Placeless

namespace Model

variable {world other : World} {subject : Value} {rule : Rule} {rules : List Rule} {values : List Value}

section

variable (agrees : world.Agrees other) (timeless : ∀ rule ∈ rules, rule.NeverTimed)

include agrees timeless

theorem fireFirstOf_eq : fireFirstOf world subject rules = fireFirstOf other subject rules :=
  (Correspondence.fireFirstOf agrees.surround fun rule member part inside =>
    agrees.suits subject (timeless rule member part inside)).same

theorem fireAllOf_eq : fireAllOf world subject rules = fireAllOf other subject rules :=
  (Correspondence.fireAllOf agrees.surround fun rule member part inside =>
    agrees.suits subject (timeless rule member part inside)).same

end

theorem evaluate_specifier_within (placeless : world.Placeless) (timeless : rule.NeverTimed) (step : Step) :
    rule.specifier.evaluate (world.within step) subject = rule.specifier.evaluate world subject := by
  have steady : rule.specifier.NeverTimed := fun part inside =>
    timeless part (List.mem_append_left _ inside)
  exact steady.evaluate_eq (placeless.within step) subject

section

variable (placeless : world.Placeless) (timeless : ∀ other ∈ rule :: rules, other.NeverTimed)

include placeless timeless

theorem fireFirstOf_cons : fireFirstOf world subject (rule :: rules) =
    rule.fire world subject >>= fun
      | some value => .ok (some value)
      | none => fireFirstOf world subject rules := by
  obtain ⟨own, others⟩ := List.forall_mem_cons.mp timeless
  rw [fireFirstOf, Rule.fire, evaluate_specifier_within placeless own,
    fireFirstOf_eq (placeless.within _) others]
  cases rule.specifier.evaluate world subject with
  | error cause => rfl
  | ok holds => cases holds <;> cases rule.value.evaluate world subject [] <;> rfl

theorem fireAllOf_cons : fireAllOf world subject (rule :: rules) =
    rule.fire world subject >>= fun
      | some value => (value :: ·) <$> fireAllOf world subject rules
      | none => fireAllOf world subject rules := by
  obtain ⟨own, others⟩ := List.forall_mem_cons.mp timeless
  rw [fireAllOf, Rule.fire, evaluate_specifier_within placeless own,
    fireAllOf_eq (placeless.within _) others]
  cases rule.specifier.evaluate world subject with
  | error cause => rfl
  | ok holds => cases holds <;> cases rule.value.evaluate world subject [] <;> rfl

end

/-- The values are those of the rules whose specifiers evaluate to true, in the order of the rules. All
other specifiers evaluate to false. -/
structure Collects (world : World) (subject : Value) (rules : List Rule) (values : List Value) :
    Prop where
  decided : ∀ rule ∈ rules,
    rule.specifier.evaluate world subject = .ok (rule.fires world subject)
  values : List.Forall₂ (fun rule value => rule.value.evaluate world subject [] = .ok value)
    (rules.filter (Rule.fires world subject)) values

theorem Collects.skip (fired : rule.fire world subject = .ok none)
    (collects : Collects world subject rules values) :
    Collects world subject (rule :: rules) values := by
  have specified := Rule.specifier_of_fire_none fired
  have silent : rule.fires world subject = false := by rw [Rule.fires, specified]
  constructor
  · rw [List.forall_mem_cons]
    exact ⟨by rw [specified, silent], collects.decided⟩
  · rw [List.filter_cons_of_neg (by simp [silent])]
    exact collects.values

theorem Collects.take {value : Value} (fired : rule.fire world subject = .ok (some value))
    (collects : Collects world subject rules values) :
    Collects world subject (rule :: rules) (value :: values) := by
  obtain ⟨specified, valued⟩ := Rule.specifier_of_fire_some fired
  have fires : rule.fires world subject = true := by rw [Rule.fires, specified]
  constructor
  · rw [List.forall_mem_cons]
    exact ⟨by rw [specified, fires], collects.decided⟩
  · rw [List.filter_cons_of_pos fires]
    exact .cons valued collects.values

theorem collects_of_fireAllOf (placeless : world.Placeless)
    (timeless : ∀ rule ∈ rules, rule.NeverTimed) (all : fireAllOf world subject rules = .ok values) :
    Collects world subject rules values ∧ fireFirstOf world subject rules = .ok values.head? := by
  induction rules generalizing values with
  | nil =>
      obtain rfl := Except.ok.inj all
      exact ⟨⟨by simp, .nil⟩, rfl⟩
  | cons rule rules ih =>
      rw [fireAllOf_cons placeless timeless] at all
      rw [fireFirstOf_cons placeless timeless]
      have others := (List.forall_mem_cons.mp timeless).2
      cases fired : rule.fire world subject with
      | error cause => rw [fired] at all; contradiction
      | ok value? =>
          rw [fired] at all
          cases value? with
          | none =>
              obtain ⟨collects, first⟩ := ih others all
              exact ⟨collects.skip fired, first⟩
          | some value =>
              cases rest : fireAllOf world subject rules with
              | error cause => simp [rest, bind, Except.bind] at all
              | ok later =>
                  obtain rfl : value :: later = values := by
                    simpa [rest, bind, Except.bind] using all
                  exact ⟨(ih others rest).1.take fired, rfl⟩

theorem fireAllOf_of_failed (placeless : world.Placeless)
    (timeless : ∀ rule ∈ rules, rule.NeverTimed) {cause : EvalError}
    (failed : fireFirstOf world subject rules = .error cause) :
    fireAllOf world subject rules = .error cause := by
  induction rules with
  | nil => contradiction
  | cons rule rules ih =>
      rw [fireFirstOf_cons placeless timeless] at failed
      rw [fireAllOf_cons placeless timeless]
      cases fired : rule.fire world subject with
      | error other =>
          rw [fired] at failed
          obtain rfl := Except.error.inj failed
          rfl
      | ok value? =>
          rw [fired] at failed
          cases value? with
          | none => exact ih (List.forall_mem_cons.mp timeless).2 failed
          | some value => contradiction

/-- Another call has another object for the same context, which rules without the object as a value do not
tell from this one. -/
theorem fireAll_subject {model : Model} (timeless : model.NeverTimed)
    (selfless : model.Everywhere Expression.Selfless) (agrees : world.Agrees other) (number : Nat)
    (trail otherTrail : List Site) (key : String) :
    model.fireAll world (Contexts.subject number trail) key =
      model.fireAll other (Contexts.subject number otherTrail) key :=
  (Correspondence.fireAllOf agrees.surround fun rule member part inside =>
    agrees.suits_context (Everywhere.candidates timeless key rule member part inside)
      (Everywhere.candidates selfless key rule member part inside)).same

theorem fireFirst_subject {model : Model} (timeless : model.NeverTimed)
    (selfless : model.Everywhere Expression.Selfless) (agrees : world.Agrees other) (number : Nat)
    (trail otherTrail : List Site) (key : String) :
    model.fireFirst world (Contexts.subject number trail) key =
      model.fireFirst other (Contexts.subject number otherTrail) key :=
  (Correspondence.fireFirstOf agrees.surround fun rule member part inside =>
    agrees.suits_context (Everywhere.candidates timeless key rule member part inside)
      (Everywhere.candidates selfless key rule member part inside)).same

/-- Firing all rules collects the values of the rules that hold, and the first of them is what firing
one rule gives, in a call of its own; where firing one rule fails, firing all rules fails for the same
cause. -/
theorem fireFirst_of_fireAll {model : Model} (timeless : model.NeverTimed)
    (selfless : model.Everywhere Expression.Selfless) (placeless : world.Placeless)
    (agrees : world.Agrees other) (number : Nat) (trail otherTrail : List Site) (key : String) :
    (∀ values, model.fireAll world (Contexts.subject number trail) key = .ok values →
      Collects other (Contexts.subject number otherTrail) ((model.candidates? key).getD []) values ∧
        model.fireFirst other (Contexts.subject number otherTrail) key = .ok values.head?) ∧
    ∀ cause, model.fireFirst other (Contexts.subject number otherTrail) key = .error cause →
      model.fireAll world (Contexts.subject number trail) key = .error cause := by
  rw [fireAll_subject timeless selfless agrees number trail otherTrail key]
  have everywhere := placeless.of_agrees agrees
  have candidates : ∀ rule ∈ (model.candidates? key).getD [], rule.NeverTimed :=
    Everywhere.candidates timeless key
  exact ⟨fun _ all => collects_of_fireAllOf everywhere candidates all,
    fun _ failed => fireAllOf_of_failed everywhere candidates failed⟩

end Model

end PredicateRules
