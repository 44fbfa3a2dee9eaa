import PredicateRules.Proofs.Inference.Unwinding

/-!
What happens to contexts from the beginning of some steps to their end, wherever they stand. Keys are
put under inference and taken off again one inside of the other; a key that cannot be is refused, which
is recorded; and nothing else changes.
-/

namespace PredicateRules

def Evaluated.failure? {α : Type} : Evaluated α → Option EvalError
  | .ok _ => none
  | .error cause => some cause

def Request.Within (allowed : Value → Prop) : Request → Prop
  | .inquire _ _ _ => True
  | .evaluate expression object =>
    (∀ part ∈ expression.parts, part.Holds allowed) ∧ object.Within allowed
  | .test predicate object =>
    (∀ part ∈ predicate.expressions, part.Holds allowed) ∧ object.Within allowed

/-- Contexts themselves, what they hold and what their rules hold is allowed. -/
structure Contexts.Within (contexts : Contexts) (allowed : Value → Prop) : Prop where
  context (number : Nat) (origin : Origin) : allowed (.object (.context number origin))
  stored (number : Nat) (key : String) :
    ∀ value ∈ contexts.value? number key, value.Within allowed
  rules (number : Nat) :
    ∀ scope ∈ contexts.scope? number, scope.model.Everywhere (Expression.Holds allowed)

theorem Contexts.Within.subject {contexts : Contexts} {allowed : Value → Prop}
    (within : contexts.Within allowed) (number : Nat) (trail : List Site) :
    (Contexts.subject number trail).Within allowed :=
  within.context number _

theorem Contexts.within_of_all {allowed : Value → Prop} (all : ∀ value, allowed value)
    (contexts : Contexts) : contexts.Within allowed where
  context _ _ := all _
  stored _ _ value _ := Value.within_of_all all value
  rules _ _ _ _ _ _ _ _ part _ := part.holds_of_all all

namespace Activity

/-- From the one activity to the other, inferences begin and end, one inside of the other. Only inside of
an inference for which there are rules can further ones begin. -/
inductive Passage : Activity → Activity → Prop where
  | still (activity : Activity) : Passage activity activity
  | trans {first second third : Activity} :
    Passage first second → Passage second third → Passage first third
  | circle {activity : Activity} {number : Nat} {key : String} :
    key ∈ activity.inferring number →
    Passage activity (activity.note number (.inferenceCycle key))
  | deep {activity : Activity} {number : Nat} {key : String} {scope : Scope} :
    activity.contexts.scope? number = some scope → key ∉ activity.inferring number →
    scope.limit ≤ (activity.inferring number).length →
    Passage activity (activity.note number (.inferenceDepthExceeded key scope.limit))
  | unruled {activity : Activity} {number : Nat} {key : String} {scope : Scope} :
    activity.contexts.scope? number = some scope → key ∉ activity.inferring number →
    (activity.inferring number).length < scope.limit → scope.model.candidates? key = none →
    Passage activity ((activity.push number key).pop number)
  | ruled {activity after : Activity} {number : Nat} {key : String} {scope : Scope}
    {bucket : List Rule} :
    activity.contexts.scope? number = some scope → key ∉ activity.inferring number →
    (activity.inferring number).length < scope.limit → scope.model.candidates? key = some bucket →
    Passage (activity.push number key) after → Passage activity (after.pop number)

variable {raised : EvalError → Prop} {before middle after : Activity} {failure : Option EvalError}

theorem Passage.contexts (passage : before.Passage after) : after.contexts = before.contexts := by
  induction passage with
  | still | circle | deep | unruled => rfl
  | trans _ _ first second => exact second.trans first
  | ruled _ _ _ _ _ inside => exact inside

theorem Passage.calls (passage : before.Passage after) : after.calls = before.calls := by
  induction passage with
  | still | circle | deep | unruled => rfl
  | trans _ _ first second => exact second.trans first
  | ruled _ _ _ _ _ inside => exact inside

theorem Passage.inferring (passage : before.Passage after) : after.inferring = before.inferring := by
  induction passage with
  | still | circle | deep => rfl
  | trans _ _ first second => exact second.trans first
  | unruled => exact inferring_pop rfl
  | ruled _ _ _ _ _ inside => exact inferring_pop inside

theorem Passage.refusals (passage : before.Passage after) :
    ∃ refused, after.refusals = refused ++ before.refusals := by
  induction passage with
  | still | unruled => exact ⟨[], rfl⟩
  | circle | deep => exact ⟨[_], rfl⟩
  | trans _ _ first second =>
      obtain ⟨refused, same⟩ := first
      obtain ⟨later, sameLater⟩ := second
      exact ⟨later ++ refused, by rw [sameLater, same, List.append_assoc]⟩
  | ruled _ _ _ _ _ inside => exact inside

/-- Steps that have come to their end. A failure of an inference is a refusal in between, unless the
embedding program raised it. -/
structure Passed (raised : EvalError → Prop) (before after : Activity) (failure : Option EvalError) :
    Prop where
  passage : before.Passage after
  known : ∀ cause ∈ failure, cause.ofInference = true → raised cause ∨
    ∃ refused number, after.refusals = refused ++ before.refusals ∧ (number, cause) ∈ refused

theorem Passed.refused {number : Nat} {cause : EvalError}
    (passage : before.Passage (before.note number cause)) :
    Passed raised before (before.note number cause) (some cause) where
  passage := passage
  known other failed _ := by
    obtain rfl := Option.some.inj failed
    exact .inr ⟨[(number, cause)], number, rfl, List.mem_singleton.mpr rfl⟩

theorem Passed.trans (first : before.Passage middle) (second : Passed raised middle after failure) :
    Passed raised before after failure where
  passage := first.trans second.passage
  known cause failed kind := by
    refine (second.known cause failed kind).imp id ?_
    rintro ⟨later, number, sameLater, member⟩
    obtain ⟨refused, same⟩ := first.refusals
    refine ⟨later ++ refused, number, ?_, List.mem_append_left refused member⟩
    rw [sameLater, same, List.append_assoc]

end Activity

open Activity

namespace Running

variable {α β : Type} {raised : EvalError → Prop} {contexts : Contexts} {property : α → Prop}
  {before after : Activity}

/-- Steps come from the one activity with this outcome to the other, and a result has the property. -/
structure Ends (raised : EvalError → Prop) (property : α → Prop) (before : Activity)
    (outcome : Evaluated α) (after : Activity) : Prop where
  passed : Passed raised before after outcome.failure?
  holds : ∀ value, outcome = .ok value → property value

theorem Ends.ok (passage : before.Passage after) {result : α} (holds : property result) :
    Ends raised property before (.ok result) after :=
  ⟨⟨passage, fun cause failed => absurd failed (Option.not_mem_none cause)⟩,
    fun _ found => Except.ok.inj found ▸ holds⟩

theorem Ends.error {cause : EvalError} (passed : Passed raised before after (some cause)) :
    Ends raised property before (.error cause) after :=
  ⟨passed, fun _ failed => nomatch failed⟩

/-- From wherever these contexts stand, the steps come to their end as a passage. -/
def Passes (raised : EvalError → Prop) (contexts : Contexts) (property : α → Prop)
    (steps : Running α) : Prop :=
  ∀ (activity : Activity) (outcome : Evaluated α) (after : Activity), activity.contexts = contexts →
    steps.run.run activity = some (outcome, after) → Ends raised property activity outcome after

theorem passes_lift {result : Evaluated α}
    (may : ∀ cause, result = .error cause → cause.ofInference = true → raised cause)
    (holds : ∀ value, result = .ok value → property value) :
    Passes raised contexts property (liftM result) := by
  intro activity outcome after _ ran
  rw [run_lift] at ran
  cases ran
  cases result with
  | ok value => exact .ok (.still activity) (holds value rfl)
  | error cause =>
      refine .error ⟨.still activity, fun other failed kind => .inl ?_⟩
      obtain rfl := Option.some.inj failed
      exact may cause rfl kind

theorem passes_pure {result : α} (holds : property result) :
    Passes raised contexts property (pure result) := by
  intro activity outcome after _ ran
  cases ran
  exact .ok (.still activity) holds

theorem passes_bind {middle : β → Prop} {first : Running β} {next : β → Running α}
    (before : Passes raised contexts middle first)
    (after : ∀ result, middle result → Passes raised contexts property (next result)) :
    Passes raised contexts property (first >>= next) := by
  intro activity outcome last same ran
  cases start : first.run.run activity with
  | none =>
      rw [ExceptT.run_bind, StateT.run_bind, start] at ran
      cases ran
  | some reached =>
      obtain ⟨result, between⟩ := reached
      obtain ⟨passed, holds⟩ := before activity result between same start
      cases result with
      | error cause =>
          rw [run_bind_error start] at ran
          cases ran
          exact .error passed
      | ok result =>
          rw [run_bind_ok start] at ran
          obtain ⟨passedNext, holdsNext⟩ := after result (holds result rfl) between outcome last
            (passed.passage.contexts.trans same) ran
          exact ⟨passedNext.trans passed.passage, holdsNext⟩

theorem passes_map {middle : β → Prop} {first : Running β} {change : β → α}
    (before : Passes raised contexts middle first)
    (after : ∀ result, middle result → property (change result)) :
    Passes raised contexts property (change <$> first) := by
  rw [map_eq_pure_bind]
  exact passes_bind before fun result holds => passes_pure (after result holds)

def passing (raised : EvalError → Prop) (contexts : Contexts) : Correspondence Running Running where
  Relates property steps _ := Passes raised contexts property steps
  returns := passes_pure
  continues := passes_bind
  maps := passes_map
  computes {α property result} yields := by
    refine passes_lift (fun cause failed kind => ?_) fun value found => ?_
    · subst failed
      exact absurd kind (Bool.eq_false_iff.mp yields)
    · subst found
      exact yields

theorem passes_get {next : Activity → Running α}
    (passes : ∀ (activity : Activity) (outcome : Evaluated α) (after : Activity),
      activity.contexts = contexts → (next activity).run.run activity = some (outcome, after) →
        Ends raised property activity outcome after) :
    Passes raised contexts property (get >>= next) :=
  fun activity => passes activity

variable {number : Nat} {key : String} {scope : Scope} {trail : List Site}

theorem run_leaving_some {steps : Running α} {activity after : Activity} {outcome : Evaluated α}
    (ran : (leaving number steps).run.run activity = some (outcome, after)) :
    ∃ last, steps.run.run activity = some (outcome, last) ∧ after = last.pop number := by
  cases whole : steps.run.run activity with
  | none =>
      unfold leaving at ran
      rw [ExceptT.run_mk, StateT.run_bind, whole] at ran
      cases ran
  | some reached =>
      rw [run_leaving whole] at ran
      cases ran
      exact ⟨_, rfl, rfl⟩

theorem guarded_ends {steps : Running α} {activity after : Activity} {outcome : Evaluated α}
    (found : activity.contexts.scope? number = some scope)
    (inside : key ∉ activity.inferring number → (activity.inferring number).length < scope.limit →
      ∀ last, steps.run.run (activity.push number key) = some (outcome, last) →
        Ends raised property activity outcome (last.pop number))
    (ran : (guarded scope.limit number key steps).run.run activity = some (outcome, after)) :
    Ends raised property activity outcome after := by
  unfold guarded at ran
  cases present : (activity.inferring number).contains key with
  | true =>
      rw [run_bind_error (run_enter_cycle present)] at ran
      cases ran
      exact .error (.refused (.circle (List.contains_iff_mem.mp present)))
  | false =>
      have absent : key ∉ activity.inferring number := fun member =>
        Bool.false_ne_true (present.symm.trans (List.contains_iff_mem.mpr member))
      by_cases deep : scope.limit ≤ (activity.inferring number).length
      · rw [run_bind_error (run_enter_deep present deep)] at ran
        cases ran
        exact .error (.refused (.deep found absent deep))
      · have below := Nat.lt_of_not_le deep
        rw [run_bind_ok (run_enter present below)] at ran
        obtain ⟨last, ranInside, rfl⟩ := run_leaving_some ran
        exact inside absent below last ranInside

theorem guarded_rules_end {fire : List Rule → Running α} {activity after : Activity}
    {outcome : Evaluated α} (same : activity.contexts = contexts)
    (found : activity.contexts.scope? number = some scope)
    (idle : ∃ value, fire [] = pure value ∧ property value)
    (fires : ∀ bucket, scope.model.candidates? key = some bucket →
      Passes raised contexts property (fire bucket))
    (ran : (guarded scope.limit number key (fire ((scope.model.candidates? key).getD []))).run.run
      activity = some (outcome, after)) :
    Ends raised property activity outcome after := by
  refine guarded_ends found (fun absent below last ranInside => ?_) ran
  cases rules : scope.model.candidates? key with
  | none =>
      obtain ⟨value, given, holds⟩ := idle
      rw [rules, Option.getD_none, given] at ranInside
      cases ranInside
      exact .ok (.unruled found absent below rules) holds
  | some bucket =>
      rw [rules] at ranInside
      obtain ⟨inside, holds⟩ := fires bucket rules (activity.push number key) outcome last same ranInside
      exact ⟨⟨.ruled found absent below rules inside.passage, inside.known⟩, holds⟩

theorem run_get {next : Activity → Running α} {activity : Activity} :
    (get >>= next).run.run activity = (next activity).run.run activity := rfl

theorem run_read_seen {activity : Activity} {value : Value}
    (seen : activity.contexts.value? number key = some value)
    (infer : Nat → String → Running (Option Value)) :
    (read infer number key).run.run activity = some (.ok value, activity) := by
  unfold read
  rw [run_get, seen]
  rfl

theorem run_read_unseen {activity : Activity} {infer : Nat → String → Running (Option Value)}
    (unseen : activity.contexts.value? number key = none) :
    (read infer number key).run.run activity =
      (infer number key >>= fun found => pure (found.getD .null)).run.run activity := by
  unfold read
  rw [run_get, unseen]

variable {program : Program} {allowed : Value → Prop}

theorem read_passes {infer : Nat → String → Running (Option Value)}
    (stored : ∀ value ∈ contexts.value? number key, value.Within allowed)
    (passes : Passes raised contexts (Value.FoundWithin allowed) (infer number key)) :
    Passes raised contexts (Value.Within allowed) (read infer number key) := by
  refine passes_get fun activity outcome after same ran => ?_
  rw [same] at ran
  cases held : contexts.value? number key with
  | some value =>
      rw [held] at ran
      exact passes_pure (stored value held) activity outcome after same ran
  | none =>
      rw [held] at ran
      refine passes_bind passes (fun found within => ?_) activity outcome after same ran
      exact passes_pure (Value.within_getD within)

theorem suits_passing {world : Surroundings Running}
    (surround : (passing raised contexts).Surround allowed world world) {object : Value}
    (within : object.Within allowed) {part : Expression} (holds : part.Holds allowed) :
    (passing raised contexts).Suits allowed world world object object part :=
  Correspondence.suits_of_holds surround within holds fun _ _ _ _ _ => rfl

section

variable (keeps : program.Keeps allowed) (holds : contexts.Within allowed)

include keeps holds

theorem surround_passes {infer : List Site → Nat → String → Running (Option Value)}
    (passes : ∀ trail number key, Passes (program.Raises allowed) contexts
      (Value.FoundWithin allowed) (infer trail number key)) (trail : List Site) :
    (passing (program.Raises allowed) contexts).Surround allowed (surroundings program infer trail)
      (surroundings program infer trail) where
  agrees _ := Host.agrees_self _
  answers site _ answered := passes_lift (fun _ failed _ => ⟨site :: trail, failed ▸ answered⟩)
    fun _ found => keeps.answers answered found
  contextKey site number _ key _ :=
    read_passes (holds.stored number key) (passes (site :: trail) number key)

theorem infer_passes (nested : Nat) (trail : List Site) (number : Nat) (key : String) :
    Passes (program.Raises allowed) contexts (Value.FoundWithin allowed)
      (infer program nested trail number key) := by
  have nothing : Value.FoundWithin allowed none :=
    fun _ found => absurd found.symm (Option.some_ne_none _)
  -- What a rule reads is inferred with one nesting less, by the same steps.
  induction nested generalizing trail number key with
  | zero =>
      intro _ _ _ _ ran
      cases ran
  | succ nested ih =>
      unfold infer
      refine passes_get fun activity outcome after same ran => ?_
      cases found : activity.contexts.scope? number with
      | none =>
          rw [found] at ran
          exact passes_pure nothing activity outcome after same ran
      | some scope =>
          rw [found] at ran
          have around := surround_passes keeps holds ih trail
          refine guarded_rules_end same found ⟨none, rfl, nothing⟩ (fun bucket rules => ?_) ran
          have each := holds.rules number scope (same ▸ found) key bucket rules
          exact Correspondence.fireFirstOf around fun rule member part inside =>
            suits_passing around (holds.subject number trail) (each rule member part inside)

theorem inferAll_passes (nested : Nat) (trail : List Site) (number : Nat) (key : String) :
    Passes (program.Raises allowed) contexts (Value.EachWithin allowed)
      (inferAll program nested trail number key) := by
  unfold inferAll
  refine passes_get fun activity outcome after same ran => ?_
  cases found : activity.contexts.scope? number with
  | none =>
      rw [found] at ran
      exact passes_pure trivial activity outcome after same ran
  | some scope =>
      rw [found] at ran
      have around := surround_passes keeps holds (infer_passes keeps holds nested) trail
      refine guarded_rules_end same found ⟨[], rfl, trivial⟩ (fun bucket rules => ?_) ran
      have each := holds.rules number scope (same ▸ found) key bucket rules
      exact Correspondence.fireAllOf around fun rule member part inside =>
        suits_passing around (holds.subject number trail) (each rule member part inside)

theorem answerFrom_passes (nested : Nat) (trail : List Site) {request : Request}
    (within : request.Within allowed) :
    Passes (program.Raises allowed) contexts (fun _ => True)
      (answerFrom program nested trail request) := by
  have infers := infer_passes keeps holds nested
  have around := surround_passes keeps holds infers trail
  cases request with
  | inquire inquiry number key =>
      cases inquiry with
      | infer => exact passes_map (infers trail number key) fun _ _ => trivial
      | inferAll =>
          exact passes_map (inferAll_passes keeps holds nested trail number key) fun _ _ => trivial
      | valueForKey =>
          exact passes_map (read_passes (holds.stored number key) (infers trail number key))
            fun _ _ => trivial
  | evaluate expression object =>
      exact passes_map (Correspondence.evaluate around expression (fun part inside =>
        suits_passing around within.2 (within.1 part inside)) []) fun _ _ => trivial
  | test predicate object =>
      exact passes_map (Correspondence.evaluatePredicate around predicate fun part inside =>
        suits_passing around within.2 (within.1 part inside)) fun _ _ => trivial

end

end Running

/-- Wherever contexts stand, a request that comes to its end is a passage, and an inference that fails in
it was refused, unless the program raised that failure where it was asked for what is allowed. -/
theorem Activity.Completes.passed {program : Program} {allowed : Value → Prop} {before after : Activity}
    {request : Request} {outcome : Evaluated Answer}
    (completes : before.Completes program request outcome after) (keeps : program.Keeps allowed)
    (holds : before.contexts.Within allowed) (within : request.Within allowed) :
    Passed (program.Raises allowed) before.count after outcome.failure? := by
  obtain ⟨nested, ran⟩ := completes
  exact (Running.answerFrom_passes keeps holds nested before.trail within before.count outcome after
    rfl ran).passed

theorem Activity.Completes.passage {program : Program} {before after : Activity} {request : Request}
    {outcome : Evaluated Answer} (completes : before.Completes program request outcome after) :
    before.count.Passage after := by
  have all : ∀ value : Value, (fun _ => True) value := fun _ => trivial
  have each := Expression.holds_of_all all
  refine (completes.passed ⟨fun {_ _ value} _ _ => Value.within_of_all all value⟩
    (before.contexts.within_of_all all) ?_).passage
  cases request with
  | inquire inquiry number key => trivial
  | evaluate expression object => exact ⟨fun part _ => each part, Value.within_of_all all object⟩
  | test predicate object => exact ⟨fun part _ => each part, Value.within_of_all all object⟩

end PredicateRules
