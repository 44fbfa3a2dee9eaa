import PredicateRules.Proofs.Evaluation.Correspondence
import PredicateRules.Proofs.Inference.Entering

/-!
Contexts at work come to an end, with what their results alone say, and then stand as before: whatever
an inference comes to, at whatever depth, its key is taken off again. On the way the keys under
inference in a scope are different and all but the latest have rules.
-/

namespace PredicateRules

namespace Running

variable {α β : Type} {activity after : Activity}

theorem run_lift (result : Evaluated α) :
    (liftM result : Running α).run.run activity = some (result, activity) := rfl

theorem run_bind_ok {first : Running β} {next : β → Running α} {result : β}
    (ran : first.run.run activity = some (.ok result, after)) :
    (first >>= next).run.run activity = (next result).run.run after := by
  rw [ExceptT.run_bind, StateT.run_bind, ran]
  rfl

theorem run_bind_error {first : Running β} {next : β → Running α} {cause : EvalError}
    (ran : first.run.run activity = some (.error cause, after)) :
    (first >>= next).run.run activity = some (.error cause, after) := by
  rw [ExceptT.run_bind, StateT.run_bind, ran]
  rfl

theorem run_leaving {number : Nat} {steps : Running α} {outcome : Evaluated α}
    (ran : steps.run.run activity = some (outcome, after)) :
    (leaving number steps).run.run activity = some (outcome, after.pop number) := by
  unfold leaving
  rw [ExceptT.run_mk, StateT.run_bind, ran]
  rfl

section

variable {limit number : Nat} {key : String}

theorem run_enter_cycle (present : (activity.inferring number).contains key = true) :
    (enter limit number key).run.run activity =
      some (.error (.inferenceCycle key), activity.note number (.inferenceCycle key)) := by
  change (if _ then _ else _ : Running Unit).run.run activity = _
  rw [if_pos present]
  rfl

theorem run_enter_deep (absent : (activity.inferring number).contains key = false)
    (deep : limit ≤ (activity.inferring number).length) :
    (enter limit number key).run.run activity =
      some (.error (.inferenceDepthExceeded key limit),
        activity.note number (.inferenceDepthExceeded key limit)) := by
  change (if _ then _ else if _ then _ else _ : Running Unit).run.run activity = _
  rw [if_neg (Bool.eq_false_iff.mp absent), if_pos deep]
  rfl

theorem run_enter (absent : (activity.inferring number).contains key = false)
    (below : (activity.inferring number).length < limit) :
    (enter limit number key).run.run activity = some (.ok (), activity.push number key) := by
  change (if _ then _ else if _ then _ else _ : Running Unit).run.run activity = _
  rw [if_neg (Bool.eq_false_iff.mp absent), if_neg (Nat.not_le_of_lt below)]
  rfl

end

end Running

namespace Activity

/-- From the one activity to the other, contexts and keys under inference are the same again, and what is
recorded in between keeps the bounds. -/
structure Unwound (before after : Activity) : Prop where
  contexts : after.contexts = before.contexts
  inferring : after.inferring = before.inferring
  moments : ∃ passed, after.moments = passed ++ before.moments ∧
    ∀ held ∈ passed, before.contexts.Bounds held
  refusals : ∃ refused, after.refusals = refused ++ before.refusals ∧
    ∀ refusal ∈ refused, before.contexts.MayRefuse refusal.1 refusal.2

variable {before middle after : Activity}

theorem Unwound.still : Unwound before before where
  contexts := rfl
  inferring := rfl
  moments := ⟨[], rfl, fun _ none => (List.not_mem_nil none).elim⟩
  refusals := ⟨[], rfl, fun _ none => (List.not_mem_nil none).elim⟩

theorem Unwound.refused {number : Nat} {cause : EvalError}
    (may : before.contexts.MayRefuse number cause) : Unwound before (before.note number cause) where
  contexts := rfl
  inferring := rfl
  moments := ⟨[], rfl, fun _ none => (List.not_mem_nil none).elim⟩
  refusals := ⟨[(number, cause)], rfl, List.forall_mem_singleton.mpr may⟩

theorem inferring_pop {number : Nat} {key : String}
    (inside : after.inferring = (before.push number key).inferring) :
    (after.pop number).inferring = before.inferring := by
  have same : after.inferring = before.inferring.replace number (key :: before.inferring number) :=
    inside
  show after.inferring.replace number (after.inferring number).tail = before.inferring
  rw [same, Stacks.replace_self, List.tail_cons, Stacks.replace_back]

/-- A key is put on and taken off, with the same before and after as in between. -/
theorem Unwound.guarded {number : Nat} {key : String}
    (inside : Unwound (before.push number key) after)
    (bounds : before.contexts.Bounds before.inferring)
    (boundsInside : before.contexts.Bounds (before.push number key).inferring) :
    Unwound before (after.pop number) where
  contexts := inside.contexts
  inferring := inferring_pop inside.inferring
  moments := by
    obtain ⟨passed, same, boundsPassed⟩ := inside.moments
    refine ⟨(after.pop number).inferring :: (passed ++ [(before.push number key).inferring]), ?_, ?_⟩
    · show _ :: after.moments = _
      rw [same, List.cons_append, List.append_assoc]
      rfl
    · rw [inferring_pop inside.inferring]
      refine List.forall_mem_cons.mpr ⟨bounds, fun held member => ?_⟩
      rcases List.mem_append.mp member with passing | last
      · exact boundsPassed held passing
      · exact List.mem_singleton.mp last ▸ boundsInside
  refusals := inside.refusals

theorem Unwound.trans (first : Unwound before middle) (second : Unwound middle after) :
    Unwound before after where
  contexts := second.contexts.trans first.contexts
  inferring := second.inferring.trans first.inferring
  moments := by
    obtain ⟨passed, same, bounds⟩ := first.moments
    obtain ⟨later, sameLater, boundsLater⟩ := second.moments
    rw [first.contexts] at boundsLater
    refine ⟨later ++ passed, by rw [sameLater, same, List.append_assoc], ?_⟩
    exact fun held member => (List.mem_append.mp member).elim (boundsLater held) (bounds held)
  refusals := by
    obtain ⟨refused, same, justified⟩ := first.refusals
    obtain ⟨later, sameLater, justifiedLater⟩ := second.refusals
    rw [first.contexts] at justifiedLater
    refine ⟨later ++ refused, by rw [sameLater, same, List.append_assoc], ?_⟩
    exact fun refusal member =>
      (List.mem_append.mp member).elim (justifiedLater refusal) (justified refusal)

end Activity

namespace Contexts

/-- The steps come to the result from wherever these contexts stand with these keys under inference, and
are unwound. -/
def Follows (contexts : Contexts) (held : Stacks) {α : Type} (property : α → Prop)
    (steps : Running α) (result : Evaluated α) : Prop :=
  ∀ activity : Activity, activity.contexts = contexts → activity.inferring = held →
    ∃ after, steps.run.run activity = some (result, after) ∧
      activity.Unwound after ∧ ∀ value, result = .ok value → property value

theorem follows_lift {contexts : Contexts} {held : Stacks} {α : Type} {property : α → Prop}
    {result : Evaluated α} (holds : ∀ value, result = .ok value → property value) :
    Follows contexts held property (liftM result) result :=
  fun activity _ _ => ⟨activity, Running.run_lift result, .still, holds⟩

theorem follows_bind {contexts : Contexts} {held : Stacks} {α β : Type}
    {middle : β → Prop} {property : α → Prop} {first : Running β} {other : Evaluated β}
    {next : β → Running α} {otherNext : β → Evaluated α}
    (before : Follows contexts held middle first other)
    (after : ∀ result, middle result → Follows contexts held property (next result)
      (otherNext result)) :
    Follows contexts held property (first >>= next) (other >>= otherNext) := by
  intro activity same inferring
  obtain ⟨reached, ran, unwound, holds⟩ := before activity same inferring
  cases other with
  | error cause =>
      exact ⟨reached, Running.run_bind_error ran, unwound, fun value failed => nomatch failed⟩
  | ok result =>
      obtain ⟨last, ranNext, unwoundNext, holdsNext⟩ := after result (holds result rfl) reached
        (unwound.contexts.trans same) (unwound.inferring.trans inferring)
      exact ⟨last, (Running.run_bind_ok ran).trans ranNext, unwound.trans unwoundNext, holdsNext⟩

def following (contexts : Contexts) (held : Stacks) : Correspondence Running Evaluated where
  Relates := Follows contexts held
  returns holds := follows_lift fun _ found => Except.ok.inj found ▸ holds
  continues := follows_bind
  maps before after := by
    rw [map_eq_pure_bind, map_eq_pure_bind]
    refine follows_bind before fun result holds => ?_
    exact follows_lift fun _ found => Except.ok.inj found ▸ after result holds
  computes yields := follows_lift fun value found => by
    subst found
    exact yields

variable {program : Program} {contexts : Contexts} {inferring : Inferring} {number : Nat} {scope : Scope}
  {key : String} {α : Type} {property : α → Prop}

theorem contains_inferring :
    inferring.contains (number, key) = (inferring.held number).contains key := by
  rw [Bool.eq_iff_iff, List.contains_iff_mem, List.contains_iff_mem, Inferring.mem_held]

theorem guarded_follows {steps : Running α} {next : Inferring → Evaluated α}
    (entered : contexts.Entered inferring) (ruled : contexts.Ruled inferring)
    (found : contexts.scope? number = some scope)
    (inside : contexts.Entered ((number, key) :: inferring) →
      Follows contexts (Inferring.held ((number, key) :: inferring)) property steps
        (next ((number, key) :: inferring))) :
    Follows contexts inferring.held property (Running.guarded scope.limit number key steps)
      (inferring.enter scope.limit number key >>= next) := by
  intro activity same held
  obtain rfl := same
  have depth : (activity.inferring number).length = inferring.depth number := by
    rw [held, Inferring.length_held]
  unfold Inferring.enter
  rw [contains_inferring, ← held, ← depth]
  -- A key is refused in a cycle and at the limit; otherwise it is pushed, and popped again behind.
  cases present : (activity.inferring number).contains key with
  | true =>
      refine ⟨_, Running.run_bind_error (Running.run_enter_cycle present), .refused ?_,
        fun value failed => nomatch failed⟩
      exact ⟨scope, found, fun key limit deep => nomatch deep⟩
  | false =>
      by_cases deep : scope.limit ≤ (activity.inferring number).length
      · rw [if_neg Bool.false_ne_true, if_pos deep]
        refine ⟨_, Running.run_bind_error (Running.run_enter_deep present deep), .refused ?_,
          fun value failed => nomatch failed⟩
        refine ⟨scope, found, fun _ _ same => ?_⟩
        obtain ⟨rfl, rfl⟩ := EvalError.inferenceDepthExceeded.inj same
        exact ⟨rfl, deep.trans (held ▸ entered.length_held_le ruled found)⟩
      · rw [if_neg Bool.false_ne_true, if_neg deep]
        have below := Nat.lt_of_not_le deep
        have absent : (number, key) ∉ inferring := by
          rw [held, ← contains_inferring] at present
          exact fun member => Bool.false_ne_true (present.symm.trans (List.contains_iff_mem.mpr member))
        have inner := entered.cons found absent (depth ▸ below)
        have pushed : (activity.push number key).inferring =
            Inferring.held ((number, key) :: inferring) := by
          rw [Inferring.held_cons, ← held]
          rfl
        obtain ⟨after, ran, unwound, holds⟩ := inside inner (activity.push number key) rfl pushed
        refine ⟨after.pop number, ?_, unwound.guarded ?_ ?_, holds⟩
        · exact (Running.run_bind_ok (Running.run_enter present below)).trans
            (Running.run_leaving ran)
        · exact held ▸ entered.bounds ruled
        · exact pushed ▸ inner.bounds_cons entered ruled

theorem follows_get {held : Stacks} {next : Activity → Running α} {result : Evaluated α}
    (follows : ∀ activity : Activity, activity.contexts = contexts → activity.inferring = held →
      Follows contexts held property (next activity) result) :
    Follows contexts held property (get >>= next) result := by
  intro activity same inferring
  exact follows activity same inferring activity same inferring

theorem read_follows {held : Stacks} {infer : Nat → String → Running (Option Value)}
    {other : Nat → String → Evaluated (Option Value)}
    {middle : Option Value → Prop}
    (follows : Follows contexts held middle (infer number key) (other number key)) :
    Follows contexts held (Value.Within fun _ => True) (Running.read infer number key)
      (contexts.read other number key) := by
  refine follows_get fun activity same _ => ?_
  unfold Contexts.read
  rw [same]
  cases contexts.value? number key with
  | some value =>
      exact (following contexts held).returns (Value.within_of_all (fun _ => trivial) value)
  | none =>
      refine follows_bind follows fun found _ => ?_
      exact (following contexts held).returns (Value.within_of_all (fun _ => trivial) _)

theorem surround_follows {held : Stacks} {room : Nat} {trail : List Site}
    {infer : List Site → Nat → String → Running (Option Value)} {middle : Option Value → Prop}
    (follows : ∀ trail number key, Follows contexts held middle (infer trail number key)
      (contexts.inferWithin program room inferring trail number key)) :
    (following contexts held).Surround (fun _ => True) (Running.surroundings program infer trail)
      (contexts.worldWithin program room inferring trail) where
  agrees _ := Host.agrees_self _
  answers _ _ _ := follows_lift fun value _ => Value.within_of_all (fun _ => trivial) value
  contextKey site number _ key _ := read_follows (follows (site :: trail) number key)

section

variable {held : Stacks} {surroundings : Surroundings Running} {world : World} {subject : Value}

theorem suits_following (same : surroundings.host = world.host)
    (surround : (following contexts held).Surround (fun _ => True) surroundings world)
    (part : Expression) :
    (following contexts held).Suits (fun _ => True) surroundings world subject subject part :=
  Correspondence.suits_of_calls surround (fun _ => trivial) subject
    fun _ _ _ _ _ => by rw [same]

theorem fireFirst_follows (same : surroundings.host = world.host)
    (surround : ∀ bucket, scope.model.candidates? key = some bucket →
      (following contexts held).Surround (fun _ => True) surroundings world) :
    Follows contexts held (Value.FoundWithin fun _ => True)
      (scope.model.fireFirst surroundings subject key) (scope.model.fireFirst world subject key) := by
  unfold Model.fireFirst
  cases rules : scope.model.candidates? key with
  | none => exact (following contexts held).returns fun _ none => nomatch none
  | some bucket =>
      have around := surround bucket rules
      exact Correspondence.fireFirstOf around fun _ _ part _ => suits_following same around part

theorem fireAll_follows (same : surroundings.host = world.host)
    (surround : ∀ bucket, scope.model.candidates? key = some bucket →
      (following contexts held).Surround (fun _ => True) surroundings world) :
    Follows contexts held (Value.EachWithin fun _ => True)
      (scope.model.fireAll surroundings subject key) (scope.model.fireAll world subject key) := by
  unfold Model.fireAll
  cases rules : scope.model.candidates? key with
  | none => exact (following contexts held).returns trivial
  | some bucket =>
      have around := surround bucket rules
      exact Correspondence.fireAllOf around fun _ _ part _ => suits_following same around part

end

theorem infer_follows (nested : Nat) {inferring : Inferring} {room : Nat} {trail : List Site}
    {number : Nat} {key : String} (entered : contexts.Entered inferring)
    (ruled : contexts.Ruled inferring) (whole : room + inferring.length = contexts.room)
    (enough : room < nested) :
    Follows contexts inferring.held (Value.FoundWithin fun _ => True)
      (Running.infer program nested trail number key)
      (contexts.inferWithin program room inferring trail number key) := by
  induction nested generalizing inferring room trail number key with
  | zero => exact absurd enough (Nat.not_lt_zero room)
  | succ nested ih =>
      unfold Running.infer
      refine follows_get fun activity same _ => ?_
      rw [same]
      cases found : contexts.scope? number with
      | none =>
          rw [inferWithin_unknown found]
          exact (following contexts _).returns fun _ none => nomatch none
      | some scope =>
          rw [inferWithin_known found]
          refine guarded_follows entered ruled found fun inner => ?_
          -- Where no room is left, every scope is at its limit.
          have bound := length_le_room inner.known inner.deep
          rw [List.length_cons] at bound
          cases room with
          | zero => omega
          | succ room =>
              refine fireFirst_follows rfl fun bucket rules => ?_
              have ruledInside := ruled.cons found (Scope.inferrable_of_candidates? rules)
              exact surround_follows fun _ _ _ => ih inner ruledInside
                (by rw [List.length_cons]; omega) (Nat.lt_of_succ_lt_succ enough)

variable {nested : Nat}

theorem infer_follows_outer (program : Program) (enough : contexts.room < nested) (trail : List Site)
    (number : Nat) (key : String) :
    Follows contexts (Inferring.held []) (Value.FoundWithin fun _ => True)
      (Running.infer program nested trail number key)
      (contexts.inferWithin program contexts.room [] trail number key) :=
  infer_follows nested entered_nil ruled_nil rfl enough

theorem inferAll_follows (enough : contexts.room < nested) (trail : List Site) :
    Follows contexts (Inferring.held []) (Value.EachWithin fun _ => True)
      (Running.inferAll program nested trail number key)
      (contexts.inferAll program number key trail) := by
  unfold Running.inferAll
  refine follows_get fun activity same _ => ?_
  rw [same, inferAll_eq]
  cases found : contexts.scope? number with
  | none => exact (following contexts _).returns trivial
  | some scope =>
      refine guarded_follows entered_nil ruled_nil found fun inner => ?_
      refine fireAll_follows rfl fun bucket rules => ?_
      have ruled := ruled_nil.cons found (Scope.inferrable_of_candidates? rules)
      have bound := length_le_room inner.known inner.deep
      exact surround_follows fun _ _ _ => infer_follows nested inner ruled
        (Nat.sub_add_cancel bound) ((Nat.sub_le _ _).trans_lt enough)

/-- What contexts at work come to is what results alone say. -/
theorem answerFrom_follows (program : Program) (enough : contexts.room < nested) (trail : List Site)
    (request : Request) :
    Follows contexts (Inferring.held []) (fun _ => True)
      (Running.answerFrom program nested trail request) (contexts.answer program request trail) := by
  have infers := infer_follows_outer program enough
  have around : (following contexts (Inferring.held [])).Surround (fun _ => True)
      (Running.surroundings program (Running.infer program nested) trail)
      (contexts.outerWorld program trail) :=
    surround_follows infers
  cases request with
  | inquire inquiry number key =>
      cases inquiry with
      | infer => exact (following contexts _).maps (infers trail number key) fun _ _ => trivial
      | inferAll => exact (following contexts _).maps (inferAll_follows enough trail) fun _ _ => trivial
      | valueForKey =>
          exact (following contexts _).maps (read_follows (infers trail number key))
            fun _ _ => trivial
  | evaluate expression object =>
      refine (following contexts _).maps
        (Correspondence.evaluate around expression (fun part _ => ?_) []) fun _ _ => trivial
      exact suits_following rfl around part
  | test predicate object =>
      refine (following contexts _).maps
        (Correspondence.evaluatePredicate around predicate fun part _ => ?_) fun _ _ => trivial
      exact suits_following rfl around part

end Contexts

end PredicateRules
