import PredicateRules.Proofs.Inference.Unwinding

namespace PredicateRules

namespace Running

variable {α β : Type}

def Extends (property : α → Prop) (steps other : Running α) : Prop :=
  ∀ activity outcome after, steps.run.run activity = some (outcome, after) →
    other.run.run activity = some (outcome, after) ∧ ∀ value, outcome = .ok value → property value

theorem extends_bind {middle : β → Prop} {property : α → Prop} {first other : Running β}
    {next otherNext : β → Running α} (before : Extends middle first other)
    (after : ∀ result, middle result → Extends property (next result) (otherNext result)) :
    Extends property (first >>= next) (other >>= otherNext) := by
  intro activity outcome last ran
  rw [ExceptT.run_bind, StateT.run_bind] at ran
  cases start : first.run.run activity with
  | none =>
      rw [start] at ran
      cases ran
  | some reached =>
      obtain ⟨result, between⟩ := reached
      obtain ⟨ranOther, holds⟩ := before activity result between start
      rw [start] at ran
      cases result with
      | error cause =>
          cases ran
          exact ⟨run_bind_error ranOther, fun value failed => nomatch failed⟩
      | ok result =>
          obtain ⟨ranNext, holdsNext⟩ := after result (holds result rfl) between outcome last ran
          exact ⟨(run_bind_ok ranOther).trans ranNext, holdsNext⟩

theorem extends_lift {property : α → Prop} {result : Evaluated α}
    (holds : ∀ value, result = .ok value → property value) :
    Extends property (liftM result : Running α) (liftM result) := by
  intro activity outcome after ran
  refine ⟨ran, ?_⟩
  rw [run_lift] at ran
  cases ran
  exact holds

def extending : Correspondence Running Running where
  Relates := Extends
  returns holds := extends_lift fun _ found => Except.ok.inj found ▸ holds
  continues := extends_bind
  maps before after := by
    rw [map_eq_pure_bind, map_eq_pure_bind]
    exact extends_bind before fun result holds =>
      extends_lift fun _ found => Except.ok.inj found ▸ after result holds
  computes yields := extends_lift fun value found => by
    subst found
    exact yields

theorem extends_self (steps : Running α) : Extends (fun _ => True) steps steps :=
  fun _ _ _ ran => ⟨ran, fun _ _ => trivial⟩

theorem leaving_extends {property : α → Prop} {steps other : Running α} {number : Nat}
    (inside : Extends property steps other) :
    Extends property (leaving number steps) (leaving number other) := by
  intro activity outcome after ran
  unfold leaving at ran
  rw [ExceptT.run_mk, StateT.run_bind] at ran
  cases whole : steps.run.run activity with
  | none =>
      rw [whole] at ran
      cases ran
  | some reached =>
      rw [whole] at ran
      cases ran
      obtain ⟨ranOther, holds⟩ := inside activity reached.1 reached.2 whole
      exact ⟨run_leaving ranOther, holds⟩

theorem guarded_extends {property : α → Prop} {steps other : Running α} {limit number : Nat}
    {key : String} (inside : Extends property steps other) :
    Extends property (guarded limit number key steps) (guarded limit number key other) :=
  extends_bind (extends_self _) fun _ _ => leaving_extends inside

variable {program : Program} {number : Nat} {key : String} {trail : List Site}

theorem read_extends {infer other : Nat → String → Running (Option Value)}
    (further : Extends (Value.FoundWithin fun _ => True) (infer number key) (other number key)) :
    Extends (Value.Within fun _ => True) (read infer number key) (read other number key) := by
  refine extends_bind (extends_self _) fun activity _ => ?_
  cases activity.contexts.value? number key with
  | some value => exact extending.returns (Value.within_of_all (fun _ => trivial) value)
  | none =>
      refine extends_bind further fun found _ => ?_
      exact extending.returns (Value.within_of_all (fun _ => trivial) _)

theorem surround_extends (program : Program) (trail : List Site)
    {infer other : List Site → Nat → String → Running (Option Value)}
    (further : ∀ trail number key,
      Extends (Value.FoundWithin fun _ => True) (infer trail number key) (other trail number key)) :
    extending.Surround (fun _ => True) (surroundings program infer trail)
      (surroundings program other trail) where
  agrees _ := Host.agrees_self _
  answers _ _ _ := extends_lift fun value _ => Value.within_of_all (fun _ => trivial) value
  contextKey site number _ key _ := read_extends (further (site :: trail) number key)

theorem suits_extending {infer other : List Site → Nat → String → Running (Option Value)}
    (around : extending.Surround (fun _ => True) (surroundings program infer trail)
      (surroundings program other trail)) (object : Value) (part : Expression) :
    extending.Suits (fun _ => True) (surroundings program infer trail) (surroundings program other trail)
      object object part :=
  Correspondence.suits_of_calls around (fun _ => trivial) object fun _ _ _ _ _ => rfl

theorem infer_extends (program : Program) (nested : Nat) (trail : List Site) (number : Nat) (key : String) :
    Extends (Value.FoundWithin fun _ => True) (infer program nested trail number key)
      (infer program (nested + 1) trail number key) := by
  induction nested generalizing trail number key with
  | zero =>
      intro _ _ _ ran
      cases ran
  | succ nested ih =>
      unfold infer
      refine extends_bind (extends_self _) fun activity _ => ?_
      cases activity.contexts.scope? number with
      | none => exact extending.returns fun _ found => absurd found.symm (Option.some_ne_none _)
      | some scope =>
          have around := surround_extends program trail ih
          exact guarded_extends <| Correspondence.fireFirstOf around
            fun _ _ part _ => suits_extending around _ part

theorem inferAll_extends (program : Program) (nested : Nat) (trail : List Site) (number : Nat)
    (key : String) :
    Extends (Value.EachWithin fun _ => True) (inferAll program nested trail number key)
      (inferAll program (nested + 1) trail number key) := by
  unfold inferAll
  refine extends_bind (extends_self _) fun activity _ => ?_
  cases activity.contexts.scope? number with
  | none => exact extending.returns trivial
  | some scope =>
      have around := surround_extends program trail (infer_extends program nested)
      exact guarded_extends <| Correspondence.fireAllOf around
        fun _ _ part _ => suits_extending around _ part

theorem answerFrom_extends (nested : Nat) (trail : List Site) (request : Request) :
    Extends (fun _ => True) (answerFrom program nested trail request)
      (answerFrom program (nested + 1) trail request) := by
  have infers := infer_extends program nested
  have around := surround_extends program trail infers
  cases request with
  | inquire inquiry number key =>
      cases inquiry with
      | infer => exact extending.maps (infers trail number key) fun _ _ => trivial
      | inferAll =>
          exact extending.maps (inferAll_extends program nested trail number key) fun _ _ => trivial
      | valueForKey =>
          exact extending.maps (read_extends (infers trail number key)) fun _ _ => trivial
  | evaluate expression object =>
      refine extending.maps
        (Correspondence.evaluate around expression (fun part _ => ?_) []) fun _ _ => trivial
      exact suits_extending around object part
  | test predicate object =>
      refine extending.maps
        (Correspondence.evaluatePredicate around predicate fun part _ => ?_) fun _ _ => trivial
      exact suits_extending around object part

theorem run_answer {nested : Nat} {request : Request} {activity : Activity} :
    (answer program nested request).run.run activity =
      (answerFrom program nested activity.trail request).run.run activity.count := rfl

/-- Steps that are followed to their end stay the same when inferences may be nested deeper. -/
theorem answer_mono {nested deeper : Nat} (more : nested ≤ deeper) {request : Request}
    {activity after : Activity} {outcome : Evaluated Answer}
    (ran : (answer program nested request).run.run activity = some (outcome, after)) :
    (answer program deeper request).run.run activity = some (outcome, after) := by
  induction more with
  | refl => exact ran
  | step _ ih =>
      rw [run_answer] at ih ⊢
      exact (answerFrom_extends _ activity.trail request _ outcome after ih).1

end Running

namespace Activity

variable {program : Program} {activity after : Activity} {request : Request} {outcome : Evaluated Answer}

theorem completes_unique {other : Evaluated Answer} {otherAfter : Activity}
    (completes : activity.Completes program request outcome after)
    (completesOther : activity.Completes program request other otherAfter) :
    outcome = other ∧ after = otherAfter := by
  obtain ⟨nested, ran⟩ := completes
  obtain ⟨further, ranOther⟩ := completesOther
  have same := (Running.answer_mono (Nat.le_max_left nested further) ran).symm.trans
    (Running.answer_mono (Nat.le_max_right nested further) ranOther)
  exact Prod.mk.inj (Option.some.inj same)

def Resting (activity : Activity) : Prop := activity.inferring = fun _ => []

theorem Resting.completes (resting : activity.Resting) (program : Program) (request : Request) :
    ∃ after,
      activity.Completes program request (activity.contexts.answer program request activity.trail)
        after ∧
      activity.Unwound after := by
  obtain ⟨after, ran, unwound, _⟩ := Contexts.answerFrom_follows program
    (Nat.lt_succ_self activity.contexts.room) activity.trail request activity.count rfl resting
  exact ⟨after, ⟨_, ran⟩, unwound.contexts, unwound.inferring, unwound.moments, unwound.refusals⟩

/-- However a request comes to its end, it is with what results alone say. -/
theorem Resting.of_completes (resting : activity.Resting)
    (completes : activity.Completes program request outcome after) :
    outcome = activity.contexts.answer program request activity.trail ∧ activity.Unwound after := by
  obtain ⟨last, ends, unwound⟩ := resting.completes program request
  obtain ⟨rfl, rfl⟩ := completes_unique completes ends
  exact ⟨rfl, unwound⟩

/-- Whatever was called before, contexts are at rest between the calls. -/
theorem Reached.resting (reached : activity.Reached) : activity.Resting := by
  induction reached with
  | start => rfl
  | create _ _ _ ih | createChild _ _ ih | setValue _ _ _ _ ih | removeValue _ _ _ ih => exact ih
  | request program request outcome _ completes ih =>
      exact (ih.of_completes completes).2.inferring.trans ih

end Activity

/-- Whatever the rules read and whatever the contexts hold, each other or themselves, an inquiry comes to
an end, with what results alone say. At every moment of it the keys under inference in a scope are
different, and they are no more than the limit and no more than one besides the keys with rules. -/
theorem Contexts.inquiry_ends_within_bounds (program : Program) (contexts : Contexts) (calls : Nat)
    (inquiry : Inquiry) (number : Nat) (key : String) :
    ∃ after, (Activity.atRest contexts calls).Completes program (.inquire inquiry number key)
        (contexts.answer program (.inquire inquiry number key) [[.call calls]]) after ∧
      ∀ held ∈ after.moments, contexts.Bounds held := by
  have resting : (Activity.atRest contexts calls).Resting := rfl
  obtain ⟨after, completes, unwound⟩ := resting.completes program (.inquire inquiry number key)
  obtain ⟨passed, same, bounds⟩ := unwound.moments
  refine ⟨after, completes, ?_⟩
  rw [same]
  exact fun held member => bounds held ((List.mem_append.mp member).resolve_right List.not_mem_nil)

def Host.silent : Host where
  now := ⟨2000, 1, 1, 0, 0, 0, 0⟩
  random _ := 0
  valueForKey _ _ := .ok .null
  call _ _ := .ok .null

def Program.silent : Program := Host.silent

theorem Program.silent_answers {allowed : Value → Prop} {places : List Site} {result : Evaluated Value}
    (answered : (silent.host places).Answers allowed result) : result = .ok .null := by
  cases answered with
  | valueForKey | call => rfl
  | performs _ _ own _ => cases own

theorem Program.silent_keeps (allowed : Value → Prop) : silent.Keeps allowed where
  answers answered found := by
    obtain rfl := Except.ok.inj ((silent_answers answered).symm.trans found)
    trivial

/-- A program like that with another clock, and with numbers that alternate with the depth of a read. -/
def Program.restless : Program where
  host places := { Host.silent with
    now := ⟨2000, 1, 1, 0, 0, places.length, 0⟩
    random := fun bound => if places.length % 2 = 0 then 0 else bound }

theorem Program.silent_agrees : silent.Agrees restless := fun _ _ => ⟨rfl, rfl, rfl⟩

def chainedRules : List Rule :=
  [⟨.value true, "outer", .keyPath "inner", 0, 0⟩, ⟨.value true, "inner", .constant (.bool true), 0, 0⟩]

def Contexts.chained (limit : Nat) : Contexts := [⟨Model.ofRules chainedRules, none, limit, []⟩]

theorem chainedRules_parts {property : Expression → Prop} (path : property (.keyPath "inner"))
    (constant : property (.constant (.bool true))) :
    (Model.ofRules chainedRules).Everywhere property := by
  refine Model.everywhere_build.mpr fun rule member part inside => ?_
  rw [Rule.substitute_nil] at inside
  simp only [chainedRules, List.mem_cons, List.not_mem_nil, or_false] at member
  rcases member with rfl | rfl
  · obtain rfl := List.mem_singleton.mp inside
    exact path
  · obtain rfl := List.mem_singleton.mp inside
    exact constant

theorem Contexts.scope?_chained {limit number : Nat} {scope : Scope}
    (found : (chained limit).scope? number = some scope) :
    scope = ⟨Model.ofRules chainedRules, none, limit, []⟩ := by
  unfold chained scope? at found
  split at found
  · exact (Option.some.inj found).symm
  · cases found

theorem Contexts.card_inferrable_chained_le {limit number : Nat} {scope : Scope}
    (found : (chained limit).scope? number = some scope) : scope.inferrable.card ≤ 2 := by
  obtain rfl := scope?_chained found
  refine (List.toFinset_card_le _).trans ?_
  rw [Model.inferrableKeys, RuleIndex.sortedKeys, List.length_mergeSort]
  exact Nat.le_refl 2

end PredicateRules
