import PredicateRules.Proofs.Evaluation.Firing
import PredicateRules.Proofs.Inference.Limit

namespace PredicateRules

theorem Inferring.enter_nil (limit number : Nat) (key : String) :
    Inferring.enter [] limit number key =
      if limit = 0 then .error (.inferenceDepthExceeded key limit) else .ok [(number, key)] := by
  simp [Inferring.enter, Inferring.depth]

namespace Contexts

/-- No rule of a scope has the scope itself as a value. -/
def Selfless (contexts : Contexts) : Prop :=
  ∀ number, ∀ scope ∈ contexts.scope? number, scope.model.Everywhere Expression.Selfless

variable {contexts : Contexts} {program other : Program}

theorem worldWithin_agrees (agrees : program.Agrees other) {room : Nat} {inferring : Inferring}
    {trail otherTrail : List Site}
    (same : ∀ site number key, contexts.inferWithin program room inferring (site :: trail) number key =
      contexts.inferWithin other room inferring (site :: otherTrail) number key) :
    (contexts.worldWithin program room inferring trail).Agrees
      (contexts.worldWithin other room inferring otherTrail) where
  host _ := agrees _ _
  contextKey := by
    funext site number key
    have infers : contexts.inferWithin program room inferring (site :: trail) =
        contexts.inferWithin other room inferring (site :: otherTrail) :=
      funext fun number => funext fun key => same site number key
    exact congrArg (contexts.read · number key) infers

/-- An inference comes to the same with either program if the rules do, reached by one or the other of two
trails that are related. -/
theorem inferWithin_congr (related : List Site → List Site → Prop)
    (onward : ∀ site {trail otherTrail}, related trail otherTrail →
      related (site :: trail) (site :: otherTrail))
    (fires : ∀ number, ∀ scope ∈ contexts.scope? number, ∀ {world other : World}, world.Agrees other →
      ∀ {trail otherTrail}, related trail otherTrail → ∀ key,
        scope.model.fireFirst world (subject number trail) key =
          scope.model.fireFirst other (subject number otherTrail) key)
    (agrees : program.Agrees other) (room : Nat) (inferring : Inferring) {trail otherTrail : List Site}
    (near : related trail otherTrail) (number : Nat) (key : String) :
    contexts.inferWithin program room inferring trail number key =
      contexts.inferWithin other room inferring otherTrail number key := by
  induction room generalizing inferring trail otherTrail number key with
  | zero =>
      cases found : contexts.scope? number with
      | none => rw [inferWithin_unknown found, inferWithin_unknown found]
      | some scope =>
          rw [inferWithin_known found, inferWithin_known found]
          rfl
  | succ room ih =>
      cases found : contexts.scope? number with
      | none => rw [inferWithin_unknown found, inferWithin_unknown found]
      | some scope =>
          rw [inferWithin_known found, inferWithin_known found]
          refine bind_congr fun entered => fires number scope found ?_ near key
          exact worldWithin_agrees agrees fun site => ih entered (onward site near)

/-- Without time, chance and contexts as values of their own rules, it does not matter what an inference
is reached by. -/
theorem inferWithin_eq (timeless : contexts.Timeless) (selfless : contexts.Selfless)
    (agrees : program.Agrees other) (room : Nat) (inferring : Inferring) (trail otherTrail : List Site)
    (number : Nat) (key : String) :
    contexts.inferWithin program room inferring trail number key =
      contexts.inferWithin other room inferring otherTrail number key :=
  inferWithin_congr (fun _ _ => True) (fun _ _ _ _ => trivial)
    (fun number scope found _ _ worlds trail otherTrail _ key => Model.fireFirst_subject
      (timeless number scope found) (selfless number scope found) worlds number trail otherTrail key)
    agrees room inferring trivial number key

/-- Without time and chance, it does not matter which conditions an inference is reached through. -/
theorem inferWithin_of_shown (timeless : contexts.Timeless) (agrees : program.Agrees other) (room : Nat)
    (inferring : Inferring) {trail otherTrail : List Site}
    (same : trail.map Site.shown = otherTrail.map Site.shown) (number : Nat) (key : String) :
    contexts.inferWithin program room inferring trail number key =
      contexts.inferWithin other room inferring otherTrail number key := by
  refine inferWithin_congr (fun trail otherTrail => trail.map Site.shown = otherTrail.map Site.shown)
    ?_ ?_ agrees room inferring same number key
  · intro site trail otherTrail same
    rw [List.map_cons, List.map_cons, same]
  · intro number scope found world other worlds trail otherTrail same key
    rw [subject, subject, same]
    exact Model.fireFirstOf_eq worlds (Model.Everywhere.candidates (timeless number scope found) key)

theorem world_matches (timeless : contexts.Timeless) (agrees : program.Agrees other)
    (inferring : Inferring) (trail : List Site) :
    (contexts.world program inferring trail).Matches (contexts.world other inferring trail) where
  host _ _ := agrees _ _
  contextKey {site place} same := by
    funext number key
    have shown : (site :: trail).map Site.shown = (place :: trail).map Site.shown := by
      rw [List.map_cons, List.map_cons, same]
    have infers := funext fun number => funext fun key =>
      inferWithin_of_shown timeless agrees (contexts.room - inferring.length) inferring shown number key
    exact congrArg (contexts.read · number key) infers

theorem worldWithin_placeless (timeless : contexts.Timeless) (selfless : contexts.Selfless)
    (agrees : program.Agrees program) (room : Nat) (inferring : Inferring) (trail : List Site) :
    (contexts.worldWithin program room inferring trail).Placeless where
  host _ _ := agrees _ _
  contextKey site place := by
    funext number key
    have infers : contexts.inferWithin program room inferring (site :: trail) =
        contexts.inferWithin program room inferring (place :: trail) :=
      funext fun number => funext fun key =>
        inferWithin_eq timeless selfless agrees room inferring _ _ number key
    exact congrArg (contexts.read · number key) infers

theorem worldWithin_placeless_agrees (timeless : contexts.Timeless) (selfless : contexts.Selfless)
    (agrees : program.Agrees other) (room : Nat) (inferring : Inferring) (trail otherTrail : List Site) :
    (contexts.worldWithin program room inferring trail).Placeless ∧
      (contexts.worldWithin program room inferring trail).Agrees
        (contexts.worldWithin other room inferring otherTrail) := by
  have own : program.Agrees program := fun places others =>
    (agrees places others).trans (agrees others others).symm
  exact ⟨worldWithin_placeless timeless selfless own room inferring trail,
    worldWithin_agrees agrees fun _ => inferWithin_eq timeless selfless agrees room inferring _ _⟩

/-- What is inferred is the first of all that is inferred in another call, and what fails for one value
fails for all. -/
theorem infer_of_inferAll (timeless : contexts.Timeless) (selfless : contexts.Selfless)
    (agrees : program.Agrees other) (number : Nat) (key : String) (trail otherTrail : List Site) :
    (∀ values, contexts.inferAll program number key trail = .ok values →
      contexts.infer other number key otherTrail = .ok values.head? ∧
        ∀ scope ∈ contexts.scope? number,
          Model.Collects (contexts.world other [(number, key)] otherTrail) (subject number otherTrail)
            ((scope.model.candidates? key).getD []) values) ∧
    ∀ cause, contexts.infer other number key otherTrail = .error cause →
      contexts.inferAll program number key trail = .error cause := by
  unfold infer
  rw [inferAll_eq]
  cases found : contexts.scope? number with
  | none =>
      rw [inferWithin_unknown found]
      refine ⟨fun values all => ?_, fun _ failed => nomatch failed⟩
      obtain rfl := Except.ok.inj all
      exact ⟨rfl, fun _ none => nomatch none⟩
  | some scope =>
      rw [inferWithin_known found]
      dsimp only
      rw [Inferring.enter_nil]
      by_cases shut : scope.limit = 0
      · rw [if_pos shut]
        exact ⟨fun _ all => (nomatch all), fun _ failed => Except.error.inj failed ▸ rfl⟩
      · rw [if_neg shut]
        -- The limit is not above the room, so one key leaves what both worlds have.
        obtain ⟨room, whole⟩ := Nat.exists_eq_succ_of_ne_zero
          (Nat.ne_zero_of_lt ((Nat.pos_of_ne_zero shut).trans_le (limit_le_room found)))
        obtain ⟨placeless, worlds⟩ :=
          worldWithin_placeless_agrees timeless selfless agrees room [(number, key)] trail otherTrail
        obtain ⟨collects, fails⟩ := Model.fireFirst_of_fireAll (timeless number scope found)
          (selfless number scope found) placeless worlds number trail otherTrail key
        unfold Contexts.world
        rw [whole]
        refine ⟨fun values all => ?_, fails⟩
        obtain ⟨collected, first⟩ := collects values all
        refine ⟨first, ?_⟩
        rintro _ ⟨⟩
        exact collected

def mirroring : Contexts :=
  [⟨Model.ofRules [⟨.value true, "me", .selfReference, 0, 0⟩], none, defaultLimit, []⟩]

theorem timeless_mirroring : mirroring.Timeless := by
  intro number scope found
  unfold mirroring scope? at found
  split at found
  · obtain rfl := Option.some.inj found
    refine Model.everywhere_build.mpr fun rule member part inside => ?_
    obtain rfl := List.mem_singleton.mp member
    rw [Rule.substitute_nil] at inside
    obtain rfl := List.mem_singleton.mp inside
    trivial
  · cases found

end Contexts

namespace Activity

/-- Where nothing asks for the time or for a random number, and no rule has its context as a value: if
firing all rules for a key succeeds, it collects in their order the values of the rules whose specifiers
evaluate to true, and firing one rule gives the first of them or nothing; if firing one rule fails, firing
all rules fails for the same cause. This is so for a context in any state, whatever is under inference, and
the same holds between inferring one value and inferring all values of a key of any context, in one call
and in any other. -/
theorem firing_one_is_first_of_all :
    (∀ model : Model, model.NeverTimed → model.Everywhere Expression.Selfless →
      ∀ world other : World, world.Placeless → world.Agrees other →
      ∀ (number : Nat) (trail otherTrail : List Site) (key : String),
        (∀ values, model.fireAll world (Contexts.subject number trail) key = .ok values →
          Model.Collects other (Contexts.subject number otherTrail)
              ((model.candidates? key).getD []) values ∧
            model.fireFirst other (Contexts.subject number otherTrail) key = .ok values.head?) ∧
        ∀ cause, model.fireFirst other (Contexts.subject number otherTrail) key = .error cause →
          model.fireAll world (Contexts.subject number trail) key = .error cause) ∧
    (∀ contexts : Contexts, contexts.Timeless → contexts.Selfless →
      ∀ program other : Program, program.Agrees other →
      ∀ (inferring : Inferring) (trail otherTrail : List Site),
        (contexts.world program inferring trail).Placeless ∧
          (contexts.world program inferring trail).Agrees
            (contexts.world other inferring otherTrail)) ∧
    ∀ first second : Activity, first.Reached → second.Reached → second.contexts = first.contexts →
      first.contexts.Timeless → first.contexts.Selfless →
      ∀ program other : Program, program.Agrees other → ∀ (number : Nat) (key : String),
        ∃ all afterAll outcome after,
          first.Completes program (.inquire .inferAll number key) all afterAll ∧
          second.Completes other (.inquire .infer number key) outcome after ∧
          (∀ values, all = .ok (.inferredAll values) →
            outcome = .ok (.inferred values.head?) ∧
              ∀ scope ∈ first.contexts.scope? number,
                Model.Collects (first.contexts.world other [(number, key)] second.trail)
                  (Contexts.subject number second.trail) ((scope.model.candidates? key).getD [])
                  values) ∧
          ∀ cause, outcome = .error cause → all = .error cause := by
  refine ⟨fun model timeless selfless world other placeless agrees number trail otherTrail key =>
    Model.fireFirst_of_fireAll timeless selfless placeless agrees number trail otherTrail key,
    fun contexts timeless selfless program other agrees inferring trail otherTrail =>
      Contexts.worldWithin_placeless_agrees timeless selfless agrees _ inferring trail otherTrail, ?_⟩
  intro first second reached reachedSecond contexts timeless selfless program other agrees number key
  obtain ⟨afterAll, completesAll, _⟩ :=
    reached.resting.completes program (.inquire .inferAll number key)
  obtain ⟨after, completes, _⟩ := reachedSecond.resting.completes other (.inquire .infer number key)
  refine ⟨_, afterAll, _, after, completesAll, completes, ?_⟩
  rw [contexts]
  obtain ⟨collects, fails⟩ :=
    Contexts.infer_of_inferAll timeless selfless agrees number key first.trail second.trail
  constructor
  · intro values all
    cases inferred : first.contexts.inferAll program number key first.trail with
    | error cause =>
        rw [Contexts.answer, inferred] at all
        contradiction
    | ok given =>
        rw [Contexts.answer, inferred] at all
        obtain rfl : given = values := Answer.inferredAll.inj (Except.ok.inj all)
        obtain ⟨one, collected⟩ := collects given inferred
        exact ⟨by rw [Contexts.answer, one]; rfl, collected⟩
  · intro cause failed
    cases inferred : first.contexts.infer other number key second.trail with
    | ok value? =>
        rw [Contexts.answer, inferred] at failed
        contradiction
    | error reason =>
        rw [Contexts.answer, inferred] at failed
        obtain rfl := Except.error.inj failed
        rw [Contexts.answer, fails reason inferred]
        rfl

/-- Of three rules for a key the one in the middle does not hold; and a key that is read from another
one, all of its values in the first call and one in the second. -/
theorem firing_one_is_first_of_all_chained :
    let world := (Contexts.chained 2).world .silent [(0, "outer")] [[0]]
    let other := (Contexts.chained 2).world .restless [(0, "outer")] [[1]]
    let model := Model.ofRules [⟨.value true, "k", .constant (.int 1), 0, 1⟩,
      ⟨.value false, "k", .constant (.int 2), 0, 1⟩, ⟨.value true, "k", .constant (.int 3), 0, 1⟩]
    let first := atRest (.chained 2)
    let second := atRest (.chained 2) 1
    model.fireAll world (Contexts.subject 0 [[0]]) "k" = .ok [.int 3, .int 1] ∧
    model.fireFirst other (Contexts.subject 0 [[1]]) "k" = .ok (some (.int 3)) ∧
    ∃ all afterAll outcome after,
      first.Completes .silent (.inquire .inferAll 0 "outer") all afterAll ∧
      second.Completes .restless (.inquire .infer 0 "outer") outcome after ∧
      (∀ values, all = .ok (.inferredAll values) →
        outcome = .ok (.inferred values.head?) ∧
          ∀ scope ∈ first.contexts.scope? 0,
            Model.Collects (first.contexts.world .restless [(0, "outer")] second.trail)
              (Contexts.subject 0 second.trail) ((scope.model.candidates? "outer").getD []) values) ∧
      ∀ cause, outcome = .error cause → all = .error cause := by
  intro world other model first second
  have fired : model.fireAll world (Contexts.subject 0 [[0]]) "k" = .ok [.int 3, .int 1] := rfl
  have selfless : (Contexts.chained 2).Selfless := by
    intro number scope found
    obtain rfl := Contexts.scope?_chained found
    exact chainedRules_parts trivial trivial
  refine ⟨fired, ?_, ?_⟩
  · have parts {property : Expression → Prop} (constant : ∀ value, property (.constant value)) :
        model.Everywhere property := by
      refine Model.everywhere_build.mpr fun rule member part inside => ?_
      rw [Rule.substitute_nil] at inside
      simp only [List.mem_cons, List.not_mem_nil, or_false] at member
      rcases member with rfl | rfl | rfl <;>
        (obtain rfl := List.mem_singleton.mp inside; exact constant _)
    obtain ⟨placeless, agrees⟩ := firing_one_is_first_of_all.2.1 (.chained 2)
      (Contexts.timeless_chained 2) selfless .silent .restless Program.silent_agrees [(0, "outer")]
      [[0]] [[1]]
    exact ((firing_one_is_first_of_all.1 model (parts fun _ => trivial) (parts fun _ => trivial) world
      other placeless agrees 0 [[0]] [[1]] "k").1 _ fired).2
  · have reached : first.Reached := Reached.start.create (Model.ofRules chainedRules) 2
    have reachedSecond : second.Reached :=
      reached.request .silent (.evaluate (.constant .null) .null) (.ok (.value .null)) ⟨0, rfl⟩
    exact firing_one_is_first_of_all.2.2 first second reached reachedSecond rfl
      (Contexts.timeless_chained 2) selfless .silent .restless Program.silent_agrees 0 "outer"

/-- Each of two calls gives the context as an object of its own, and the two are not equal. -/
theorem not_firing_one_is_first_of_all :
    (atRest .mirroring).Reached ∧ Contexts.mirroring.Timeless ∧ ∃ all after one last,
      (atRest .mirroring).Completes .silent (.inquire .inferAll 0 "me") (.ok (.inferredAll [all]))
        after ∧
      after.Completes .silent (.inquire .infer 0 "me") (.ok (.inferred (some one))) last ∧
      (one == all) = false :=
  ⟨Reached.start.create _ defaultLimit, Contexts.timeless_mirroring, Contexts.subject 0 [[.call 0]], _,
    Contexts.subject 0 [[.call 1]], _, ⟨1, rfl⟩, ⟨1, rfl⟩, rfl⟩

end Activity

end PredicateRules
