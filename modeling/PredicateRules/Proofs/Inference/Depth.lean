import PredicateRules.Proofs.Inference.Completion
import PredicateRules.Proofs.Inference.Course

namespace PredicateRules

open Activity

namespace Contexts

/-- The models are indexed and in every scope the keys under inference are a chain. -/
def Chained (contexts : Contexts) (held : Stacks) : Prop :=
  ∀ number scope, contexts.scope? number = some scope →
    scope.model.Indexed ∧ scope.Chain (held number)

/-- The scope is at its limit with a chain of keys, of which this one is none. -/
def AtLimit (contexts : Contexts) (held : Stacks) (number : Nat) (key : String) (limit : Nat) : Prop :=
  ∃ scope, contexts.scope? number = some scope ∧ scope.limit = limit ∧
    (held number).length = limit ∧ scope.Chain (held number) ∧ key ∉ held number

theorem Chained.push {contexts : Contexts} {held : Stacks} (chained : contexts.Chained held)
    {number : Nat} {key : String} {scope : Scope} {bucket : List Rule}
    (found : contexts.scope? number = some scope) (absent : key ∉ held number)
    (below : (held number).length < scope.limit)
    (rules : scope.model.candidates? key = some bucket) :
    contexts.Chained (held.replace number (key :: held number)) := by
  intro other scope' foundOther
  obtain ⟨indexed, chain⟩ := chained other scope' foundOther
  by_cases same : other = number
  · subst same
    obtain rfl := Option.some.inj (found.symm.trans foundOther)
    rw [Stacks.replace_self]
    exact ⟨indexed, chain.cons indexed absent below rules⟩
  · rw [Stacks.replace_other same]
    exact ⟨indexed, chain⟩

end Contexts

/-- Each refusal because of a limit in the course of a passage is one at the limit, by the keys that were
under inference at its beginning or at some moment of it. -/
theorem Activity.Passage.at_limit {before after : Activity} (passage : before.Passage after)
    (chained : before.contexts.Chained before.inferring) :
    ∃ passed refused, after.moments = passed ++ before.moments ∧
      after.refusals = refused ++ before.refusals ∧
      ∀ number key limit, (number, .inferenceDepthExceeded key limit) ∈ refused →
        ∃ held ∈ before.inferring :: passed, before.contexts.AtLimit held number key limit := by
  induction passage with
  | still => exact ⟨[], [], rfl, rfl, nofun⟩
  | trans first _ ih ihSecond =>
      obtain ⟨passed, refused, moments, refusals, limits⟩ := ih chained
      rw [first.contexts, first.inferring] at ihSecond
      obtain ⟨later, further, momentsLater, refusalsLater, limitsLater⟩ := ihSecond chained
      refine ⟨later ++ passed, further ++ refused, ?_, ?_, fun number key limit member => ?_⟩
      · rw [momentsLater, moments, List.append_assoc]
      · rw [refusalsLater, refusals, List.append_assoc]
      · rcases List.mem_append.mp member with late | early
        · obtain ⟨held, listed, reached⟩ := limitsLater number key limit late
          exact ⟨held, List.cons_subset_cons _ (List.subset_append_left _ _) listed, reached⟩
        · obtain ⟨held, listed, reached⟩ := limits number key limit early
          exact ⟨held, List.cons_subset_cons _ (List.subset_append_right _ _) listed, reached⟩
  | circle =>
      refine ⟨[], [_], rfl, rfl, fun number key limit member => ?_⟩
      cases List.mem_singleton.mp member
  | @deep activity number key scope found absent deep =>
      refine ⟨[], [_], rfl, rfl, fun other named limit member => ?_⟩
      obtain ⟨rfl, same⟩ := Prod.mk.inj (List.mem_singleton.mp member)
      obtain ⟨rfl, rfl⟩ := EvalError.inferenceDepthExceeded.inj same
      have chain := (chained _ scope found).2
      refine ⟨_, List.mem_cons_self, scope, found, rfl, ?_, chain, absent⟩
      exact Nat.le_antisymm chain.within deep
  | unruled => exact ⟨[_, _], [], rfl, rfl, nofun⟩
  | @ruled activity after number key scope bucket found absent below rules inside ih =>
      obtain ⟨passed, refused, moments, refusals, limits⟩ := ih (chained.push found absent below rules)
      -- Two moments more: the one with the key put on, and the one with the key taken off.
      refine ⟨(after.pop number).inferring :: (passed ++ [(activity.push number key).inferring]),
        refused, ?_, refusals, fun other named limit member => ?_⟩
      · show _ :: after.moments = _
        rw [moments, List.cons_append, List.append_assoc]
        rfl
      · obtain ⟨held, listed, reached⟩ := limits other named limit member
        refine ⟨held, List.mem_cons_of_mem _ (List.mem_cons_of_mem _ ?_), reached⟩
        rcases List.mem_cons.mp listed with rfl | listed
        · exact List.mem_append_right _ List.mem_cons_self
        · exact List.mem_append_left _ listed

namespace Running

variable {program : Program} {nested number : Nat} {trail : List Site} {key : String} {scope : Scope}
  {activity : Activity}

theorem run_infer_known (found : activity.contexts.scope? number = some scope) :
    (infer program (nested + 1) trail number key).run.run activity =
      (guarded scope.limit number key <| scope.model.fireFirst
        (surroundings program (infer program nested) trail) (Contexts.subject number trail) key).run.run
          activity := by
  unfold infer
  rw [run_get, found]

theorem run_infer_unruled (found : activity.contexts.scope? number = some scope)
    (absent : (activity.inferring number).contains key = false)
    (below : (activity.inferring number).length < scope.limit)
    (unruled : scope.model.candidates? key = none) :
    (infer program (nested + 1) trail number key).run.run activity =
      some (.ok none, (activity.push number key).pop number) := by
  rw [run_infer_known found]
  refine (run_bind_ok (run_enter absent below)).trans (run_leaving ?_)
  unfold Model.fireFirst
  rw [unruled]
  rfl

theorem run_infer_deep (found : activity.contexts.scope? number = some scope)
    (absent : (activity.inferring number).contains key = false)
    (deep : scope.limit ≤ (activity.inferring number).length) :
    (infer program (nested + 1) trail number key).run.run activity =
      some (.error (.inferenceDepthExceeded key scope.limit),
        activity.note number (.inferenceDepthExceeded key scope.limit)) := by
  rw [run_infer_known found]
  exact run_bind_error (run_enter_deep absent deep)

end Running

namespace Working

variable {past : List Writing} {working : Working}

theorem Sound.chained (sound : working.Sound) :
    working.session.contexts.Chained working.inferring :=
  fun number scope found =>
    ⟨(sound.scopes number scope found).indexed, (sound.scopes number scope found).chain⟩

theorem Sound.read_unknown (sound : working.Sound) {number : Nat} {scope : Scope} {key : String}
    (found : working.session.contexts.scope? number = some scope)
    (unseen : working.session.contexts.value? number key = none)
    (unruled : ¬ scope.model.HasRule key) (program : Program) :
    ∃ after, working.activity.Completes program (.inquire .valueForKey number key)
      (if (working.inferring number).length < scope.limit then .ok (.value .null)
        else .error (.inferenceDepthExceeded key scope.limit)) after := by
  obtain ⟨-, indexed, chain⟩ := sound.scopes number scope found
  have absent : (working.activity.inferring number).contains key = false := by
    refine Bool.eq_false_iff.mpr fun present => unruled (chain.ruled key ?_)
    exact List.contains_iff_mem.mp present
  have run (outcome : Evaluated (Option Value)) (answer : Evaluated Answer) (after : Activity)
      (inferred : (Running.infer program 1 working.activity.trail number key).run.run
        working.activity.count = some (outcome, after))
      (same : (Answer.value <$> (do return (← outcome).getD .null)) = answer) :
      working.activity.Completes program (.inquire .valueForKey number key) answer after := by
    refine ⟨1, ?_⟩
    show (Answer.value <$> Running.read (Running.infer program 1 working.activity.trail) number
      key).run.run working.activity.count = _
    rw [map_eq_pure_bind, ← same]
    cases outcome with
    | ok value? =>
        exact Running.run_bind_ok ((Running.run_read_unseen unseen).trans (Running.run_bind_ok inferred))
    | error cause =>
        exact Running.run_bind_error
          ((Running.run_read_unseen unseen).trans (Running.run_bind_error inferred))
  by_cases below : (working.inferring number).length < scope.limit
  · rw [if_pos below]
    have unlisted := indexed.candidates?_eq_none.mpr unruled
    exact ⟨_, run _ _ _ (Running.run_infer_unruled found absent below unlisted) rfl⟩
  · rw [if_neg below]
    exact ⟨_, run _ _ _ (Running.run_infer_deep found absent (Nat.le_of_not_lt below)) rfl⟩

/-- A call fails because of the limit of a scope only where a chain of keys has reached it, each with
rules, or where the embedding program raises that failure itself, in an object or a function that the
contexts and the request lead to; and a key that is neither held nor has rules is null wherever the limit
is not reached, and refused where it is. -/
theorem Course.depth_exceeded_at_limit (course : Course past working) :
    let contexts := working.session.contexts
    (∀ program request outcome after, working.activity.Completes program request outcome after →
      ∀ allowed, program.Keeps allowed → contexts.Within allowed → request.Within allowed →
      ∀ key limit, outcome = .error (.inferenceDepthExceeded key limit) →
        program.Raises allowed (.inferenceDepthExceeded key limit) ∨
          ∃ number, (number, .inferenceDepthExceeded key limit) ∈ after.refusals ∧
            ∃ held ∈ working.inferring :: after.moments, contexts.AtLimit held number key limit) ∧
    ∀ number scope key, contexts.scope? number = some scope → contexts.value? number key = none →
      ¬ scope.model.HasRule key → ∀ program,
        ∃ after, working.activity.Completes program (.inquire .valueForKey number key)
          (if (working.inferring number).length < scope.limit then .ok (.value .null)
            else .error (.inferenceDepthExceeded key scope.limit)) after := by
  intro contexts
  refine ⟨fun program request outcome after completes allowed keeps holds within key limit failed => ?_,
    fun number scope key found unseen unruled => course.sound.read_unknown found unseen unruled⟩
  subst failed
  obtain ⟨passage, known⟩ := completes.passed keeps holds within
  refine (known _ rfl rfl).imp id ?_
  rintro ⟨refused, number, refusals, member⟩
  obtain ⟨passed, all, moments, same, limits⟩ := passage.at_limit course.sound.chained
  have whole : after.refusals = all := same.trans (List.append_nil all)
  have during : after.moments = passed := moments.trans (List.append_nil passed)
  have listed : (number, .inferenceDepthExceeded key limit) ∈ after.refusals :=
    refusals ▸ List.mem_append_left _ member
  rw [during]
  exact ⟨number, listed, limits number key limit (whole ▸ listed)⟩

/-- With room for one key, the inner key is refused at the limit, and a key without rules is null. -/
theorem Course.depth_exceeded_chained :
    let working : Working := ⟨(Session.start chainedRules []).openContext 1, fun _ => [], 0⟩
    (∃ after, working.activity.Completes .silent (.inquire .infer 0 "outer")
        (.error (.inferenceDepthExceeded "inner" 1)) after ∧
      ∃ number, (number, .inferenceDepthExceeded "inner" 1) ∈ after.refusals ∧
        ∃ held ∈ working.inferring :: after.moments,
          working.session.contexts.AtLimit held number "inner" 1) ∧
    ∃ after, working.activity.Completes .silent (.inquire .valueForKey 0 "other")
      (.ok (.value .null)) after := by
  intro working
  have course : Course [] working := (Course.start chainedRules []).openContext 1
  have resting : working.activity.Resting := rfl
  have fails : working.activity.contexts.answer .silent (.inquire .infer 0 "outer")
    working.activity.trail = .error (.inferenceDepthExceeded "inner" 1) := rfl
  have found : working.session.contexts.scope? 0 = some ⟨Model.ofRules chainedRules, none, 1, []⟩ := rfl
  have unruled : ¬ (Model.ofRules chainedRules).HasRule "other" := by
    rintro ⟨rule, listed, same⟩
    simp only [Model.ofRules, Model.build, chainedRules, List.mem_cons, List.not_mem_nil, or_false]
      at listed
    rcases listed with rfl | rfl <;> exact absurd same (by decide)
  obtain ⟨limits, reads⟩ := course.depth_exceeded_at_limit
  obtain ⟨after, completes, -⟩ := resting.completes .silent (.inquire .infer 0 "outer")
  rw [fails] at completes
  refine ⟨⟨after, completes, ?_⟩, reads 0 _ "other" found rfl unruled .silent⟩
  have holds : working.session.contexts.Within fun _ => True :=
    working.session.contexts.within_of_all fun _ => trivial
  refine (limits .silent _ _ after completes _ (Program.silent_keeps _) holds trivial "inner" 1
    rfl).resolve_left ?_
  rintro ⟨places, answered⟩
  cases Program.silent_answers answered

end Working

namespace Contexts

def dangling : Contexts :=
  [⟨Model.ofRules [⟨.value true, "outer", .keyPath "inner", 0, 0⟩], none, 1, []⟩]

/-- The key that goes beyond the limit has no rules and is not held. -/
theorem not_depth_exceeded_ruled :
    (∃ after, (Activity.atRest dangling).Completes .silent (.inquire .infer 0 "outer")
      (.error (.inferenceDepthExceeded "inner" 1)) after) ∧
    dangling.value? 0 "inner" = none ∧
    ∀ scope, dangling.scope? 0 = some scope → ¬ scope.model.HasRule "inner" := by
  have resting : (Activity.atRest dangling).Resting := rfl
  have fails : (Activity.atRest dangling).contexts.answer .silent (.inquire .infer 0 "outer")
    (Activity.atRest dangling).trail = .error (.inferenceDepthExceeded "inner" 1) := rfl
  obtain ⟨after, completes, -⟩ := resting.completes .silent (.inquire .infer 0 "outer")
  rw [fails] at completes
  refine ⟨⟨after, completes⟩, rfl, fun scope found => ?_⟩
  obtain rfl := Option.some.inj found
  rintro ⟨rule, listed, same⟩
  obtain rfl := List.mem_singleton.mp listed
  exact absurd same (by decide)

end Contexts

end PredicateRules
