import Mathlib.Logic.Relation
import PredicateRules.Proofs.Inference.Likeness

namespace PredicateRules

open Standpoint

/-- All keys under inference lead to the next one by what the rules read. -/
def Model.Leads (model : Model) (keys : List String) (next : String) : Prop :=
  ∀ key ∈ keys, Relation.TransGen model.Reads key next

theorem Model.Leads.cons {model : Model} {keys : List String} {key next : String}
    (led : model.Leads keys key) (reads : model.Reads key next) : model.Leads (key :: keys) next :=
  List.forall_mem_cons.mpr ⟨.single reads, fun earlier member => (led earlier member).tail reads⟩

/-- Where the keys that rules read do not go round, where no rule has the scope itself as a value, and
where no value leads to a context, no inquiry ever fails because a key requires itself, unless the
embedding program raises that failure itself, in an object or a function that the values lead to. -/
theorem Activity.no_false_circle {activity : Activity} (reached : activity.Reached) {number : Nat}
    {scope : Scope} (found : activity.contexts.scope? number = some scope) {program : Program}
    {allowed : Value → Prop} (keeps : program.KeepsOut allowed)
    (parts : scope.model.Everywhere fun part => part.Selfless ∧ part.Holds allowed)
    (stored : ∀ key, ∀ value ∈ activity.contexts.value? number key, value.Within allowed)
    (acyclic : ∀ key, ¬ Relation.TransGen scope.model.Reads key key) (inquiry : Inquiry)
    (key : String) :
    ∃ outcome after, activity.Completes program (.inquire inquiry number key) outcome after ∧
      ∀ circle, outcome = .error (.inferenceCycle circle) →
        program.Raises allowed (.inferenceCycle circle) := by
  have alike : Alike (fun cause => ∀ key, cause = .inferenceCycle key → program.Raises allowed cause)
      allowed scope.model.Leads Eq ⟨program, activity.contexts, number⟩
      ⟨program, activity.contexts, number⟩ scope scope :=
    { found, foundOther := found, model := rfl, limit := rfl, stored, keeps
      further := fun _ _ _ same => congrArg _ same
      agrees := fun _ _ same => same ▸ Host.agrees_self _
      values := fun _ => rfl
      parts := fun key bucket rules rule member part inside =>
        have ⟨selfless, holds⟩ := parts key bucket rules rule member part inside
        ⟨selfless, holds, fun _ _ same => same ▸ part.computes_self _⟩
      reads := fun _ _ _ led reads => led.cons reads
      circle := fun _ key led member => (acyclic key (led key member)).elim
      deep := fun _ _ same => nomatch same
      raises := fun _ raised _ _ => raised }
  obtain ⟨after, completes, _⟩ := reached.resting.completes program (.inquire inquiry number key)
  refine ⟨_, after, completes, fun circle failed => ?_⟩
  have led : scope.model.Leads [] key := fun _ none => (List.not_mem_nil none).elim
  exact (alike.inquiry led inquiry rfl).failure _ failed rfl circle rfl

theorem reads_chained {key first : String} (reads : (Model.ofRules chainedRules).Reads key first) :
    key = "outer" ∧ first = "inner" := by
  obtain ⟨bucket, found, rule, member, path, inside, component, firstOf, rfl⟩ := reads
  obtain ⟨before, after, whole, _⟩ := List.lookup_eq_some_iff.mp found
  have listed : (key, bucket) ∈ (Model.ofRules chainedRules).index.buckets := by simp [whole]
  have buckets : (Model.ofRules chainedRules).index.buckets =
      chainedRules.map fun rule => (rule.key, [rule]) := rfl
  rw [buckets] at listed
  obtain ⟨only, declared, same⟩ := List.mem_map.mp listed
  obtain ⟨rfl, rfl⟩ := Prod.mk.inj same
  obtain rfl := List.mem_singleton.mp member
  simp only [chainedRules, List.mem_cons, List.not_mem_nil, or_false] at declared
  rcases declared with rfl | rfl
  · obtain rfl := Expression.keyPath.inj (List.mem_singleton.mp inside)
    obtain rfl := Option.some.inj firstOf
    exact ⟨rfl, rfl⟩
  · cases List.mem_singleton.mp inside

theorem acyclic_chained (key : String) :
    ¬ Relation.TransGen (Model.ofRules chainedRules).Reads key key := by
  have ends {first last : String}
      (path : Relation.TransGen (Model.ofRules chainedRules).Reads first last) :
      first = "outer" ∧ last = "inner" := by
    obtain ⟨next, reads, _⟩ := Relation.TransGen.head'_iff.mp path
    obtain ⟨before, _, readsLast⟩ := Relation.TransGen.tail'_iff.mp path
    exact ⟨(reads_chained reads).1, (reads_chained readsLast).2⟩
  intro circle
  obtain ⟨rfl, other⟩ := ends circle
  exact absurd other (by decide)

/-- The outer key is read from the inner one and from nothing else. -/
theorem Activity.no_false_circle_chained :
    (∃ outcome after,
      (atRest (.chained 2)).Completes .silent (.inquire .valueForKey 0 "outer") outcome after ∧
      ∀ circle, outcome = .error (.inferenceCycle circle) →
        Program.silent.Raises (fun _ => False) (.inferenceCycle circle)) ∧
    (Contexts.chained 2).answer .silent (.inquire .valueForKey 0 "outer") = .ok (.value (.bool true)) := by
  refine ⟨?_, rfl⟩
  have reached : (atRest (.chained 2)).Reached := Reached.start.create (Model.ofRules chainedRules) 2
  have found : (Contexts.chained 2).scope? 0 = some ⟨Model.ofRules chainedRules, none, 2, []⟩ := rfl
  have parts : (Model.ofRules chainedRules).Everywhere fun part =>
      part.Selfless ∧ part.Holds fun _ => False :=
    chainedRules_parts ⟨trivial, trivial⟩ ⟨trivial, trivial⟩
  exact no_false_circle reached found Program.silent_keepsOut parts (fun key value held => nomatch held)
    acyclic_chained .valueForKey "outer"

end PredicateRules
