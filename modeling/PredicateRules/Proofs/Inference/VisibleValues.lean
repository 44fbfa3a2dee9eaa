import PredicateRules.Proofs.Inference.Likeness

namespace PredicateRules

open Standpoint

namespace Activity

/-- The same values are held after as before, and neither before nor after is a key under inference. -/
structure Undisturbed (before after : Activity) : Prop where
  contexts : after.contexts = before.contexts
  resting : before.Resting
  restingAfter : after.Resting

theorem Reached.undisturbed {program : Program} {activity after : Activity} {request : Request}
    {outcome : Evaluated Answer} (reached : activity.Reached)
    (completes : activity.Completes program request outcome after) : activity.Undisturbed after where
  contexts := (reached.resting.of_completes completes).2.contexts
  resting := reached.resting
  restingAfter := (reached.request program request outcome completes).resting

/-- Two scopes with the same rules and limit in which the same values are visible: where no rule has the
scope itself as a value or asks for the time or for a random number, and no value leads to a context,
every inquiry comes to the same in both, and leaves both as they were. -/
theorem inference_depends_on_visible_values {first second : Activity} (reached : first.Reached)
    (reachedSecond : second.Reached) {number other : Nat} {scope otherScope : Scope}
    (found : first.contexts.scope? number = some scope)
    (foundOther : second.contexts.scope? other = some otherScope)
    (model : otherScope.model = scope.model) (limit : otherScope.limit = scope.limit)
    {program otherProgram : Program} {allowed : Value → Prop} (keeps : program.KeepsOut allowed)
    (agrees : program.Agrees otherProgram)
    (parts : scope.model.Everywhere fun part =>
      part.Selfless ∧ part.Timeless ∧ part.Holds allowed)
    (stored : ∀ key, ∀ value ∈ first.contexts.value? number key, value.Within allowed)
    (visible : ∀ key, second.contexts.value? other key = first.contexts.value? number key)
    (inquiry : Inquiry) (key : String) :
    ∃ outcome after afterOther,
      first.Completes program (.inquire inquiry number key) outcome after ∧
      second.Completes otherProgram (.inquire inquiry other key) outcome afterOther ∧
      first.Undisturbed after ∧ second.Undisturbed afterOther := by
  have alike : Alike (fun _ => True) allowed (fun _ _ => True) (fun _ _ => True)
      ⟨program, first.contexts, number⟩ ⟨otherProgram, second.contexts, other⟩ scope otherScope :=
    { found, foundOther, model, limit, stored, keeps
      values := visible
      further := fun _ _ _ _ => trivial
      agrees := fun places others _ => agrees places others
      parts := fun key bucket rules rule member part inside =>
        have ⟨selfless, timeless, holds⟩ := parts key bucket rules rule member part inside
        ⟨selfless, holds, fun places others _ => timeless.computes _ _⟩
      reads := fun _ _ _ _ _ => trivial
      circle := fun _ _ _ _ => trivial
      deep := fun _ => trivial
      raises := fun _ _ => trivial }
  obtain ⟨after, completes, _⟩ := reached.resting.completes program (.inquire inquiry number key)
  obtain ⟨afterOther, completesOther, _⟩ :=
    reachedSecond.resting.completes otherProgram (.inquire inquiry other key)
  have same : first.contexts.answer program (.inquire inquiry number key) first.trail =
      second.contexts.answer otherProgram (.inquire inquiry other key) second.trail :=
    (alike.inquiry trivial inquiry trivial).same
  rw [← same] at completesOther
  exact ⟨_, after, afterOther, completes, completesOther, reached.undisturbed completes,
    reachedSecond.undisturbed completesOther⟩

end Activity

def Contexts.flat : Contexts :=
  [⟨Model.ofRules chainedRules, none, 2, [("inner", .bool false)]⟩]

def Contexts.layered : Contexts := ⟨Model.ofRules chainedRules, some 0, 2, []⟩ :: flat

namespace Activity

theorem reached_flat : (atRest .flat).Reached :=
  (Reached.start.create (Model.ofRules chainedRules) 2).setValue 0 "inner" (.bool false)

theorem reached_layered : (atRest .layered).Reached := reached_flat.createChild 0

/-- What the enclosing scope holds counts as much as what the scope holds itself. -/
theorem layered_like_flat :
    (∃ outcome after afterOther,
      (atRest .layered).Completes .silent (.inquire .infer 1 "outer") outcome after ∧
      (atRest .flat).Completes .restless (.inquire .infer 0 "outer") outcome afterOther ∧
      (atRest .layered).Undisturbed after ∧ (atRest .flat).Undisturbed afterOther) ∧
    Contexts.layered.answer .silent (.inquire .infer 1 "outer") =
      .ok (.inferred (some (.bool false))) := by
  refine ⟨?_, rfl⟩
  have parts : (Model.ofRules chainedRules).Everywhere fun part =>
      part.Selfless ∧ part.Timeless ∧ part.Holds fun _ => False :=
    chainedRules_parts ⟨trivial, trivial, trivial⟩ ⟨trivial, trivial, trivial⟩
  have visible (key : String) : Contexts.flat.value? 0 key = Contexts.layered.value? 1 key := by
    simp [Contexts.layered, Contexts.flat, Contexts.value?]
  have stored (key : String) : ∀ value ∈ Contexts.layered.value? 1 key, value.Within fun _ => False := by
    rw [← visible]
    intro value held
    cases same : key == "inner" with
    | true =>
        simp only [Contexts.flat, Contexts.value?, List.length_nil, if_true, List.lookup_cons, same,
          Option.mem_some_iff] at held
        exact held ▸ trivial
    | false => simp [Contexts.flat, Contexts.value?, List.lookup_cons, same] at held
  have found : Contexts.layered.scope? 1 = some ⟨Model.ofRules chainedRules, some 0, 2, []⟩ := rfl
  have foundOther : Contexts.flat.scope? 0 =
      some ⟨Model.ofRules chainedRules, none, 2, [("inner", .bool false)]⟩ := rfl
  exact inference_depends_on_visible_values reached_layered reached_flat found foundOther rfl rfl
    Program.silent_keepsOut Program.silent_agrees parts stored visible .infer "outer"

end Activity

end PredicateRules
