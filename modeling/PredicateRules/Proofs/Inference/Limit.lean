import PredicateRules.Proofs.Inference.Completion

namespace PredicateRules

namespace Evaluated

variable {α β : Type} {property : α → Prop}

/-- The failure of an inference that the limit of a scope does not allow. -/
def CutOff (result : Evaluated α) : Prop :=
  ∃ key limit, result = .error (.inferenceDepthExceeded key limit)

/-- The first result is the other one, unless it was cut off. -/
def UpToCut (property : α → Prop) (result other : Evaluated α) : Prop :=
  result.CutOff ∨ result = other ∧ ∀ value, result = .ok value → property value

theorem upToCut_self {result : Evaluated α} (holds : ∀ value, result = .ok value → property value) :
    UpToCut property result result :=
  .inr ⟨rfl, holds⟩

theorem upToCut_bind {middle : β → Prop} {first other : Evaluated β} {next otherNext : β → Evaluated α}
    (before : UpToCut middle first other)
    (after : ∀ result, middle result → UpToCut property (next result) (otherNext result)) :
    UpToCut property (first >>= next) (other >>= otherNext) := by
  rcases before with ⟨key, limit, rfl⟩ | ⟨rfl, holds⟩
  · exact .inl ⟨key, limit, rfl⟩
  · cases first with
    | error cause => exact .inr ⟨rfl, fun value failed => nomatch failed⟩
    | ok result => exact after result (holds result rfl)

def cutting : Correspondence Evaluated Evaluated where
  Relates := UpToCut
  returns holds := upToCut_self fun _ found => Except.ok.inj found ▸ holds
  continues := upToCut_bind
  maps before after := by
    rw [map_eq_pure_bind, map_eq_pure_bind]
    exact upToCut_bind before fun result holds =>
      upToCut_self fun _ found => Except.ok.inj found ▸ after result holds
  computes yields := upToCut_self fun value found => by
    subst found
    exact yields

end Evaluated

open Evaluated

theorem Inferring.enter_upToCut {inferring : Inferring} {limit higher : Nat} (raised : limit ≤ higher)
    (number : Nat) (key : String) :
    UpToCut (fun _ => True) (inferring.enter limit number key) (inferring.enter higher number key) := by
  unfold Inferring.enter
  by_cases circle : inferring.contains (number, key) = true
  · rw [if_pos circle, if_pos circle]
    exact upToCut_self fun _ _ => trivial
  · rw [if_neg circle, if_neg circle]
    by_cases deep : limit ≤ inferring.depth number
    · rw [if_pos deep]
      exact .inl ⟨key, limit, rfl⟩
    · rw [if_neg deep, if_neg fun reached => deep (raised.trans reached)]
      exact upToCut_self fun _ _ => trivial

/-- The same scope with a limit that is no lower. -/
structure Scope.Raised (scope other : Scope) : Prop where
  model : other.model = scope.model
  parent : other.parent = scope.parent
  values : other.values = scope.values
  limit : scope.limit ≤ other.limit

namespace Contexts

abbrev Raised : Contexts → Contexts → Prop := List.Forall₂ Scope.Raised

def setLimit (contexts : Contexts) (number limit : Nat) : Contexts :=
  contexts.update (fun scope => { scope with limit := limit }) number

theorem raised_refl (contexts : Contexts) : contexts.Raised contexts :=
  List.forall₂_same.mpr fun _ _ => ⟨rfl, rfl, rfl, Nat.le_refl _⟩

theorem raised_setLimit {contexts : Contexts} {number limit : Nat}
    (higher : ∀ scope ∈ contexts.scope? number, scope.limit ≤ limit) :
    contexts.Raised (contexts.setLimit number limit) := by
  induction contexts with
  | nil => exact .nil
  | cons latest older ih =>
      unfold setLimit update
      unfold scope? at higher
      split at higher
      next same =>
        rw [if_pos same]
        exact .cons ⟨rfl, rfl, rfl, higher latest rfl⟩ (raised_refl older)
      next different =>
        rw [if_neg different]
        exact .cons ⟨rfl, rfl, rfl, Nat.le_refl _⟩ (ih higher)

namespace Raised

variable {contexts other : Contexts}

theorem scope? (raised : contexts.Raised other) (number : Nat) :
    contexts.scope? number = none ∧ other.scope? number = none ∨
      ∃ scope higher, contexts.scope? number = some scope ∧ other.scope? number = some higher ∧
        scope.Raised higher := by
  induction raised with
  | nil => exact .inl ⟨rfl, rfl⟩
  | cons head tail ih =>
      unfold Contexts.scope?
      rw [← tail.length_eq]
      split
      · exact .inr ⟨_, _, rfl, rfl, head⟩
      · exact ih

theorem value? (raised : contexts.Raised other) (number : Nat) (key : String) :
    other.value? number key = contexts.value? number key := by
  induction raised generalizing number with
  | nil => rfl
  | cons head tail ih =>
      unfold Contexts.value?
      rw [← tail.length_eq, head.values, head.parent]
      split
      · split
        · rfl
        · split
          · exact ih _
          · rfl
      · exact ih number

theorem room_le (raised : contexts.Raised other) : contexts.room ≤ other.room := by
  induction raised with
  | nil => exact Nat.le_refl _
  | cons head tail ih =>
      exact Nat.add_le_add head.limit ih

end Raised

def Timeless (contexts : Contexts) : Prop :=
  ∀ number, ∀ scope ∈ contexts.scope? number, scope.model.Everywhere Expression.Timeless

section

variable {contexts other : Contexts} {program otherProgram : Program}

theorem read_upToCut (raised : contexts.Raised other) {infer : Nat → String → Evaluated (Option Value)}
    {otherInfer : Nat → String → Evaluated (Option Value)} {number : Nat} {key : String}
    (infers : UpToCut (Value.FoundWithin fun _ => True) (infer number key) (otherInfer number key)) :
    UpToCut (Value.Within fun _ => True) (contexts.read infer number key)
      (other.read otherInfer number key) :=
  cutting.read (raised.value? number key) (fun value _ => Value.within_of_all (fun _ => trivial) value)
    infers

theorem surround_upToCut (raised : contexts.Raised other) (agrees : program.Agrees otherProgram)
    {room otherRoom : Nat} {inferring : Inferring} (trail : List Site)
    (infers : ∀ trail number key, UpToCut (Value.FoundWithin fun _ => True)
      (contexts.inferWithin program room inferring trail number key)
      (other.inferWithin otherProgram otherRoom inferring trail number key)) :
    cutting.Surround (fun _ => True) (contexts.worldWithin program room inferring trail)
      (other.worldWithin otherProgram otherRoom inferring trail) where
  agrees site := agrees (site :: trail) (site :: trail)
  answers _ _ _ := upToCut_self fun _ _ => Value.within_of_all (fun _ => trivial) _
  contextKey site number _ key _ := read_upToCut raised (infers (site :: trail) number key)

theorem suits_cutting {world otherWorld : World}
    (surround : cutting.Surround (fun _ => True) world otherWorld) (subject : Value)
    {part : Expression} (timeless : part.Timeless) :
    cutting.Suits (fun _ => True) world otherWorld subject subject part :=
  Correspondence.suits_of_calls surround (fun _ => trivial) subject
    fun function arguments same site values => by
      subst same
      exact timeless.compute_congr (world.host site) (otherWorld.host site) values

theorem inferWithin_upToCut (raised : contexts.Raised other) (agrees : program.Agrees otherProgram)
    (timeless : contexts.Timeless) {room otherRoom : Nat} (more : room ≤ otherRoom)
    (inferring : Inferring) (trail : List Site) (number : Nat) (key : String) :
    UpToCut (Value.FoundWithin fun _ => True)
      (contexts.inferWithin program room inferring trail number key)
      (other.inferWithin otherProgram otherRoom inferring trail number key) := by
  induction room using Nat.strong_induction_on generalizing otherRoom inferring trail number key with
  | _ room ih =>
      obtain ⟨unknown, unknownOther⟩ | ⟨scope, higher, found, foundOther, scopes⟩ :=
        raised.scope? number
      · rw [inferWithin_unknown unknown, inferWithin_unknown unknownOther]
        exact cutting.returns fun _ none => nomatch none
      · rw [inferWithin_known found, inferWithin_known foundOther]
        refine upToCut_bind (Inferring.enter_upToCut scopes.limit number key) fun entered _ => ?_
        cases room with
        | zero => exact .inl ⟨key, scope.limit, rfl⟩
        | succ room =>
            obtain ⟨otherRoom, rfl⟩ := Nat.exists_eq_succ_of_ne_zero (Nat.ne_zero_of_lt more)
            have around := surround_upToCut raised agrees trail
              (ih room (Nat.lt_succ_self room) (Nat.le_of_succ_le_succ more) entered)
            unfold firing Model.fireFirst
            rw [scopes.model]
            exact Correspondence.fireFirstOf around fun rule member part inside =>
              suits_cutting around _
                ((timeless number scope found).candidates key rule member part inside)

theorem inferAll_upToCut (raised : contexts.Raised other) (agrees : program.Agrees otherProgram)
    (timeless : contexts.Timeless) (trail : List Site) (number : Nat) (key : String) :
    UpToCut (Value.EachWithin fun _ => True) (contexts.inferAll program number key trail)
      (other.inferAll otherProgram number key trail) := by
  rw [inferAll_eq, inferAll_eq]
  obtain ⟨unknown, unknownOther⟩ | ⟨scope, higher, found, foundOther, scopes⟩ :=
    raised.scope? number
  · rw [unknown, unknownOther]
    exact cutting.returns trivial
  · rw [found, foundOther]
    refine upToCut_bind (Inferring.enter_upToCut scopes.limit number key) fun entered _ => ?_
    have more := Nat.sub_le_sub_right raised.room_le entered.length
    have around := surround_upToCut raised agrees trail
      (inferWithin_upToCut raised agrees timeless more entered)
    unfold Model.fireAll
    rw [scopes.model]
    exact Correspondence.fireAllOf around fun rule member part inside =>
      suits_cutting around _ ((timeless number scope found).candidates key rule member part inside)

theorem inquiry_upToCut (raised : contexts.Raised other) (agrees : program.Agrees otherProgram)
    (timeless : contexts.Timeless) (trail : List Site) (inquiry : Inquiry) (number : Nat)
    (key : String) :
    UpToCut (fun _ => True) (contexts.answer program (.inquire inquiry number key) trail)
      (other.answer otherProgram (.inquire inquiry number key) trail) := by
  have infers := inferWithin_upToCut raised agrees timeless raised.room_le [] trail
  cases inquiry with
  | infer => exact cutting.maps (infers number key) fun _ _ => trivial
  | inferAll =>
      exact cutting.maps (inferAll_upToCut raised agrees timeless trail number key) fun _ _ => trivial
  | valueForKey =>
      exact cutting.maps (read_upToCut raised (infers number key)) fun _ _ => trivial

end

/-- A scope whose limit is beyond its keys with rules never refuses because of the limit. -/
theorem not_refused_deep {contexts : Contexts} {number : Nat} {scope : Scope}
    (found : contexts.scope? number = some scope) (wide : scope.inferrable.card < scope.limit)
    {program : Program} {calls : Nat} {request : Request} {outcome : Evaluated Answer}
    {after : Activity}
    (completes : (Activity.atRest contexts calls).Completes program request outcome after)
    (key : String) (limit : Nat) : (number, .inferenceDepthExceeded key limit) ∉ after.refusals := by
  have resting : (Activity.atRest contexts calls).Resting := rfl
  obtain ⟨refused, same, may⟩ := (resting.of_completes completes).2.refusals
  have whole : after.refusals = refused := same.trans (List.append_nil refused)
  rw [whole]
  intro member
  obtain ⟨other, foundOther, reached⟩ := may _ member
  obtain rfl : scope = other := Option.some.inj (found.symm.trans foundOther)
  obtain ⟨rfl, deep⟩ := reached key limit rfl
  exact Nat.not_le_of_lt wide deep

/-- Where no rule asks for the time or for a random number, an inquiry with a higher limit of one scope
comes to the same, unless the limit cut it off. And a scope whose limit is beyond its keys with rules
never refuses because of the limit, whatever the contexts hold and whatever is asked for. -/
theorem limit_only_cuts_off (contexts : Contexts) (calls : Nat) :
    (contexts.Timeless → ∀ number limit : Nat,
      (∀ scope ∈ contexts.scope? number, scope.limit ≤ limit) →
      ∀ program other : Program, program.Agrees other → ∀ (inquiry : Inquiry) (asked : Nat) (key : String),
        ∃ outcome after higher afterHigher,
          (Activity.atRest contexts calls).Completes program (.inquire inquiry asked key) outcome after ∧
          (Activity.atRest (contexts.setLimit number limit) calls).Completes other
            (.inquire inquiry asked key) higher afterHigher ∧
          (outcome.CutOff ∨ outcome = higher)) ∧
      ∀ number, ∀ scope ∈ contexts.scope? number, scope.inferrable.card < scope.limit →
        ∀ program request outcome after,
          (Activity.atRest contexts calls).Completes program request outcome after →
            ∀ key limit, (number, .inferenceDepthExceeded key limit) ∉ after.refusals := by
  refine ⟨?_, fun number scope found wide program request outcome after completes =>
    not_refused_deep found wide completes⟩
  intro timeless number limit higher program other agrees inquiry asked key
  have resting : (Activity.atRest contexts calls).Resting := rfl
  have restingHigher : (Activity.atRest (contexts.setLimit number limit) calls).Resting := rfl
  obtain ⟨after, completes, _⟩ := resting.completes program (.inquire inquiry asked key)
  obtain ⟨afterHigher, completesHigher, _⟩ :=
    restingHigher.completes other (.inquire inquiry asked key)
  refine ⟨_, after, _, afterHigher, completes, completesHigher, ?_⟩
  exact (inquiry_upToCut (raised_setLimit higher) agrees timeless _ inquiry asked key).imp id And.left

theorem timeless_chained (limit : Nat) : (chained limit).Timeless := by
  intro number scope found
  obtain rfl := scope?_chained found
  exact chainedRules_parts trivial trivial

/-- With room for one key the inner key is out of reach, with room for two it is not, and three keys are
more than there can be. -/
theorem limit_cuts_off_chained :
    (∃ outcome after higher afterHigher,
      (Activity.atRest (chained 1)).Completes .silent (.inquire .infer 0 "outer") outcome after ∧
      (Activity.atRest ((chained 1).setLimit 0 2)).Completes .restless (.inquire .infer 0 "outer")
        higher afterHigher ∧
      (outcome.CutOff ∨ outcome = higher)) ∧
    (chained 1).answer .silent (.inquire .infer 0 "outer") =
      .error (.inferenceDepthExceeded "inner" 1) ∧
    ((chained 1).setLimit 0 2).answer .silent (.inquire .infer 0 "outer") =
      .ok (.inferred (some (.bool true))) ∧
    ∃ outcome after,
      (Activity.atRest (chained 3)).Completes .silent (.inquire .infer 0 "outer") outcome after ∧
      ∀ key limit, (0, .inferenceDepthExceeded key limit) ∉ after.refusals := by
  refine ⟨?_, rfl, rfl, ?_⟩
  · refine (limit_only_cuts_off (chained 1) 0).1 (timeless_chained 1) 0 2 ?_ _ _ Program.silent_agrees
      .infer 0 "outer"
    intro scope found
    obtain rfl := scope?_chained found
    decide
  · have resting : (Activity.atRest (chained 3)).Resting := rfl
    obtain ⟨after, completes, _⟩ := resting.completes .silent (.inquire .infer 0 "outer")
    refine ⟨_, after, completes, ?_⟩
    have found : (chained 3).scope? 0 = some ⟨Model.ofRules chainedRules, none, 3, []⟩ := rfl
    exact (limit_only_cuts_off (chained 3) 0).2 0 _ found
      (Nat.lt_succ_of_le (card_inferrable_chained_le found)) .silent _ _ after completes

end Contexts

end PredicateRules
