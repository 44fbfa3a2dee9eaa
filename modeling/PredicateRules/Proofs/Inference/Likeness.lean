import PredicateRules.Proofs.Inference.Completion

namespace PredicateRules

/-- From what is allowed no context can be reached. -/
structure Program.KeepsOut (program : Program) (allowed : Value → Prop) : Prop
    extends program.Keeps allowed where
  noContext (number : Nat) (origin : Origin) : ¬ allowed (.object (.context number origin))

theorem Program.silent_keepsOut : silent.KeepsOut fun _ => False where
  toKeeps := silent_keeps _
  noContext _ _ held := held

namespace Expression

/-- What the expression itself computes is the same with either host. -/
def Computes (host other : Host) : Expression → Prop
  | .call function _ => ∀ values, function.compute host values = function.compute other values
  | _ => True

theorem computes_self (host : Host) (part : Expression) : part.Computes host host := by
  cases part <;> first | exact fun _ => rfl | trivial

theorem Computes.symm {host other : Host} {part : Expression} (computes : part.Computes host other) :
    part.Computes other host := by
  cases part with
  | call function arguments => exact fun values => (computes values).symm
  | _ => trivial

theorem Computes.trans {host other third : Host} {part : Expression} (computes : part.Computes host other)
    (further : part.Computes other third) : part.Computes host third := by
  cases part with
  | call function arguments => exact fun values => (computes values).trans (further values)
  | _ => trivial

theorem Timeless.computes {part : Expression} (timeless : part.Timeless) (host other : Host) :
    part.Computes host other := by
  cases part with
  | call function arguments => exact timeless.compute_congr host other
  | _ => trivial

end Expression

namespace Evaluated

variable {α β : Type} {property : α → Prop} {permitted : EvalError → Prop}

/-- The results are equal, and where an inference fails, it is for a permitted cause. -/
structure Alike (permitted : EvalError → Prop) (property : α → Prop) (result other : Evaluated α) :
    Prop where
  same : result = other
  holds : ∀ value, result = .ok value → property value
  failure : ∀ cause, result = .error cause → cause.ofInference = true → permitted cause

theorem alike_ok {value : α} (holds : property value) :
    Alike permitted property (.ok value) (.ok value) :=
  ⟨rfl, fun _ found => Except.ok.inj found ▸ holds, fun _ failed => by cases failed⟩

theorem alike_error {cause : EvalError} (may : cause.ofInference = true → permitted cause) :
    Alike permitted property (.error cause : Evaluated α) (.error cause) :=
  ⟨rfl, fun _ found => (nomatch found), fun _ failed => Except.error.inj failed ▸ may⟩

theorem alike_bind {middle : β → Prop} {first other : Evaluated β} {next otherNext : β → Evaluated α}
    (before : Alike permitted middle first other)
    (after : ∀ result, middle result → Alike permitted property (next result) (otherNext result)) :
    Alike permitted property (first >>= next) (other >>= otherNext) := by
  obtain ⟨rfl, holds, failure⟩ := before
  cases first with
  | error cause => exact alike_error (failure cause rfl)
  | ok result => exact after result (holds result rfl)

def likeness (permitted : EvalError → Prop) : Correspondence Evaluated Evaluated where
  Relates := Alike permitted
  returns := alike_ok
  continues := alike_bind
  maps before after := by
    rw [map_eq_pure_bind, map_eq_pure_bind]
    exact alike_bind before fun result holds => alike_ok (after result holds)
  computes {_ _ result} yields := by
    cases result with
    | ok value => exact alike_ok yields
    | error cause => exact alike_error fun kind => absurd kind (Bool.eq_false_iff.mp yields)

end Evaluated

open Evaluated

/-- A scope as it is asked for keys. -/
structure Standpoint where
  program : Program
  contexts : Contexts
  number : Nat

namespace Standpoint

variable {permitted : EvalError → Prop} {allowed : Value → Prop}
  {leads : List String → String → Prop} {meets : List Site → List Site → Prop}

/-- Two scopes with the same rules, limit and values, of which none leads to a context. The relation
between the keys that are under inference and the next one holds for all keys that can be read, and at
all places that are met from two related ones the programs answer and the rules compute alike. -/
structure Alike (permitted : EvalError → Prop) (allowed : Value → Prop)
    (leads : List String → String → Prop) (meets : List Site → List Site → Prop)
    (here there : Standpoint) (scope other : Scope) : Prop where
  found : here.contexts.scope? here.number = some scope
  foundOther : there.contexts.scope? there.number = some other
  model : other.model = scope.model
  limit : other.limit = scope.limit
  values : ∀ key, there.contexts.value? there.number key = here.contexts.value? here.number key
  stored : ∀ key, ∀ value ∈ here.contexts.value? here.number key, value.Within allowed
  keeps : here.program.KeepsOut allowed
  further : ∀ places others site, meets places others → meets (site :: places) (site :: others)
  agrees : ∀ places others, meets places others →
    (here.program.host places).Agrees (there.program.host others)
  parts : scope.model.Everywhere fun part => part.Selfless ∧ part.Holds allowed ∧
    ∀ places others, meets places others →
      part.Computes (here.program.host places) (there.program.host others)
  reads : ∀ keys key next, leads keys key → scope.model.Reads key next → leads (key :: keys) next
  circle : ∀ keys key, leads keys key → key ∈ keys → permitted (.inferenceCycle key)
  deep : ∀ key, permitted (.inferenceDepthExceeded key scope.limit)
  raises : ∀ cause, here.program.Raises allowed cause → permitted cause

namespace Alike

variable {here there : Standpoint} {scope other : Scope}

theorem enter (alike : Alike permitted allowed leads meets here there scope other) {keys : List String}
    {key : String} (led : leads keys key) {α : Type} {property : α → Prop}
    {next otherNext : Inferring → Evaluated α}
    (after : keys.length < scope.limit →
      Evaluated.Alike permitted property (next (.inScope here.number (key :: keys)))
        (otherNext (.inScope there.number (key :: keys)))) :
    Evaluated.Alike permitted property
      ((Inferring.inScope here.number keys).enter scope.limit here.number key >>= next)
      ((Inferring.inScope there.number keys).enter other.limit there.number key >>= otherNext) := by
  unfold Inferring.enter
  rw [Inferring.contains_inScope, Inferring.contains_inScope, Inferring.depth_inScope,
    Inferring.depth_inScope, alike.limit]
  cases present : keys.contains key with
  | true =>
      refine alike_error fun _ => alike.circle keys key led ?_
      exact List.contains_iff_mem.mp present
  | false =>
      rw [if_neg Bool.false_ne_true, if_neg Bool.false_ne_true]
      by_cases full : scope.limit ≤ keys.length
      · rw [if_pos full, if_pos full]
        exact alike_error fun _ => alike.deep key
      · rw [if_neg full, if_neg full]
        exact after (Nat.lt_of_not_le full)

theorem surround (alike : Alike permitted allowed leads meets here there scope other)
    {room otherRoom : Nat} {inferring otherInferring : Inferring} {trail otherTrail : List Site}
    (met : meets trail otherTrail) :
    (likeness permitted).Surround allowed
      (here.contexts.worldWithin here.program room inferring trail)
      (there.contexts.worldWithin there.program otherRoom otherInferring otherTrail) where
  agrees site := alike.agrees _ _ (alike.further trail otherTrail site met)
  answers site _ answered := ⟨rfl, fun _ found => alike.keeps.answers answered found,
    fun cause failed _ => alike.raises cause ⟨site :: trail, failed ▸ answered⟩⟩
  contextKey _ number origin _ within := absurd within (alike.keeps.noContext number origin)

theorem read (alike : Alike permitted allowed leads meets here there scope other) {key : String}
    {infer otherInfer : Nat → String → Evaluated (Option Value)}
    (infers : Evaluated.Alike permitted (Value.FoundWithin allowed) (infer here.number key)
      (otherInfer there.number key)) :
    Evaluated.Alike permitted (Value.Within allowed) (here.contexts.read infer here.number key)
      (there.contexts.read otherInfer there.number key) :=
  (likeness permitted).read (alike.values key) (alike.stored key) infers

theorem suits (alike : Alike permitted allowed leads meets here there scope other) {keys : List String}
    {key : String} (led : leads keys key) {room otherRoom : Nat}
    {inferring otherInferring : Inferring} {trail otherTrail : List Site}
    (met : meets trail otherTrail)
    (infers : ∀ trail otherTrail next, meets trail otherTrail → leads (key :: keys) next →
      Evaluated.Alike permitted (Value.FoundWithin allowed)
        (here.contexts.inferWithin here.program room inferring trail here.number next)
        (there.contexts.inferWithin there.program otherRoom otherInferring otherTrail there.number
          next)) :
    ∀ rule ∈ (scope.model.candidates? key).getD [], ∀ part ∈ rule.expressions,
      (likeness permitted).Suits allowed
        (here.contexts.worldWithin here.program room inferring trail)
        (there.contexts.worldWithin there.program otherRoom otherInferring otherTrail)
        (Contexts.subject here.number trail) (Contexts.subject there.number otherTrail) part := by
  intro rule member part inside
  obtain ⟨selfless, holds, computes⟩ := alike.parts.candidates key rule member part inside
  cases part with
  | constant value => exact holds
  | selfReference => exact selfless.elim
  | call function arguments =>
      exact fun site => computes _ _ (alike.further trail otherTrail site met)
  | keyPath path =>
      intro site
      refine Correspondence.resolve_of_first (alike.surround met) site path fun first firstOf => ?_
      refine Correspondence.resolveKey_context (alike.surround met) site _ ?_
      refine alike.read (infers (site :: trail) (site :: otherTrail) _
        (alike.further trail otherTrail site met) (alike.reads keys key _ led ?_))
      cases found : scope.model.candidates? key with
      | none =>
          rw [found] at member
          exact (List.not_mem_nil member).elim
      | some bucket =>
          rw [found] at member
          exact ⟨bucket, found, rule, member, path, inside, first, firstOf, rfl⟩
  | _ => trivial

theorem inferWithin (alike : Alike permitted allowed leads meets here there scope other)
    {room otherRoom : Nat} {keys : List String} {key : String}
    (enough : scope.limit ≤ room + keys.length) (enoughOther : scope.limit ≤ otherRoom + keys.length)
    (led : leads keys key) {trail otherTrail : List Site} (met : meets trail otherTrail) :
    Evaluated.Alike permitted (Value.FoundWithin allowed)
      (here.contexts.inferWithin here.program room (.inScope here.number keys) trail here.number key)
      (there.contexts.inferWithin there.program otherRoom (.inScope there.number keys) otherTrail
        there.number key) := by
  induction room using Nat.strong_induction_on generalizing otherRoom keys key trail otherTrail with
  | _ room ih =>
      rw [Contexts.inferWithin_known alike.found, Contexts.inferWithin_known alike.foundOther]
      refine alike.enter led fun below => ?_
      -- Below the limit there is room on both sides.
      obtain ⟨room, rfl⟩ := Nat.exists_eq_succ_of_ne_zero (show room ≠ 0 by omega)
      obtain ⟨otherRoom, rfl⟩ := Nat.exists_eq_succ_of_ne_zero (show otherRoom ≠ 0 by omega)
      unfold Contexts.firing Model.fireFirst
      rw [alike.model]
      refine Correspondence.fireFirstOf (alike.surround met) (alike.suits led met ?_)
      intro trail otherTrail next metNext ledNext
      exact ih room (Nat.lt_succ_self room) (by rw [List.length_cons]; omega)
        (by rw [List.length_cons]; omega) ledNext metNext

theorem inferAll (alike : Alike permitted allowed leads meets here there scope other) {key : String}
    (led : leads [] key) {trail otherTrail : List Site} (met : meets trail otherTrail) :
    Evaluated.Alike permitted (Value.EachWithin allowed)
      (here.contexts.inferAll here.program here.number key trail)
      (there.contexts.inferAll there.program there.number key otherTrail) := by
  rw [Contexts.inferAll_eq, Contexts.inferAll_eq, alike.found, alike.foundOther]
  refine alike.enter led fun below => ?_
  have room := Contexts.limit_le_room alike.found
  have otherRoom := Contexts.limit_le_room alike.foundOther
  rw [alike.limit] at otherRoom
  unfold Model.fireAll
  rw [alike.model]
  refine Correspondence.fireAllOf (alike.surround met) (alike.suits led met ?_)
  intro trail otherTrail next metNext ledNext
  exact alike.inferWithin (Nat.le_add_of_sub_le (Nat.sub_le_sub_right room 1))
    (Nat.le_add_of_sub_le (Nat.sub_le_sub_right otherRoom 1)) ledNext metNext

theorem inquiry (alike : Alike permitted allowed leads meets here there scope other) {key : String}
    (led : leads [] key) (inquiry : Inquiry) {trail otherTrail : List Site}
    (met : meets trail otherTrail) :
    Evaluated.Alike permitted (fun _ => True)
      (here.contexts.answer here.program (.inquire inquiry here.number key) trail)
      (there.contexts.answer there.program (.inquire inquiry there.number key) otherTrail) := by
  have room := Contexts.limit_le_room alike.found
  have otherRoom := Contexts.limit_le_room alike.foundOther
  rw [alike.limit] at otherRoom
  have infers := alike.inferWithin room otherRoom led met
  cases inquiry with
  | infer => exact (likeness permitted).maps infers fun _ _ => trivial
  | inferAll => exact (likeness permitted).maps (alike.inferAll led met) fun _ _ => trivial
  | valueForKey => exact (likeness permitted).maps (alike.read infers) fun _ _ => trivial

end Alike

end Standpoint

end PredicateRules
