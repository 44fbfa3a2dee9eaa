import PredicateRules.Proofs.Inference.Likeness

namespace PredicateRules

namespace Surroundings

variable {m : Type → Type}

/-- The two answer alike but for the time and for random numbers. -/
structure Agrees (world other : Surroundings m) : Prop where
  host (site : Site) : (world.host site).Agrees (other.host site)
  contextKey : world.contextKey = other.contextKey

/-- The two answer alike but for the time and for random numbers, whatever conditions a place stands
in. -/
structure Matches (world other : Surroundings m) : Prop where
  host (site place : Site) : (world.host site).Agrees (other.host place)
  contextKey {site place : Site} : site.shown = place.shown →
    world.contextKey site = other.contextKey place

namespace Matches

variable {world other third : Surroundings m}

theorem agrees (matched : world.Matches other) : world.Agrees other where
  host site := matched.host site site
  contextKey := funext fun _ => matched.contextKey rfl

theorem symm (matched : world.Matches other) : other.Matches world where
  host site place := (matched.host place site).symm
  contextKey same := (matched.contextKey same.symm).symm

theorem trans (matched : world.Matches other) (further : other.Matches third) :
    world.Matches third where
  host site place := (matched.host site site).trans (further.host site place)
  contextKey same := (matched.contextKey rfl).trans (further.contextKey same)

theorem within (matched : world.Matches other) (step : Step) (inside : step.isCondition = true) :
    (world.within step).Matches other where
  host site := matched.host (site ++ [step])
  contextKey {site place} same := matched.contextKey (by
    rw [← same, Site.shown, Site.shown, List.filter_append, List.filter_cons_of_neg (by simp [inside]),
      List.filter_nil, List.append_nil])

end Matches

end Surroundings

def Expression.NeverTimed (expression : Expression) : Prop :=
  ∀ part ∈ expression.parts, part.Timeless

def Predicate.NeverTimed (predicate : Predicate) : Prop :=
  ∀ part ∈ predicate.expressions, part.Timeless

instance (predicate : Predicate) : Decidable predicate.NeverTimed :=
  inferInstanceAs (Decidable (∀ part ∈ predicate.expressions, part.Timeless))

/-- Nothing in the predicate is computed differently in the two worlds, at whatever places: it asks neither
for the time nor for a random number, or both give the same wherever it asks. -/
def Predicate.Steady (predicate : Predicate) (world other : World) : Prop :=
  ∀ part ∈ predicate.expressions, ∀ site place, part.Computes (world.host site) (other.host place)

theorem Predicate.NeverTimed.steady {predicate : Predicate} (timeless : predicate.NeverTimed)
    (world other : World) : predicate.Steady world other :=
  fun part inside _ _ => (timeless part inside).computes _ _

namespace Predicate.Steady

variable {predicate : Predicate} {world other : World}

theorem within (steady : predicate.Steady world other) (step : Step) :
    predicate.Steady (world.within step) other :=
  fun part inside site => steady part inside (site ++ [step])

theorem symm (steady : predicate.Steady world other) : predicate.Steady other world :=
  fun part inside site place => (steady part inside place site).symm

theorem settled (steady : predicate.Steady world other) : predicate.Steady other other :=
  fun part inside site place =>
    (steady part inside [] site).symm.trans (steady part inside [] place)

theorem compound {kind : CompoundKind} {parts : List Predicate}
    (steady : ∀ part ∈ parts, part.Steady world other) :
    (Predicate.compound kind parts).Steady world other := by
  intro expression member
  rw [expressions, mem_expressionsOfEach] at member
  obtain ⟨part, inside, own⟩ := member
  exact steady part inside expression own

theorem of_part {kind : CompoundKind} {parts : List Predicate}
    (steady : (Predicate.compound kind parts).Steady world other) {part : Predicate}
    (inside : part ∈ parts) : part.Steady world other := by
  intro expression member
  refine steady expression ?_
  rw [expressions, mem_expressionsOfEach]
  exact ⟨part, inside, member⟩

theorem of_mem_partsIn {kind : CompoundKind} {part : Predicate} (steady : predicate.Steady world other)
    (inside : part ∈ predicate.partsIn kind) : part.Steady world other :=
  fun expression member => steady expression ((mem_expressions_partsIn kind predicate).mp ⟨part, inside, member⟩)

theorem fold_iff {kind : CompoundKind} {left right : Predicate} :
    (Predicate.fold kind left right).Steady world other ↔
      left.Steady world other ∧ right.Steady world other := by
  simp only [Steady, mem_expressions_fold, or_imp, forall_and]

end Predicate.Steady

def Rule.NeverTimed (rule : Rule) : Prop :=
  ∀ part ∈ rule.expressions, part.Timeless

def Model.NeverTimed (model : Model) : Prop :=
  model.Everywhere Expression.Timeless

namespace Evaluated

variable {α : Type} {property : α → Prop} {permitted : EvalError → Prop} {result other : Evaluated α}

theorem alike_of_eq (holds : ∀ value, property value) (same : result = other) :
    Alike (fun _ => True) property result other :=
  ⟨same, fun value _ => holds value, fun _ _ _ => trivial⟩

end Evaluated

open Evaluated

section

variable {world other : World}

theorem Surroundings.Agrees.surround (agrees : world.Agrees other) :
    (likeness fun _ => True).Surround (fun _ => True) world other where
  agrees := agrees.host
  answers _ _ _ := alike_of_eq (Value.within_of_all fun _ => trivial) rfl
  contextKey site number _ key _ := by
    refine alike_of_eq (Value.within_of_all fun _ => trivial) ?_
    exact congrFun (congrFun (congrFun agrees.contextKey site) number) key

theorem Surroundings.Agrees.suits (agrees : world.Agrees other) (object : Value) {part : Expression}
    (timeless : part.Timeless) :
    (likeness fun _ => True).Suits (fun _ => True) world other object object part := by
  refine Correspondence.suits_of_calls agrees.surround (fun _ => trivial) object ?_
  rintro function arguments rfl site values
  exact timeless.compute_congr (world.host site) (other.host site) values

theorem Surroundings.Agrees.suits_context (agrees : world.Agrees other) {number : Nat}
    {origin otherOrigin : Origin} {part : Expression} (timeless : part.Timeless)
    (selfless : part.Selfless) :
    (likeness fun _ => True).Suits (fun _ => True) world other (.object (.context number origin))
      (.object (.context number otherOrigin)) part := by
  cases part with
  | constant value => exact Value.within_of_all (fun _ => trivial) value
  | selfReference => exact selfless.elim
  | keyPath path =>
      intro site
      refine Correspondence.resolve_of_first agrees.surround site path fun key _ => ?_
      exact Correspondence.resolveKey_context agrees.surround site _
        (agrees.surround.contextKey site number origin _ trivial)
  | call function arguments =>
      exact fun site values => timeless.compute_congr (world.host site) (other.host site) values
  | _ => trivial

namespace Expression.NeverTimed

theorem evaluate_eq {expression : Expression} (timeless : expression.NeverTimed)
    (agrees : world.Agrees other) (object : Value) (site : Site) :
    expression.evaluate world object site = expression.evaluate other object site :=
  (Correspondence.evaluate agrees.surround expression
    (fun part member => agrees.suits object (timeless part member)) site).same

end Expression.NeverTimed

namespace Predicate.NeverTimed

theorem evaluate_eq {predicate : Predicate} (timeless : predicate.NeverTimed)
    (agrees : world.Agrees other) (object : Value) :
    predicate.evaluate world object = predicate.evaluate other object :=
  (Correspondence.evaluatePredicate agrees.surround predicate
    fun part member => agrees.suits object (timeless part member)).same

end Predicate.NeverTimed

/-- A predicate says the same in both worlds if they match and nothing in it is computed differently. -/
theorem Predicate.evaluate_of_matches {predicate : Predicate} (matched : world.Matches other)
    (steady : predicate.Steady world other) (object : Value) :
    predicate.evaluate world object = predicate.evaluate other object := by
  have around := matched.agrees.surround
  refine (Correspondence.evaluatePredicate around predicate fun part member => ?_).same
  refine Correspondence.suits_of_calls around (fun _ => trivial) object ?_
  rintro function arguments rfl site values
  exact steady _ member site site values

end

end PredicateRules
