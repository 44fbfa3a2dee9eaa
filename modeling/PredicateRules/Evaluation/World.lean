import PredicateRules.Evaluation.Error
import PredicateRules.Value.Basic

/-!
What an evaluation may ask of its surroundings: the host that embeds the language, and the contexts
whose keys are read or inferred.
-/

namespace PredicateRules

abbrev Evaluated (α : Type) := Except EvalError α

@[simp]
theorem Evaluated.pure_eq_ok {α : Type} (result : α) : (pure result : Evaluated α) = .ok result := rfl

/-- What the embedding program supplies at one place of an evaluation. -/
structure Host where
  now : DateTime
  /-- A whole number from zero up to and including the bound. -/
  random : Int64 → Int64
  /-- The value under a key of a host object, `null` if there is none. -/
  valueForKey : Nat → String → Evaluated Value
  call : Nat → List Value → Evaluated Value
  /-- How a host object calls a selector, if not by the function that it holds under it. -/
  performs : Nat → Option (String → List Value → Evaluated Value) := fun _ => none

/-- The embedding program. Each place, with the reads that led to it, is another moment: the clock has
moved on, another number is drawn, and objects and functions may have changed. -/
structure Program where
  host : List Site → Host

/-- A program that stands still. -/
instance : Coe Host Program := ⟨fun host => ⟨fun _ => host⟩⟩

/-- What surrounds an evaluation in which reading a context is a step of `m`. -/
structure Surroundings (m : Type → Type) where
  host : Site → Host
  contextKey : Site → Nat → String → m Value

/-- Surroundings in which a read has a result and nothing else. -/
abbrev World := Surroundings Evaluated

namespace Surroundings

variable {m : Type → Type} [Monad m] [MonadLiftT Evaluated m]

/-- The surroundings one step further inside. -/
def within (world : Surroundings m) (step : Step) : Surroundings m :=
  { host := fun site => world.host (site ++ [step])
    contextKey := fun site => world.contextKey (site ++ [step]) }

def valueForKey (world : Surroundings m) (site : Site) : Object → String → m Value
  | .host number, key => liftM ((world.host site).valueForKey number key)
  | .context scope _, key => world.contextKey site scope key

def callHeld (world : Surroundings m) (site : Site) (object : Object) (selector : String)
    (arguments : List Value) : m Value := do
  match ← world.valueForKey site object selector with
  | .function number => liftM ((world.host site).call number arguments)
  | _ => liftM (m := Evaluated) (throw (.notCallable selector "object"))

/-- Calls `selector` of an object, which may see to it in a way of its own. -/
def perform (world : Surroundings m) (site : Site) (object : Object) (selector : String)
    (arguments : List Value) : m Value :=
  match object with
  | .host number =>
    match (world.host site).performs number with
    | some performs => liftM (performs selector arguments)
    | none => world.callHeld site object selector arguments
  | .context _ _ => world.callHeld site object selector arguments

end Surroundings

end PredicateRules
