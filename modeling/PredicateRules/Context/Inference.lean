import PredicateRules.Context.Scope

/-!
Reading a key of a scope. What no scope holds is inferred: the first rule for the key whose specifier
holds gives the value, with the scope itself as the object, so that rules can read further keys. The
keys under inference are kept, which finds circles and bounds the depth.
-/

namespace PredicateRules

/-- The keys under inference, each with the number of its scope, the innermost first. -/
abbrev Inferring := List (Nat × String)

namespace Inferring

def depth (inferring : Inferring) (number : Nat) : Nat :=
  (inferring.filter fun entry => entry.1 == number).length

/-- Enters the inference of a key. A key that is under inference already is a circle, whatever the
limit. -/
def enter (inferring : Inferring) (limit number : Nat) (key : String) : Evaluated Inferring :=
  if inferring.contains (number, key) then .error (.inferenceCycle key)
  else if limit ≤ inferring.depth number then .error (.inferenceDepthExceeded key limit)
  else .ok ((number, key) :: inferring)

end Inferring

namespace Contexts

/-- How many keys can be under inference at once in all scopes together. -/
def room : Contexts → Nat
  | [] => 0
  | scope :: contexts => scope.limit + room contexts

/-- What a scope holds for a key or else what is inferred, `null` if that is nothing. -/
def read (contexts : Contexts) (infer : Nat → String → Evaluated (Option Value)) (number : Nat)
    (key : String) : Evaluated Value :=
  match contexts.value? number key with
  | some value => .ok value
  | none => do return (← infer number key).getD .null

/-- A scope as the object of an inference: each inference has an object of its own, known by the reads
before it. Nothing that is read for one condition is seen by another one, so these need not be told
apart. -/
def subject (number : Nat) (trail : List Site) : Value :=
  .object (.context number (.subject (trail.map Site.shown)))

/-- Infers a key. The first argument is the room that is left for keys under inference: where there is
none, every scope is at its limit, and no key can be entered. -/
def inferWithin (program : Program) (contexts : Contexts) :
    Nat → Inferring → List Site → Nat → String → Evaluated (Option Value)
  | room, inferring, trail, number, key =>
    match contexts.scope? number with
    | none => .ok none
    | some scope => do
      let entered ← inferring.enter scope.limit number key
      match room with
      | 0 => throw (.inferenceDepthExceeded key scope.limit)
      | room + 1 =>
        let world : World :=
          { host := fun site => program.host (site :: trail)
            contextKey := fun site => contexts.read
              (inferWithin program contexts room entered (site :: trail)) }
        scope.model.fireFirst world (subject number trail) key

def world (program : Program) (contexts : Contexts) (inferring : Inferring) (trail : List Site) :
    World :=
  { host := fun site => program.host (site :: trail)
    contextKey := fun site => contexts.read
      (inferWithin program contexts (contexts.room - inferring.length) inferring (site :: trail)) }

section

variable (program : Program) (contexts : Contexts)

def outerWorld (trail : List Site := []) : World := contexts.world program [] trail

def infer (number : Nat) (key : String) (trail : List Site := []) : Evaluated (Option Value) :=
  inferWithin program contexts contexts.room [] trail number key

def inferAll (number : Nat) (key : String) (trail : List Site := []) : Evaluated (List Value) :=
  match contexts.scope? number with
  | none => .ok []
  | some scope => do
    let entered ← Inferring.enter [] scope.limit number key
    scope.model.fireAll (contexts.world program entered trail) (subject number trail) key

def valueForKey (number : Nat) (key : String) (trail : List Site := []) : Evaluated Value :=
  contexts.read (fun number key => contexts.infer program number key trail) number key

end

end Contexts

end PredicateRules
