import PredicateRules.Context.Inference

/-!
Contexts at work. Each scope keeps the keys that are under inference in it: a key is put on top when
its inference begins, and the top is taken off when an inference ends, whatever it comes to. What
happens on the way is recorded.
-/

namespace PredicateRules

/-- The keys under inference in each scope, the latest first. -/
abbrev Stacks := Nat → List String

def Stacks.replace (held : Stacks) (number : Nat) (keys : List String) : Stacks :=
  fun other => if other = number then keys else held other

structure Activity where
  contexts : Contexts
  inferring : Stacks
  /-- What the keys under inference have changed to, the latest first. -/
  moments : List Stacks
  /-- The scopes that refused to infer a key, and why, the latest first. -/
  refusals : List (Nat × EvalError)
  /-- How many requests there were. -/
  calls : Nat

namespace Activity

def atRest (contexts : Contexts) (calls : Nat := 0) : Activity := ⟨contexts, fun _ => [], [], [], calls⟩

def keep (activity : Activity) (number : Nat) (keys : List String) : Activity :=
  { activity with
    inferring := activity.inferring.replace number keys
    moments := activity.inferring.replace number keys :: activity.moments }

def push (number : Nat) (key : String) (activity : Activity) : Activity :=
  activity.keep number (key :: activity.inferring number)

def pop (number : Nat) (activity : Activity) : Activity :=
  activity.keep number (activity.inferring number).tail

def note (number : Nat) (cause : EvalError) (activity : Activity) : Activity :=
  { activity with refusals := (number, cause) :: activity.refusals }

/-- The reads before a request: the request itself, which no other one is. -/
def trail (activity : Activity) : List Site := [[.call activity.calls]]

def count (activity : Activity) : Activity := { activity with calls := activity.calls + 1 }

end Activity

/-- The steps of contexts at work, with nothing for steps that are not followed to their end. -/
abbrev Running := ExceptT EvalError (StateT Activity Option)

/-- A question about a key of a context. -/
inductive Inquiry where
  | infer
  | inferAll
  | valueForKey
  deriving DecidableEq

/-- What contexts are asked for from outside: a key, or an expression or a predicate over a value. -/
inductive Request where
  | inquire (inquiry : Inquiry) (number : Nat) (key : String)
  | evaluate (expression : Expression) (object : Value)
  | test (predicate : Predicate) (object : Value)

inductive Answer where
  | inferred (value? : Option Value)
  | inferredAll (values : List Value)
  | value (value : Value)
  | holds (holds : Bool)

def Contexts.answer (program : Program) (contexts : Contexts) (request : Request)
    (trail : List Site := []) : Evaluated Answer :=
  match request with
  | .inquire .infer number key => .inferred <$> contexts.infer program number key trail
  | .inquire .inferAll number key => .inferredAll <$> contexts.inferAll program number key trail
  | .inquire .valueForKey number key => .value <$> contexts.valueForKey program number key trail
  | .evaluate expression object =>
    .value <$> expression.evaluate (contexts.outerWorld program trail) object []
  | .test predicate object =>
    .holds <$> predicate.evaluate (contexts.outerWorld program trail) object

namespace Running

def refuse (number : Nat) (cause : EvalError) : Running Unit := do
  modify (Activity.note number cause)
  throw cause

/-- Puts a key under inference, unless it is there already or the limit is reached. -/
def enter (limit number : Nat) (key : String) : Running Unit := do
  let keys := (← get).inferring number
  if keys.contains key then refuse number (.inferenceCycle key)
  else if limit ≤ keys.length then refuse number (.inferenceDepthExceeded key limit)
  else modify (Activity.push number key)

def leaving {α : Type} (number : Nat) (steps : Running α) : Running α := ExceptT.mk do
  let outcome ← steps.run
  modify (Activity.pop number)
  return outcome

def guarded {α : Type} (limit number : Nat) (key : String) (steps : Running α) : Running α := do
  enter limit number key
  leaving number steps

/-- What a scope holds for a key or else what is inferred, `null` if that is nothing. -/
def read (infer : Nat → String → Running (Option Value)) (number : Nat) (key : String) :
    Running Value := do
  match (← get).contexts.value? number key with
  | some value => return value
  | none => return (← infer number key).getD .null

def surroundings (program : Program) (infer : List Site → Nat → String → Running (Option Value))
    (trail : List Site) : Surroundings Running :=
  { host := fun site => program.host (site :: trail)
    contextKey := fun site => read (infer (site :: trail)) }

/-- Infers a key, as long as inferences are nested in each other less often than the first number
says. -/
def infer (program : Program) : Nat → List Site → Nat → String → Running (Option Value)
  | 0, _, _, _ => ExceptT.mk fun _ => none
  | nested + 1, trail, number, key => do
    match (← get).contexts.scope? number with
    | none => return none
    | some scope =>
      guarded scope.limit number key <|
        scope.model.fireFirst (surroundings program (infer program nested) trail)
          (Contexts.subject number trail) key

def inferAll (program : Program) (nested : Nat) (trail : List Site) (number : Nat) (key : String) :
    Running (List Value) := do
  match (← get).contexts.scope? number with
  | none => return []
  | some scope =>
    guarded scope.limit number key <|
      scope.model.fireAll (surroundings program (infer program nested) trail)
        (Contexts.subject number trail) key

def answerFrom (program : Program) (nested : Nat) (trail : List Site) : Request → Running Answer
  | .inquire .infer number key => .inferred <$> infer program nested trail number key
  | .inquire .inferAll number key => .inferredAll <$> inferAll program nested trail number key
  | .inquire .valueForKey number key => .value <$> read (infer program nested trail) number key
  | .evaluate expression object =>
    .value <$> expression.evaluate (surroundings program (infer program nested) trail) object []
  | .test predicate object =>
    .holds <$> predicate.evaluate (surroundings program (infer program nested) trail) object

/-- Each request is a call of its own. -/
def answer (program : Program) (nested : Nat) (request : Request) : Running Answer := do
  let trail := (← get).trail
  modify Activity.count
  answerFrom program nested trail request

end Running

namespace Activity

/-- The request comes to an end, where inferences are nested in each other as deep as it takes. -/
def Completes (program : Program) (activity : Activity) (request : Request)
    (outcome : Evaluated Answer) (after : Activity) : Prop :=
  ∃ nested, (Running.answer program nested request).run.run activity = some (outcome, after)

/-- What contexts can come to from none at all, by any calls in any order, and with what the embedding
program supplies at each. -/
inductive Reached : Activity → Prop
  | start : Reached (atRest [])
  | create {activity : Activity} (model : Model) (limit : Nat) : Reached activity →
    Reached { activity with contexts := activity.contexts.create model limit }
  | createChild {activity : Activity} (parent : Nat) : Reached activity →
    Reached { activity with contexts := activity.contexts.createChild parent }
  | setValue {activity : Activity} (number : Nat) (key : String) (value : Value) :
    Reached activity →
    Reached { activity with contexts := activity.contexts.setValue number key value }
  | removeValue {activity : Activity} (number : Nat) (key : String) : Reached activity →
    Reached { activity with contexts := activity.contexts.removeValue number key }
  | request {activity after : Activity} (program : Program) (request : Request)
    (outcome : Evaluated Answer) : Reached activity →
    activity.Completes program request outcome after → Reached after

end Activity

end PredicateRules
