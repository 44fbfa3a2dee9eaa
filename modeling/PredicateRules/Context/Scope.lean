import PredicateRules.Rule.Model

/-!
Scopes: values by key over the values of an enclosing scope, with a model to infer what neither
holds. Scopes refer to each other by number, counted from zero in order of creation.
-/

namespace PredicateRules

structure Scope where
  model : Model
  parent : Option Nat
  /-- How many keys may be under inference at once. -/
  limit : Nat
  /-- The values set here, one for each key. -/
  values : List (String × Value)

/-- All scopes, the latest first, so that a parent stands behind its children. -/
abbrev Contexts := List Scope

/-- The longest chain of keys that is inferred unless a limit is given. -/
def defaultLimit : Nat := 32

namespace Scope

def set (scope : Scope) (key : String) (value : Value) : Scope :=
  { scope with values := (key, value) :: scope.values.filter fun entry => entry.1 != key }

def remove (scope : Scope) (key : String) : Scope :=
  { scope with values := scope.values.filter fun entry => entry.1 != key }

end Scope

namespace Contexts

def scope? : Contexts → Nat → Option Scope
  | [], _ => none
  | latest :: older, number => if number = older.length then some latest else scope? older number

/-- The value for a key in a scope or else in the nearest enclosing scope that holds the key. -/
def value? : Contexts → Nat → String → Option Value
  | [], _, _ => none
  | latest :: older, number, key =>
    if number = older.length then
      match latest.values.lookup key with
      | some value => some value
      | none =>
        match latest.parent with
        | some parent => value? older parent key
        | none => none
    else value? older number key

def update (change : Scope → Scope) : Contexts → Nat → Contexts
  | [], _ => []
  | latest :: older, number =>
    if number = older.length then change latest :: older else latest :: update change older number

@[simp]
theorem length_update (change : Scope → Scope) (contexts : Contexts) (number : Nat) :
    (update change contexts number).length = contexts.length := by
  induction contexts with
  | nil => rfl
  | cons latest older olderLength =>
    simp only [update]
    split <;> simp [olderLength]

def create (contexts : Contexts) (model : Model) (limit : Nat) : Contexts :=
  ⟨model, none, limit, []⟩ :: contexts

def createChild (contexts : Contexts) (parent : Nat) : Contexts :=
  match contexts.scope? parent with
  | some scope => ⟨scope.model, some parent, scope.limit, []⟩ :: contexts
  | none => contexts

def setValue (contexts : Contexts) (number : Nat) (key : String) (value : Value) : Contexts :=
  update (fun scope => scope.set key value) contexts number

def removeValue (contexts : Contexts) (number : Nat) (key : String) : Contexts :=
  update (fun scope => scope.remove key) contexts number

end Contexts

end PredicateRules
