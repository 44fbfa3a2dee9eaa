import PredicateRules.Context.Description
import PredicateRules.Context.Inference

/-!
A model that changes over time, indexes of it taken at different times, and contexts on copies of it.
Contexts are known by number; several numbers may stand for one scope.
-/

namespace PredicateRules

structure Session where
  model : Model
  /-- The indexes taken, the earliest first. -/
  snapshots : List RuleIndex
  contexts : Contexts
  /-- The scope of each context, by the number of the context. -/
  handles : List Nat

namespace Session

def start (rules : List Rule) (bindings : Bindings) : Session :=
  { model := Model.build rules bindings
    snapshots := []
    contexts := []
    handles := [] }

def setModel (session : Session) (rules : List Rule) : Session :=
  { session with model := Model.ofRules rules }

def setRules (session : Session) (rules : List Rule) : Session :=
  { session with model := session.model.setRules rules }

def setBindings (session : Session) (bindings : Bindings) : Session :=
  { session with model := session.model.setBindings bindings }

def takeSnapshot (session : Session) : Session :=
  { session with snapshots := session.snapshots ++ [session.model.index] }

def scopeOf? (session : Session) (context : Nat) : Option Nat := session.handles[context]?

/-- Gives the latest scope a context number. -/
def handleLatest (session : Session) : Session :=
  { session with handles := session.handles ++ [session.contexts.length - 1] }

def openContext (session : Session) (limit : Nat) : Session :=
  { session with contexts := session.contexts.create session.model limit }.handleLatest

def openChild (session : Session) (scope : Nat) : Session :=
  { session with contexts := session.contexts.createChild scope }.handleLatest

def share (session : Session) (scope : Nat) : Session :=
  { session with handles := session.handles ++ [scope] }

def setValue (session : Session) (scope : Nat) (key : String) (value : Value) : Session :=
  { session with contexts := session.contexts.setValue scope key value }

def removeValue (session : Session) (scope : Nat) (key : String) : Session :=
  { session with contexts := session.contexts.removeValue scope key }

/-- The value of the first matching rule of the present model, which may not be the model of the
scope. -/
def fireFirst (program : Program) (session : Session) (scope : Nat) (key : String)
    (trail : List Site := []) : Evaluated (Option Value) :=
  session.model.fireFirst (session.contexts.outerWorld program trail) (Contexts.subject scope trail)
    key

def fireAll (program : Program) (session : Session) (scope : Nat) (key : String)
    (trail : List Site := []) : Evaluated (List Value) :=
  session.model.fireAll (session.contexts.outerWorld program trail) (Contexts.subject scope trail) key

end Session

end PredicateRules
