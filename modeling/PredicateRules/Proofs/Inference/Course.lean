import PredicateRules.Proofs.Inference.Passage
import PredicateRules.Proofs.ModelHistory

/-!
Sessions at work. Contexts are made, written to and asked in any order, also in the middle of inferences,
where objects and functions of the embedding program may do all of that themselves.
-/

namespace PredicateRules

namespace Contexts

variable {contexts : Contexts}

def write (contexts : Contexts) (number : Nat) (key : String) : Option Value → Contexts
  | some value => contexts.setValue number key value
  | none => contexts.removeValue number key

theorem forall_scope?_cons {latest : Scope} {property : Nat → Scope → Prop}
    (own : property contexts.length latest)
    (older : ∀ number scope, contexts.scope? number = some scope → property number scope) :
    ∀ number scope, scope? (latest :: contexts) number = some scope → property number scope := by
  intro number scope found
  unfold scope? at found
  split at found
  next same =>
    obtain rfl := Option.some.inj found
    exact same ▸ own
  next => exact older number scope found

theorem scope?_update (change : Scope → Scope) (number other : Nat) :
    (contexts.update change number).scope? other =
      if other = number then (contexts.scope? other).map change else contexts.scope? other := by
  induction contexts with
  | nil => simp [update, scope?]
  | cons latest older ih =>
      by_cases written : number = older.length
      · subst written
        by_cases same : other = older.length
        · simp [update, scope?, same]
        · simp [update, scope?, same]
      · by_cases same : other = older.length
        · have different : other ≠ number := fun equal => written (equal.symm.trans same)
          simp only [update, if_neg written, scope?, length_update, if_pos same, if_neg different]
        · simp only [update, if_neg written, scope?, length_update, if_neg same, ih]

theorem length_write (contexts : Contexts) (number : Nat) (key : String) (value? : Option Value) :
    (contexts.write number key value?).length = contexts.length := by
  cases value? <;> exact length_update _ _ _

theorem scope?_of_write {number other : Nat} {key : String} {value? : Option Value} {scope : Scope}
    (found : (contexts.write number key value?).scope? other = some scope) :
    ∃ values, contexts.scope? other = some { scope with values := values } := by
  have kept (change : Scope → Scope)
      (same : ∀ scope, ∃ values, scope = { change scope with values := values })
      (found : (contexts.update change number).scope? other = some scope) :
      ∃ values, contexts.scope? other = some { scope with values := values } := by
    rw [scope?_update] at found
    split at found
    · obtain ⟨before, foundBefore, rfl⟩ := Option.map_eq_some_iff.mp found
      obtain ⟨values, restored⟩ := same before
      exact ⟨values, foundBefore.trans (congrArg some restored)⟩
    · exact ⟨scope.values, found⟩
  cases value? with
  | some value => exact kept (fun scope => scope.set key value) (fun scope => ⟨scope.values, rfl⟩) found
  | none => exact kept (fun scope => scope.remove key) (fun scope => ⟨scope.values, rfl⟩) found

theorem createChild_eq {parent : Nat} {scope : Scope} (found : contexts.scope? parent = some scope) :
    contexts.createChild parent = ⟨scope.model, some parent, scope.limit, []⟩ :: contexts := by
  unfold createChild
  rw [found]

theorem exists_scope? {number : Nat} (known : number < contexts.length) :
    ∃ scope, contexts.scope? number = some scope := by
  induction contexts with
  | nil => exact absurd known (Nat.not_lt_zero _)
  | cons latest older ih =>
      unfold scope?
      split
      next => exact ⟨latest, rfl⟩
      next different =>
        rw [List.length_cons] at known
        exact ih (by omega)

end Contexts

/-- What became of a key in a scope: its value or, where it was removed, none. -/
structure Writing where
  scope : Nat
  key : String
  value? : Option Value

theorem Session.scopeOf?_share {session : Session} {context latest scope : Nat}
    (found : (session.share latest).scopeOf? context = some scope) :
    session.scopeOf? context = some scope ∨ scope = latest := by
  unfold scopeOf? share at found
  rw [List.getElem?_append] at found
  split at found
  · exact .inl found
  · exact .inr (List.mem_singleton.mp (List.mem_of_getElem? found))

def Session.write (session : Session) (scope : Nat) (key : String) (value? : Option Value) : Session :=
  { session with contexts := session.contexts.write scope key value? }

/-- A session together with the keys that are under inference in its scopes. -/
structure Working where
  session : Session
  inferring : Stacks
  calls : Nat

namespace Working

def activity (working : Working) : Activity :=
  ⟨working.session.contexts, working.inferring, [], [], working.calls⟩

def resume (working : Working) (activity : Activity) : Working :=
  ⟨{ working.session with contexts := activity.contexts }, activity.inferring, activity.calls⟩

def count (working : Working) : Working := { working with calls := working.calls + 1 }

/-- Whatever can be done with a session, with what was written on the way, the latest first. Inferences
begin and end as steps of their own, so that everything can be done in the middle of them; a call that is
made as a whole is one step. -/
inductive Course : List Writing → Working → Prop where
  | start (rules : List Rule) (bindings : Bindings) :
    Course [] ⟨Session.start rules bindings, fun _ => [], 0⟩
  | change {past : List Writing} {working : Working} (change : Session.Change) :
    Course past working → Course past { working with session := working.session.change change }
  | openContext {past : List Writing} {working : Working} (limit : Nat) :
    Course past working → Course past { working with session := working.session.openContext limit }
  | openChild {past : List Writing} {working : Working} {context scope : Nat} :
    working.session.scopeOf? context = some scope → Course past working →
    Course past { working with session := working.session.openChild scope }
  | share {past : List Writing} {working : Working} {context scope : Nat} :
    working.session.scopeOf? context = some scope → Course past working →
    Course past { working with session := working.session.share scope }
  | write {past : List Writing} {working : Working} {context scope : Nat} (key : String)
    (value? : Option Value) :
    working.session.scopeOf? context = some scope → Course past working →
    Course (⟨scope, key, value?⟩ :: past)
      { working with session := working.session.write scope key value? }
  | enter {past : List Writing} {working : Working} {number : Nat} {key : String} {scope : Scope}
    {bucket : List Rule} :
    working.session.contexts.scope? number = some scope → key ∉ working.inferring number →
    (working.inferring number).length < scope.limit → scope.model.candidates? key = some bucket →
    Course past working → Course past (working.resume (working.activity.push number key))
  | leave {past : List Writing} {working : Working} (number : Nat) :
    Course past working → Course past (working.resume (working.activity.pop number))
  | request {past : List Writing} {working : Working} {program : Program} {request : Request}
    {outcome : Evaluated Answer} {after : Activity} :
    working.activity.Completes program request outcome after → Course past working →
    Course past (working.resume after)

end Working

def Model.HasRule (model : Model) (key : String) : Prop := ∃ rule ∈ model.rules, rule.key = key

def Model.Indexed (model : Model) : Prop :=
  ∃ rules bindings, model = Model.build rules bindings

theorem Model.Indexed.candidates?_eq_none {model : Model} (indexed : model.Indexed) {key : String} :
    model.candidates? key = none ↔ ¬ model.HasRule key := by
  obtain ⟨rules, bindings, rfl⟩ := indexed
  rw [Model.candidates?_build_eq_none]
  exact ⟨fun others ⟨rule, listed, same⟩ => others rule listed same,
    fun missing rule listed same => missing ⟨rule, listed, same⟩⟩

/-- Different keys with rules, no more than the limit of the scope. -/
structure Scope.Chain (scope : Scope) (keys : List String) : Prop where
  different : keys.Nodup
  within : keys.length ≤ scope.limit
  ruled : ∀ key ∈ keys, scope.model.HasRule key

theorem Scope.chain_nil (scope : Scope) : scope.Chain [] :=
  ⟨List.nodup_nil, Nat.zero_le _, fun _ none => (List.not_mem_nil none).elim⟩

theorem Scope.Chain.cons {scope : Scope} {keys : List String} {key : String} {bucket : List Rule}
    (chain : scope.Chain keys) (indexed : scope.model.Indexed) (absent : key ∉ keys)
    (below : keys.length < scope.limit) (rules : scope.model.candidates? key = some bucket) :
    scope.Chain (key :: keys) where
  different := List.nodup_cons.mpr ⟨absent, chain.different⟩
  within := below
  ruled := by
    refine List.forall_mem_cons.mpr ⟨?_, chain.ruled⟩
    by_contra missing
    rw [indexed.candidates?_eq_none.mpr missing] at rules
    cases rules

/-- A scope stands behind its parent, its model is indexed, and the keys under inference are a chain. -/
structure Scope.Sound (scope : Scope) (number : Nat) (keys : List String) : Prop where
  parent : ∀ parent ∈ scope.parent, parent < number
  indexed : scope.model.Indexed
  chain : scope.Chain keys

namespace Working

/-- Contexts stand for scopes that there are, and nothing is under inference in any other. -/
structure Sound (working : Working) : Prop where
  contexts : ∀ context scope, working.session.scopeOf? context = some scope →
    scope < working.session.contexts.length
  indexed : working.session.model.Indexed
  scopes : ∀ number scope, working.session.contexts.scope? number = some scope →
    scope.Sound number (working.inferring number)
  unused : ∀ number, working.session.contexts.length ≤ number → working.inferring number = []

variable {working : Working}

theorem Sound.grow (sound : working.Sound) {latest : Scope}
    (parent : ∀ parent ∈ latest.parent, parent < working.session.contexts.length)
    (indexed : latest.model.Indexed) :
    Sound { working with
      session := { working.session with contexts := latest :: working.session.contexts }.handleLatest } where
  contexts context scope found := by
    rcases Session.scopeOf?_share found with before | rfl
    · exact Nat.lt_succ_of_lt (sound.contexts context scope before)
    · exact Nat.lt_succ_self _
  indexed := sound.indexed
  scopes := Contexts.forall_scope?_cons
    ⟨parent, indexed, (sound.unused _ (Nat.le_refl _)).symm ▸ latest.chain_nil⟩ sound.scopes
  unused number beyond := sound.unused number (Nat.le_of_succ_le beyond)

theorem Sound.hold (sound : working.Sound) {number : Nat} {keys : List String}
    (unused : working.session.contexts.length ≤ number → keys = [])
    (chain : ∀ scope, working.session.contexts.scope? number = some scope → scope.Chain keys) :
    Sound { working with inferring := working.inferring.replace number keys } where
  contexts := sound.contexts
  indexed := sound.indexed
  scopes other scope found := by
    obtain ⟨parent, indexed, before⟩ := sound.scopes other scope found
    refine ⟨parent, indexed, ?_⟩
    dsimp only
    by_cases same : other = number
    · subst same
      rw [Stacks.replace_self]
      exact chain scope found
    · rw [Stacks.replace_other same]
      exact before
  unused other beyond := by
    by_cases same : other = number
    · subst same
      exact (Stacks.replace_self _ _ _).trans (unused beyond)
    · exact (Stacks.replace_other same _).trans (sound.unused other beyond)

theorem Sound.change (sound : working.Sound) (change : Session.Change) :
    Sound { working with session := working.session.change change } := by
  have replaced {model : Model} (indexed : model.Indexed) :
      Sound { working with session := { working.session with model := model } } :=
    ⟨sound.contexts, indexed, sound.scopes, sound.unused⟩
  cases change with
  | newModel rules => exact replaced ⟨rules, [], rfl⟩
  | newRules rules => exact replaced ⟨rules, _, rfl⟩
  | newBindings bindings => exact replaced ⟨_, bindings, rfl⟩
  | snapshot => exact ⟨sound.contexts, sound.indexed, sound.scopes, sound.unused⟩

theorem Sound.write (sound : working.Sound) (scope : Nat) (key : String) (value? : Option Value) :
    Sound { working with session := working.session.write scope key value? } where
  contexts context number found :=
    (sound.contexts context number found).trans_eq (Contexts.length_write _ _ _ _).symm
  indexed := sound.indexed
  scopes number after found := by
    obtain ⟨values, before⟩ := Contexts.scope?_of_write found
    obtain ⟨parent, indexed, different, within, ruled⟩ := sound.scopes number _ before
    exact ⟨parent, indexed, different, within, ruled⟩
  unused number beyond :=
    sound.unused number ((Contexts.length_write _ _ _ _).symm.trans_le beyond)

theorem resume_of_completes {program : Program} {request : Request} {outcome : Evaluated Answer}
    {after : Activity} (completes : working.activity.Completes program request outcome after) :
    working.resume after = working.count := by
  have passage := completes.passage
  unfold resume
  rw [passage.contexts, passage.inferring, passage.calls]
  rfl

/-- Whatever is done with a session, it stays sound. -/
theorem Course.sound {past : List Writing} (course : Course past working) : working.Sound := by
  induction course with
  | start rules bindings =>
      exact ⟨nofun, ⟨rules, bindings, rfl⟩, nofun, fun _ _ => rfl⟩
  | change change _ ih => exact ih.change change
  | openContext limit _ ih => exact ih.grow nofun ih.indexed
  | openChild known _ ih =>
      obtain ⟨scope, found⟩ := Contexts.exists_scope? (ih.contexts _ _ known)
      unfold Session.openChild
      rw [Contexts.createChild_eq found]
      refine ih.grow (fun parent same => ?_) (ih.scopes _ scope found).indexed
      exact Option.some.inj same ▸ ih.contexts _ _ known
  | share known _ ih =>
      refine ⟨fun context scope found => ?_, ih.indexed, ih.scopes, ih.unused⟩
      rcases Session.scopeOf?_share found with before | rfl
      · exact ih.contexts context scope before
      · exact ih.contexts _ _ known
  | write key value? _ _ ih => exact ih.write _ key value?
  | enter found absent below rules _ ih =>
      refine ih.hold (fun beyond => ?_) fun other foundOther => ?_
      · exact absurd (Contexts.lt_length_of_scope? found) (Nat.not_lt_of_le beyond)
      · obtain rfl := Option.some.inj (found.symm.trans foundOther)
        obtain ⟨_, indexed, chain⟩ := ih.scopes _ _ found
        exact chain.cons indexed absent below rules
  | leave number _ ih =>
      refine ih.hold (fun beyond => ?_) fun scope found => ?_
      · exact congrArg List.tail (ih.unused number beyond)
      · obtain ⟨different, within, ruled⟩ := (ih.scopes number scope found).chain
        exact ⟨different.tail, (List.tail_sublist _).length_le.trans within,
          fun key member => ruled key (List.mem_of_mem_tail member)⟩
  | request completes _ ih =>
      rw [resume_of_completes completes]
      exact ⟨ih.contexts, ih.indexed, ih.scopes, ih.unused⟩

end Working

end PredicateRules
