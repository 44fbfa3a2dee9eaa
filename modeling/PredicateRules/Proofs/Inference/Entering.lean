import Mathlib.Data.Finset.Card
import Mathlib.Data.Finset.Dedup
import PredicateRules.Context.Activity

namespace PredicateRules

namespace Stacks

@[simp]
theorem replace_self (held : Stacks) (number : Nat) (keys : List String) :
    held.replace number keys number = keys := if_pos rfl

@[simp]
theorem replace_other {held : Stacks} {number other : Nat} (different : other ≠ number)
    (keys : List String) : held.replace number keys other = held other := if_neg different

theorem replace_back (held : Stacks) (number : Nat) (keys : List String) :
    (held.replace number keys).replace number (held number) = held := by
  funext other
  by_cases same : other = number
  · rw [same, replace_self]
  · rw [replace_other same, replace_other same]

end Stacks

namespace Inferring

variable {inferring : Inferring} {number : Nat} {key : String}

def held (inferring : Inferring) : Stacks :=
  fun number => (inferring.filter fun entry => entry.1 == number).map Prod.snd

theorem mem_held : key ∈ inferring.held number ↔ (number, key) ∈ inferring := by
  simp [held]

theorem length_held : (inferring.held number).length = inferring.depth number := by
  rw [held, List.length_map, depth]

theorem held_cons :
    held ((number, key) :: inferring) =
      inferring.held.replace number (key :: inferring.held number) := by
  funext other
  by_cases same : other = number
  · subst same
    simp [held]
  · have different : ¬number = other := fun equal => same equal.symm
    simp [held, same, different]

theorem nodup_held (different : inferring.Nodup) : (inferring.held number).Nodup := by
  refine List.Nodup.map_on ?_ (different.filter _)
  rintro ⟨first, key⟩ member ⟨second, other⟩ memberOther rfl
  simp only [List.mem_filter, beq_iff_eq] at member memberOther
  rw [member.2, memberOther.2]

def inScope (number : Nat) (keys : List String) : Inferring := keys.map fun key => (number, key)

theorem contains_inScope {keys : List String} :
    (inScope number keys).contains (number, key) = keys.contains key := by
  simp [inScope]

theorem depth_inScope {keys : List String} : (inScope number keys).depth number = keys.length := by
  simp [inScope, depth, List.filter_map, Function.comp_def]

end Inferring

namespace Contexts

theorem lt_length_of_scope? {contexts : Contexts} {number : Nat} {scope : Scope}
    (found : contexts.scope? number = some scope) : number < contexts.length := by
  induction contexts with
  | nil => cases found
  | cons latest older ih =>
      unfold scope? at found
      split at found
      next same => simp [same]
      next => exact Nat.lt_succ_of_lt (ih found)

theorem scope?_older {latest : Scope} {older : Contexts} {number : Nat} {scope : Scope}
    (found : scope? older number = some scope) : scope? (latest :: older) number = some scope := by
  rw [scope?, if_neg (Nat.ne_of_lt (lt_length_of_scope? found))]
  exact found

theorem limit_le_room {contexts : Contexts} {number : Nat} {scope : Scope}
    (found : contexts.scope? number = some scope) : scope.limit ≤ contexts.room := by
  induction contexts with
  | nil => cases found
  | cons latest older ih =>
      rw [room]
      unfold scope? at found
      split at found
      · obtain rfl := Option.some.inj found
        exact Nat.le_add_right _ _
      · exact (ih found).trans (Nat.le_add_left _ _)

/-- Where each scope keeps to its limit, all together keep to the room that there is. -/
theorem length_le_room {contexts : Contexts} {inferring : Inferring}
    (known : ∀ entry ∈ inferring, entry.1 < contexts.length)
    (deep : ∀ number scope, contexts.scope? number = some scope →
      inferring.depth number ≤ scope.limit) :
    inferring.length ≤ contexts.room := by
  induction contexts generalizing inferring with
  | nil =>
      cases inferring with
      | nil => exact Nat.le_refl 0
      | cons entry inferring => exact absurd (known entry (by simp)) (Nat.not_lt_zero _)
  | cons latest older ih =>
      have own : inferring.depth older.length ≤ latest.limit := deep _ latest (if_pos rfl)
      have others : (inferring.filter fun entry => !(entry.1 == older.length)).length ≤ Contexts.room older := by
        refine ih ?_ fun number scope found => ?_
        · intro entry member
          obtain ⟨listed, different⟩ := List.mem_filter.mp member
          have bound := known entry listed
          simp only [Bool.not_eq_true', beq_eq_false_iff_ne, List.length_cons] at different bound
          omega
        · refine Nat.le_trans ?_ (deep number scope (scope?_older found))
          exact ((List.filter_sublist).filter _).length_le
      have whole := List.length_eq_length_filter_add (l := inferring)
        fun entry => entry.1 == older.length
      simp only [room, Inferring.depth] at own others ⊢
      omega

end Contexts

namespace Contexts

def worldWithin (program : Program) (contexts : Contexts) (room : Nat) (inferring : Inferring)
    (trail : List Site) : World where
  host site := program.host (site :: trail)
  contextKey site := contexts.read (contexts.inferWithin program room inferring (site :: trail))

variable {program : Program} {contexts : Contexts} {inferring : Inferring} {trail : List Site}
  {number : Nat} {key : String}

theorem inferWithin_unknown {room : Nat} (unknown : contexts.scope? number = none) :
    contexts.inferWithin program room inferring trail number key = .ok none := by
  cases room <;> rw [inferWithin, unknown]

/-- What a key that is entered is inferred to, with so much room before it was. -/
def firing (program : Program) (contexts : Contexts) (scope : Scope) (number : Nat) (trail : List Site)
    (key : String) : Nat → Inferring → Evaluated (Option Value)
  | 0, _ => .error (.inferenceDepthExceeded key scope.limit)
  | room + 1, entered =>
    scope.model.fireFirst (contexts.worldWithin program room entered trail) (subject number trail) key

theorem inferWithin_known {room : Nat} {scope : Scope}
    (found : contexts.scope? number = some scope) :
    contexts.inferWithin program room inferring trail number key =
      inferring.enter scope.limit number key >>=
        contexts.firing program scope number trail key room := by
  cases room <;> (rw [inferWithin, found]; rfl)

theorem inferAll_eq : contexts.inferAll program number key trail =
    match contexts.scope? number with
    | none => .ok []
    | some scope => Inferring.enter [] scope.limit number key >>= fun entered =>
        scope.model.fireAll (contexts.worldWithin program (contexts.room - entered.length) entered trail)
          (subject number trail) key := rfl

end Contexts

def Scope.inferrable (scope : Scope) : Finset String := scope.model.inferrableKeys.toFinset

theorem Scope.inferrable_of_candidates? {scope : Scope} {key : String} {bucket : List Rule}
    (found : scope.model.candidates? key = some bucket) : key ∈ scope.inferrable := by
  have listed : key ∈ scope.model.index.keys := by
    obtain ⟨before, after, whole, _⟩ := List.lookup_eq_some_iff.mp found
    simp [RuleIndex.keys, whole]
  rw [inferrable, List.mem_toFinset, Model.inferrableKeys, RuleIndex.sortedKeys, List.mem_mergeSort]
  exact listed

namespace Contexts

/-- In each scope the keys under inference are different, and they are no more than its limit and no
more than one besides the keys that it has rules for. -/
def Bounds (contexts : Contexts) (held : Stacks) : Prop :=
  ∀ number scope, contexts.scope? number = some scope →
    (held number).Nodup ∧
      (held number).length ≤ min scope.limit (scope.inferrable.card + 1)

/-- Only a limit that all keys with rules can reach is a reason to refuse. -/
def MayRefuse (contexts : Contexts) (number : Nat) (cause : EvalError) : Prop :=
  ∃ scope, contexts.scope? number = some scope ∧ ∀ key limit,
    cause = .inferenceDepthExceeded key limit → limit = scope.limit ∧ limit ≤ scope.inferrable.card

/-- Keys under inference that were entered one after the other. -/
structure Entered (contexts : Contexts) (inferring : Inferring) : Prop where
  different : inferring.Nodup
  known : ∀ entry ∈ inferring, entry.1 < contexts.length
  deep : ∀ number scope, contexts.scope? number = some scope → inferring.depth number ≤ scope.limit

/-- All keys under inference have rules, as they have where a rule is evaluated. -/
def Ruled (contexts : Contexts) (inferring : Inferring) : Prop :=
  ∀ number scope, contexts.scope? number = some scope →
    ∀ key ∈ inferring.held number, key ∈ scope.inferrable

variable {contexts : Contexts} {inferring : Inferring} {number : Nat} {scope : Scope} {key : String}

theorem entered_nil : contexts.Entered [] :=
  ⟨List.nodup_nil, fun _ none => (List.not_mem_nil none).elim, fun _ _ _ => Nat.zero_le _⟩

theorem ruled_nil : contexts.Ruled [] := fun _ _ _ _ none => nomatch none

theorem Entered.length_held_le (entered : contexts.Entered inferring)
    (ruled : contexts.Ruled inferring) (found : contexts.scope? number = some scope) :
    (inferring.held number).length ≤ scope.inferrable.card := by
  rw [← List.toFinset_card_of_nodup (Inferring.nodup_held entered.different)]
  refine Finset.card_le_card fun key member => ?_
  exact ruled number scope found key (List.mem_toFinset.mp member)

theorem Entered.bounds (entered : contexts.Entered inferring) (ruled : contexts.Ruled inferring) :
    contexts.Bounds inferring.held := by
  intro number scope found
  refine ⟨Inferring.nodup_held entered.different, Nat.le_min.mpr ⟨?_, ?_⟩⟩
  · exact Inferring.length_held.trans_le (entered.deep number scope found)
  · exact (entered.length_held_le ruled found).trans (Nat.le_succ _)

theorem Entered.cons (entered : contexts.Entered inferring)
    (found : contexts.scope? number = some scope) (absent : (number, key) ∉ inferring)
    (below : inferring.depth number < scope.limit) :
    contexts.Entered ((number, key) :: inferring) where
  different := List.nodup_cons.mpr ⟨absent, entered.different⟩
  known := List.forall_mem_cons.mpr ⟨lt_length_of_scope? found, entered.known⟩
  deep other scope' foundOther := by
    rw [← Inferring.length_held, Inferring.held_cons]
    by_cases same : other = number
    · subst same
      obtain rfl : scope = scope' := Option.some.inj (found.symm.trans foundOther)
      rw [Stacks.replace_self, List.length_cons, Inferring.length_held]
      exact below
    · rw [Stacks.replace_other same, Inferring.length_held]
      exact entered.deep other scope' foundOther

theorem Ruled.cons (ruled : contexts.Ruled inferring)
    (found : contexts.scope? number = some scope) (inferrable : key ∈ scope.inferrable) :
    contexts.Ruled ((number, key) :: inferring) := by
  intro other scope' foundOther
  rw [Inferring.held_cons]
  by_cases same : other = number
  · subst same
    obtain rfl : scope = scope' := Option.some.inj (found.symm.trans foundOther)
    rw [Stacks.replace_self]
    exact List.forall_mem_cons.mpr ⟨inferrable, ruled other scope found⟩
  · rw [Stacks.replace_other same]
    exact ruled other scope' foundOther

theorem Entered.bounds_cons (entered : contexts.Entered ((number, key) :: inferring))
    (before : contexts.Entered inferring) (ruled : contexts.Ruled inferring) :
    contexts.Bounds (Inferring.held ((number, key) :: inferring)) := by
  intro other scope found
  refine ⟨Inferring.nodup_held entered.different, Nat.le_min.mpr ⟨?_, ?_⟩⟩
  · exact Inferring.length_held.trans_le (entered.deep other scope found)
  · have bound := before.length_held_le ruled found
    rw [Inferring.held_cons]
    by_cases same : other = number
    · subst same
      rw [Stacks.replace_self, List.length_cons]
      exact Nat.succ_le_succ bound
    · rw [Stacks.replace_other same]
      exact bound.trans (Nat.le_succ _)

end Contexts

end PredicateRules
