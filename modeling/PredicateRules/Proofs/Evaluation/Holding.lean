import PredicateRules.Predicate.Evaluation

namespace PredicateRules

/-- Whether it is a scope that refuses to infer a key. -/
def EvalError.ofInference : EvalError → Bool
  | inferenceCycle _ => true
  | inferenceDepthExceeded _ _ => true
  | _ => false

namespace Value

section

variable (allowed : Value → Prop)

mutual

/-- Every object and every function in the value is allowed. -/
def Within : Value → Prop
  | list items => EachWithin items
  | set items => EachWithin items
  | map entries => EntriesWithin entries
  | object reference => allowed (object reference)
  | function number => allowed (function number)
  | _ => True

def EachWithin : List Value → Prop
  | [] => True
  | item :: items => Within item ∧ EachWithin items

def EntriesWithin : List (String × Value) → Prop
  | [] => True
  | (_, item) :: entries => Within item ∧ EntriesWithin entries

end

end

def FoundWithin (allowed : Value → Prop) (value? : Option Value) : Prop :=
  ∀ value ∈ value?, value.Within allowed

variable {allowed : Value → Prop}

mutual

theorem within_of_all (all : ∀ value, allowed value) : (value : Value) → value.Within allowed
  | list items => eachWithin_of_all all items
  | set items => eachWithin_of_all all items
  | map entries => entriesWithin_of_all all entries
  | object reference => all (object reference)
  | function number => all (function number)
  | null | bool _ | int _ | float _ | string _ | dateTime _ => trivial

theorem eachWithin_of_all (all : ∀ value, allowed value) :
    (items : List Value) → EachWithin allowed items
  | [] => trivial
  | item :: items => ⟨within_of_all all item, eachWithin_of_all all items⟩

theorem entriesWithin_of_all (all : ∀ value, allowed value) :
    (entries : List (String × Value)) → EntriesWithin allowed entries
  | [] => trivial
  | (_, item) :: entries => ⟨within_of_all all item, entriesWithin_of_all all entries⟩

end

theorem eachWithin_iff {items : List Value} :
    EachWithin allowed items ↔ ∀ item ∈ items, item.Within allowed := by
  induction items with
  | nil => simp [EachWithin]
  | cons item items ih => simp only [EachWithin, List.forall_mem_cons, ih]

theorem within_of_entry? {key : String} {entries : List (String × Value)} {value : Value}
    (within : EntriesWithin allowed entries) (found : entry? key entries = some value) :
    value.Within allowed := by
  induction entries with
  | nil => cases found
  | cons entry entries ih =>
      obtain ⟨other, item⟩ := entry
      unfold entry? at found
      rw [List.lookup_cons] at found
      split at found
      · obtain rfl := Option.some.inj found
        exact within.1
      · exact ih within.2 found

theorem within_getD {value? : Option Value} (within : FoundWithin allowed value?) :
    (value?.getD null).Within allowed := by
  cases value? with
  | none => trivial
  | some value => exact within value rfl

theorem eachWithin_of_elements {value : Value} {items : List Value} (within : value.Within allowed)
    (found : value.elements? = some items) : EachWithin allowed items := by
  cases value <;> cases found <;> exact within

end Value

namespace ValueSet

variable {allowed : Value → Prop}

theorem mem_foldl_insert {items : List Value} {set : ValueSet} {value : Value}
    (member : value ∈ items.foldl insert set) : value ∈ set ∨ value ∈ items := by
  obtain ⟨added, order, grown⟩ := set.foldl_insert_eq_append items
  rw [grown] at member
  exact (List.mem_append.mp member).imp_right fun new => order.subset new

theorem mem_ofList {items : List Value} {value : Value} (member : value ∈ ofList items) :
    value ∈ items :=
  (ofList_sublist items).subset member

theorem eachWithin_apply (operation : SetOperation) {left right : ValueSet}
    (withinLeft : Value.EachWithin allowed left) (withinRight : Value.EachWithin allowed right) :
    Value.EachWithin allowed (operation.apply left right) := by
  rw [Value.eachWithin_iff] at *
  intro value member
  cases operation with
  | union => exact (mem_foldl_insert member).elim (withinLeft value) (withinRight value)
  | intersect => exact withinLeft value (List.mem_filter.mp (mem_ofList member)).1
  | minus => exact withinLeft value (List.mem_filter.mp (mem_ofList member)).1

end ValueSet

namespace Evaluated

variable {α β : Type} {property : α → Prop}

/-- A result has the property, and a failure is none of an inference. -/
def Yields (property : α → Prop) : Evaluated α → Prop
  | .ok result => property result
  | .error cause => cause.ofInference = false

theorem Yields.bind {middle : β → Prop} {first : Evaluated β} {next : β → Evaluated α}
    (before : Yields middle first) (after : ∀ result, middle result → Yields property (next result)) :
    Yields property (first >>= next) := by
  cases first with
  | ok result => exact after result before
  | error cause => exact before

end Evaluated

open Evaluated

namespace Builtin

variable {allowed : Value → Prop} {function : Builtin} {value left right : Value}

theorem number_yields : Yields (fun _ => True) (function.number value) := by
  unfold number
  split <;> trivial

theorem floatArithmetic_yields {onFloats : Float → Float → Float} :
    Yields (Value.Within allowed) (function.floatArithmetic onFloats left right) :=
  number_yields.bind fun _ _ => number_yields.bind fun _ _ => trivial

theorem arithmetic_yields {onInts : Int → Int → Int} {onFloats : Float → Float → Float} :
    Yields (Value.Within allowed) (function.arithmetic onInts onFloats left right) := by
  unfold arithmetic
  split
  · split
    · trivial
    · exact floatArithmetic_yields
  · exact floatArithmetic_yields

theorem addValues_yields (withinLeft : left.Within allowed) (withinRight : right.Within allowed) :
    Yields (Value.Within allowed) (function.addValues left right) := by
  unfold addValues
  split
  · trivial
  · rename_i lefts rights
    refine Value.eachWithin_iff.mpr fun item member => ?_
    rcases List.mem_append.mp member with member | member
    · exact Value.eachWithin_iff.mp withinLeft item member
    · exact Value.eachWithin_iff.mp withinRight item member
  · exact arithmetic_yields

theorem divideValues_yields : Yields (Value.Within allowed) (function.divideValues left right) := by
  refine number_yields.bind fun divisor _ => ?_
  dsimp only
  split
  · rfl
  · exact number_yields.bind fun _ _ => trivial

theorem ofFloats_yields : Yields (Value.Within allowed) (modulusValues.ofFloats function left right) := by
  refine number_yields.bind fun dividend _ => number_yields.bind fun divisor _ => ?_
  dsimp only
  split
  · rfl
  · trivial

theorem modulusValues_yields : Yields (Value.Within allowed) (function.modulusValues left right) := by
  unfold modulusValues
  split
  · split
    · rfl
    · split
      · trivial
      · exact ofFloats_yields
  · exact ofFloats_yields

theorem magnitude_yields : Yields (Value.Within allowed) (function.magnitude value) := by
  unfold magnitude
  split
  · trivial
  · exact number_yields.bind fun _ _ => trivial

theorem ceilingOf_yields : Yields (Value.Within allowed) (function.ceilingOf value) := by
  unfold ceilingOf
  split
  · trivial
  · exact number_yields.bind fun _ _ => trivial

theorem negated_yields : Yields (Value.Within allowed) (function.negated value) := by
  unfold negated
  split
  · split <;> trivial
  · exact number_yields.bind fun _ _ => trivial

theorem items_yields (within : value.Within allowed) :
    Yields (Value.EachWithin allowed) (function.items value) := by
  unfold items
  split
  · rename_i elements found
    exact Value.eachWithin_of_elements within found
  · rfl

theorem size_yields : Yields (fun _ => True) (function.size value) := by
  unfold size
  split <;> trivial

theorem extremeFrom_yields {wanted : Ordering} {best : Value} {items : List Value}
    (withinBest : best.Within allowed) (within : Value.EachWithin allowed items) :
    Yields (Value.Within allowed) (function.extremeFrom wanted best items) := by
  induction items generalizing best with
  | nil => exact withinBest
  | cons item rest ih =>
      unfold extremeFrom
      split
      · refine ih ?_ within.2
        split
        · exact within.1
        · exact withinBest
      · rfl

theorem extreme_yields {wanted : Ordering} (within : value.Within allowed) :
    Yields (Value.Within allowed) (function.extreme wanted value) := by
  refine (items_yields within).bind fun items each => ?_
  cases items with
  | nil => rfl
  | cons item rest => exact extremeFrom_yields each.1 each.2

theorem foldlM_addValues_yields {items : List Value} {sum : Value} (withinSum : sum.Within allowed)
    (within : Value.EachWithin allowed items) :
    Yields (Value.Within allowed) (items.foldlM function.addValues sum) := by
  induction items generalizing sum with
  | nil => exact withinSum
  | cons item items ih =>
      rw [List.foldlM_cons]
      exact (addValues_yields withinSum within.1).bind fun next withinNext => ih withinNext within.2

theorem total_yields {items : List Value} (within : Value.EachWithin allowed items) :
    Yields (Value.Within allowed) (function.total items) :=
  foldlM_addValues_yields trivial within

theorem averageOf_yields (within : value.Within allowed) :
    Yields (Value.Within allowed) (function.averageOf value) := by
  refine (items_yields within).bind fun items each => ?_
  dsimp only
  split
  · rfl
  · exact (total_yields each).bind fun _ _ => number_yields.bind fun _ _ => trivial

theorem elementAt_yields {index : Int64} (within : value.Within allowed) :
    Yields (Value.Within allowed) (function.elementAt value index) := by
  refine (items_yields within).bind fun items each => ?_
  dsimp only
  split
  · rename_i element found
    refine Value.eachWithin_iff.mp each element ?_
    exact List.mem_of_getElem? (Option.ite_none_left_eq_some.mp found).2
  · rfl

theorem elementBy_yields {index : Value} (within : value.Within allowed) :
    Yields (Value.Within allowed) (function.elementBy value index) := by
  unfold elementBy
  split
  · exact elementAt_yields within
  · split
    · exact elementAt_yields within
    · rfl
  · rfl

theorem randomUpTo_yields {host : Host} :
    Yields (Value.Within allowed) (function.randomUpTo host value) := by
  refine number_yields.bind fun bound _ => ?_
  dsimp only
  split
  · rfl
  · trivial

theorem compute_yields {host : Host} {arguments : List Value}
    (within : Value.EachWithin allowed arguments) :
    Yields (Value.Within allowed) (function.compute host arguments) := by
  unfold compute
  split
  · trivial
  · exact (items_yields within.1).bind fun _ => total_yields
  · exact size_yields.bind fun _ _ => trivial
  · exact extreme_yields within.1
  · exact extreme_yields within.1
  · exact averageOf_yields within.1
  · exact elementAt_yields within.1
  · exact elementAt_yields within.1
  · exact elementAt_yields within.1
  · exact elementAt_yields within.1
  · exact addValues_yields within.1 within.2.1
  · exact arithmetic_yields
  · exact arithmetic_yields
  · exact divideValues_yields
  · exact modulusValues_yields
  · exact floatArithmetic_yields
  · exact number_yields.bind fun _ _ => trivial
  · exact number_yields.bind fun _ _ => trivial
  · exact number_yields.bind fun _ _ => trivial
  · exact magnitude_yields
  · exact ceilingOf_yields
  · exact negated_yields
  · exact randomUpTo_yields
  all_goals trivial

theorem compute_congr {host other : Host} (untimed : function ≠ now) (fixed : function ≠ random)
    (arguments : List Value) : function.compute host arguments = function.compute other arguments := by
  unfold compute
  split <;> first | rfl | contradiction

end Builtin

theorem SetOperation.evaluate_yields {allowed : Value → Prop} {operation : SetOperation}
    {left : ValueSet} {right : Value} (withinLeft : Value.EachWithin allowed left)
    (withinRight : right.Within allowed) :
    Yields (Value.Within allowed) (operation.evaluate left right) := by
  unfold evaluate
  split
  · exact ValueSet.eachWithin_apply operation withinLeft withinRight
  · rename_i items
    refine ValueSet.eachWithin_apply operation withinLeft (Value.eachWithin_iff.mpr ?_)
    exact fun item member => Value.eachWithin_iff.mp withinRight item (ValueSet.mem_ofList member)
  · rfl

namespace ComparisonOperator

variable {operator : ComparisonOperator} {options : ComparisonOptions} {left right : Value}

theorem order_yields : Yields (fun _ => True) (operator.order left right) := by
  unfold order
  split <;> trivial

theorem matchesText_yields : Yields (fun _ => True) (operator.matchesText options left right) := by
  unfold matchesText
  split
  · dsimp only
    split <;> trivial
  · trivial

theorem affix_yields {test : List Char → List Char → Bool} :
    Yields (fun _ => True) (operator.affix test left right) := by
  unfold affix
  split
  · trivial
  · split <;> trivial

theorem membership_yields : Yields (fun _ => True) (operator.membership left right) := by
  unfold membership
  split
  · trivial
  · split <;> trivial

theorem betweenBounds_yields : Yields (fun _ => True) (operator.betweenBounds left right) := by
  unfold betweenBounds
  split
  · exact order_yields.bind fun _ _ => order_yields.bind fun _ _ => trivial
  · trivial

theorem apply_yields : Yields (fun _ => True) (operator.apply options left right) := by
  unfold apply
  cases operator with
  | lessThan | lessThanOrEqual | greaterThan | greaterThanOrEqual =>
      exact order_yields.bind fun _ _ => trivial
  | equalTo | notEqualTo | like | customSelector => trivial
  | matchesPattern => exact matchesText_yields
  | beginsWith | endsWith => exact affix_yields
  | isIn | contains => exact membership_yields
  | between => exact betweenBounds_yields

theorem applyToAny_yields {elements : List Value} :
    Yields (fun _ => True) (operator.applyToAny options right elements) := by
  induction elements with
  | nil => trivial
  | cons element elements ih =>
      refine apply_yields.bind fun holds _ => ?_
      cases holds with
      | true => trivial
      | false => exact ih

theorem applyToAll_yields {elements : List Value} :
    Yields (fun _ => True) (operator.applyToAll options right elements) := by
  induction elements with
  | nil => trivial
  | cons element elements ih =>
      refine apply_yields.bind fun holds _ => ?_
      cases holds with
      | true => exact ih
      | false => trivial

end ComparisonOperator

theorem Comparison.decide_yields {comparison : Comparison} {left right : Value} :
    Yields (fun _ => True) (comparison.decide left right) := by
  unfold Comparison.decide
  dsimp only
  split
  · exact ComparisonOperator.applyToAny_yields
  · exact ComparisonOperator.applyToAll_yields
  · exact ComparisonOperator.apply_yields

end PredicateRules
