import PredicateRules.Expression.Basic
import PredicateRules.Proofs.Value.Equivalence

/-!
Sets over time. A value need not equal itself, and two values that equal a third one need not equal each
other; still no element of a set ever equals a later one. Whatever is done, a set only grows, at its end, by
values that none of its elements equals, so nothing is dropped where intersection and difference put a part
of a set together anew.
-/

namespace PredicateRules

namespace ValueSet

variable {items left : ValueSet} {value : Value}

theorem insertNew_fst_iff_length (items : ValueSet) (value : Value) :
    (items.insertNew value).1 = true ↔ (items.insertNew value).2.length = items.length + 1 := by
  cases present : items.holds value <;> simp [insertNew, present]

theorem insertNew_snd_of_added (added : (items.insertNew value).1 = true) :
    (items.insertNew value).2 = items ++ [value] := by
  rw [insertNew_fst, Bool.not_eq_true'] at added
  exact insert_of_not_holds added

theorem insertNew_snd_of_refused (refused : (items.insertNew value).1 = false) :
    (items.insertNew value).2 = items := by
  rw [insertNew_fst, Bool.not_eq_false'] at refused
  exact insert_of_holds refused

theorem Distinct.apply (distinct : left.Distinct) (operation : SetOperation) (right : ValueSet) :
    (operation.apply left right).Distinct := by
  cases operation with
  | union => exact distinct.foldl_insert right
  | intersect => exact ofList_distinct _
  | minus => exact ofList_distinct _

theorem Distinct.intersection_eq (distinct : left.Distinct) (right : ValueSet) :
    left.intersection right = left.filter right.holds :=
  distinct.ofList_filter right.holds

theorem Distinct.difference_eq (distinct : left.Distinct) (right : ValueSet) :
    left.difference right = left.filter fun item => !right.holds item :=
  distinct.ofList_filter _

theorem Distinct.partition_eq (distinct : left.Distinct) (right : ValueSet) :
    left.partition right.holds = (left.intersection right, left.difference right) := by
  rw [distinct.intersection_eq, distinct.difference_eq]
  exact List.partition_eq_filter_filter

theorem Distinct.length_intersection_add_difference (distinct : left.Distinct) (right : ValueSet) :
    (left.intersection right).length + (left.difference right).length = left.length := by
  rw [distinct.intersection_eq, distinct.difference_eq]
  exact (List.length_eq_length_filter_add right.holds).symm

end ValueSet

/-- Sets in the order in which they were made. -/
structure SetStore where
  made : List ValueSet

namespace SetStore

/-- One operation. Sets go by their places in the order of making. -/
inductive Change where
  /-- Makes a new set of values, in this order and whichever of them are equal. -/
  | gather (values : List Value)
  | insert (place : Nat) (value : Value)
  /-- Makes a new set out of two. -/
  | combine (operation : SetOperation) (left right : Nat)

def empty : SetStore := ⟨[]⟩

def elements (store : SetStore) (place : Nat) : ValueSet := store.made.getD place []

def add (store : SetStore) (items : ValueSet) : SetStore := ⟨store.made ++ [items]⟩

def change (store : SetStore) : Change → SetStore
  | .gather values => store.add (ValueSet.ofList values)
  | .insert place value => ⟨store.made.modify place fun items => items.insert value⟩
  | .combine operation left right =>
    store.add (operation.apply (store.elements left) (store.elements right))

def changes (store : SetStore) (history : List Change) : SetStore := history.foldl change store

/-- What one operation can make of the elements at a place. -/
inductive Becomes (store : SetStore) : ValueSet → ValueSet → Prop where
  | kept (items : ValueSet) : Becomes store items items
  | inserted (items : ValueSet) (value : Value) : Becomes store items (items.insert value)
  | gathered (values : List Value) : Becomes store [] (ValueSet.ofList values)
  | combined (operation : SetOperation) (left right : Nat) :
      Becomes store [] (operation.apply (store.elements left) (store.elements right))

variable {store : SetStore} {items before after : ValueSet}

theorem becomes_add (new : store.Becomes [] items) (place : Nat) :
    store.Becomes (store.elements place) ((store.add items).elements place) := by
  simp only [elements, add, List.getD_eq_getElem?_getD]
  rcases Nat.lt_trichotomy place store.made.length with earlier | rfl | later
  · rw [List.getElem?_append_left earlier]
    exact .kept _
  · rw [List.getElem?_concat_length, List.getElem?_eq_none (Nat.le_refl _)]
    exact new
  · have beyond : (store.made ++ [items]).length ≤ place := by
      rw [List.length_append]
      exact later
    rw [List.getElem?_eq_none beyond, List.getElem?_eq_none (Nat.le_of_lt later)]
    exact .kept []

theorem becomes_insert (store : SetStore) (target : Nat) (value : Value) (place : Nat) :
    store.Becomes (store.elements place) ((store.change (.insert target value)).elements place) := by
  simp only [elements, change, List.getD_eq_getElem?_getD, List.getElem?_modify]
  cases store.made[place]? with
  | none => exact .kept []
  | some items =>
      show store.Becomes items (if target = place then items.insert value else items)
      split
      · exact .inserted items value
      · exact .kept items

theorem becomes_change (store : SetStore) (step : Change) (place : Nat) :
    store.Becomes (store.elements place) ((store.change step).elements place) := by
  cases step with
  | gather values => exact becomes_add (.gathered values) place
  | insert target value => exact store.becomes_insert target value place
  | combine operation left right => exact becomes_add (.combined operation left right) place

theorem Becomes.distinct (becomes : store.Becomes before after)
    (each : ∀ place, (store.elements place).Distinct) (distinct : before.Distinct) : after.Distinct := by
  cases becomes with
  | kept => exact distinct
  | inserted items value => exact distinct.insert value
  | gathered values => exact ValueSet.ofList_distinct values
  | combined operation left right => exact (each left).apply operation _

theorem Becomes.front (becomes : store.Becomes before after) : before <+: after := by
  cases becomes with
  | kept => exact List.prefix_rfl
  | inserted items value =>
      obtain ⟨added, -, grown⟩ := before.foldl_insert_eq_append [value]
      exact ⟨added, grown.symm⟩
  | gathered values => exact List.nil_prefix
  | combined operation left right => exact List.nil_prefix

theorem distinct_empty (place : Nat) : (empty.elements place).Distinct := .nil

theorem distinct_changes (each : ∀ place, (store.elements place).Distinct) (history : List Change)
    (place : Nat) : ((store.changes history).elements place).Distinct := by
  induction history generalizing store with
  | nil => exact each place
  | cons step history ih =>
      exact ih fun place => (store.becomes_change step place).distinct each (each place)

theorem front_changes (store : SetStore) (history : List Change) (place : Nat) :
    store.elements place <+: (store.changes history).elements place := by
  induction history generalizing store with
  | nil => exact List.prefix_rfl
  | cons step history ih => exact (store.becomes_change step place).front.trans (ih (store.change step))

/-- Whatever was done with sets before, no element of one equals a later one. An insertion answers
whether the set is one element longer; if so the value is the last, and otherwise the set is as it was.
What is in a set stays in front whatever is done later. Intersection and difference share out the elements
of the set on the left, union begins with them, and all keep the order of what they take. -/
theorem sets_hold_no_duplicates (history : List Change) (place other : Nat) (value : Value) :
    let store := empty.changes history
    let left := store.elements place
    let right := store.elements other
    let inserted := left.insertNew value
    left.Distinct ∧
      ((inserted.1 = true ↔ inserted.2.length = left.length + 1) ∧
        (inserted.1 = true → inserted.2 = left ++ [value]) ∧ (inserted.1 = false → inserted.2 = left)) ∧
      (∀ later, left <+: (store.changes later).elements place) ∧
      ((left.intersection right).Sublist left ∧ (left.difference right).Sublist left ∧
        left.partition right.holds = (left.intersection right, left.difference right) ∧
        (left.intersection right).length + (left.difference right).length = left.length) ∧
      (∃ added, added.Sublist right ∧ left.union right = left ++ added) ∧
      ∀ values, (ValueSet.ofList values).Sublist values := by
  intro store left right inserted
  have distinct : left.Distinct := distinct_changes distinct_empty history place
  refine ⟨distinct, ⟨left.insertNew_fst_iff_length value, ValueSet.insertNew_snd_of_added,
    ValueSet.insertNew_snd_of_refused⟩, fun later => store.front_changes later place,
    ⟨?common, ?rest, ?shared, ?lengths⟩, left.foldl_insert_eq_append right, ValueSet.ofList_sublist⟩
  case common =>
    rw [distinct.intersection_eq]
    exact List.filter_sublist
  case rest =>
    rw [distinct.difference_eq]
    exact List.filter_sublist
  case shared => exact distinct.partition_eq right
  case lengths => exact distinct.length_intersection_add_difference right

/-- A float that is no number, put in twice, and two integers that equal one float. -/
theorem sets_hold_no_duplicates_unequal :
    let nan : Value := .float (0 / 0)
    let large : Value := .int 9007199254740992
    let next : Value := .int 9007199254740993
    let rounded : Value := .float (Float.ofInt 9007199254740992)
    let store := empty.changes [.gather [nan, large, nan, rounded, next], .gather [rounded, nan]]
    let left := store.elements 0
    let right := store.elements 1
    ((nan == nan) = false ∧ (large == rounded) = true ∧ (rounded == next) = true ∧ (large == next) = false) ∧
      (left = [nan, large, nan, next] ∧ left.Distinct) ∧
      ((left.insertNew nan).1 = true ∧ (left.insertNew nan).2 = left ++ [nan]) ∧
      ((left.insertNew rounded).1 = false ∧ (left.insertNew rounded).2 = left) ∧
      (left.intersection right).length = 2 ∧ (left.difference right).length = 2 := by
  intro nan large next rounded store left right
  let history : List Change := [.gather [nan, large, nan, rounded, next], .gather [rounded, nan]]
  obtain ⟨distinct, ⟨-, added, -⟩, -, ⟨-, -, -, shared⟩, -⟩ := sets_hold_no_duplicates history 0 1 nan
  obtain ⟨-, ⟨-, -, refused⟩, -⟩ := sets_hold_no_duplicates history 0 1 rounded
  have inserts : (left.insertNew nan).1 = true := by decide +kernel
  have refuses : (left.insertNew rounded).1 = false := by decide +kernel
  have common : (left.intersection right).length = 2 := by decide +kernel
  have total : 2 + (left.difference right).length = 4 := common ▸ shared
  exact ⟨by decide +kernel, ⟨rfl, distinct⟩, ⟨inserts, added inserts⟩, ⟨refuses, refused refuses⟩, common,
    Nat.add_left_cancel total⟩

/-- It is only a later element that none equals: a set may equal another that does not equal it. -/
example :
    let mixed : Value := .set [.float (Float.ofInt 9007199254740992), .string "x"]
    let pair : Value := .set [.int 9007199254740992, .int 9007199254740993]
    (ValueSet.ofList [mixed, pair]).length = 2 ∧ (mixed == pair) = false ∧ (pair == mixed) = true := by
  decide +kernel

end SetStore

end PredicateRules
