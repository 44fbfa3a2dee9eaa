import PredicateRules.Value.Equality

namespace PredicateRules

/-- The elements of a set, in order of insertion. -/
abbrev ValueSet := List Value

namespace ValueSet

def holds (items : ValueSet) (value : Value) : Bool := items.any fun element => element == value

/-- Adds `value` at the end unless an equal element is there, and tells whether it was added. -/
def insertNew (items : ValueSet) (value : Value) : Bool × ValueSet :=
  if items.holds value then (false, items) else (true, items ++ [value])

def insert (items : ValueSet) (value : Value) : ValueSet := (items.insertNew value).2

theorem insertNew_fst (items : ValueSet) (value : Value) :
    (items.insertNew value).1 = !items.holds value := by
  cases present : items.holds value <;> simp [insertNew, present]

theorem insert_of_holds {items : ValueSet} {value : Value} (present : items.holds value = true) :
    items.insert value = items := by
  simp [insert, insertNew, present]

theorem insert_of_not_holds {items : ValueSet} {value : Value}
    (absent : items.holds value = false) : items.insert value = items ++ [value] := by
  simp [insert, insertNew, absent]

/-- Values are only ever added at the end, in the order in which they come. -/
theorem foldl_insert_eq_append (items : ValueSet) (values : List Value) :
    ∃ added, added.Sublist values ∧ values.foldl insert items = items ++ added := by
  induction values generalizing items with
  | nil => exact ⟨[], .slnil, (List.append_nil items).symm⟩
  | cons value values ih =>
      obtain ⟨added, order, grown⟩ := ih (items.insert value)
      rw [List.foldl_cons, grown]
      cases present : items.holds value with
      | true => exact ⟨added, order.cons value, by rw [insert_of_holds present]⟩
      | false =>
          refine ⟨value :: added, order.cons_cons value, ?_⟩
          rw [insert_of_not_holds present, List.append_assoc, List.singleton_append]

def ofList (values : List Value) : ValueSet := values.foldl insert []

theorem ofList_sublist (values : List Value) : (ofList values).Sublist values := by
  obtain ⟨added, order, gathered⟩ := foldl_insert_eq_append [] values
  rw [ofList, gathered]
  exact order

def union (left right : ValueSet) : ValueSet := right.foldl insert left

def intersection (left right : ValueSet) : ValueSet := ofList (left.filter right.holds)

def difference (left right : ValueSet) : ValueSet :=
  ofList (left.filter fun item => !right.holds item)

end ValueSet

def isInfixText (part : List Char) : List Char → Bool
  | [] => part.isEmpty
  | head :: rest => part.isPrefixOf (head :: rest) || isInfixText part rest

/-- Strings contain their parts, collections their elements and maps their keys; nothing else has a
notion of membership. -/
def Value.contains? : Value → Value → Option Bool
  | .string whole, .string part => some (isInfixText part.toList whole.toList)
  | .list items, needle => some (ValueSet.holds items needle)
  | .set items, needle => some (ValueSet.holds items needle)
  | .map entries, .string key => some (Value.entry? key entries).isSome
  | _, _ => none

end PredicateRules
