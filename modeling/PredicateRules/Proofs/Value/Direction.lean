import PredicateRules.Proofs.Value.Equivalence
import PredicateRules.Proofs.Value.Order

namespace PredicateRules

/-- The comparison finds its values equal or in the given order. -/
def Directed (wanted step : Ordering) : Prop := step = .eq ∨ step = wanted

theorem then_directed {wanted first : Ordering} (directed : Directed wanted first) :
    first.then wanted = wanted := by
  rcases directed with rfl | rfl
  · rfl
  · cases first <;> rfl

theorem then_of_strict {first second : Ordering} (strict : first ≠ .eq) : first.then second = first := by
  cases first with
  | eq => exact absurd rfl strict
  | _ => rfl

theorem compare_then {α : Type} (order : α → α → Ordering) [Std.TransCmp order] {wanted : Ordering}
    {left middle right : α} (directed : Directed wanted (order left middle))
    (directedNext : Directed wanted (order middle right)) :
    order left right = (order left middle).then (order middle right) := by
  rcases directed with equal | first
  · rw [Std.TransCmp.congr_left equal, equal]
    rfl
  rcases directedNext with equal | second
  · rw [← Std.TransCmp.congr_right equal, equal, Ordering.then_eq]
  rw [first, second]
  cases wanted with
  | lt => exact Std.TransCmp.lt_trans first second
  | eq => exact Std.TransCmp.eq_trans first second
  | gt => exact Std.TransCmp.gt_trans first second

instance : Std.TransCmp DateTime.order :=
  inferInstanceAs (Std.TransCmp (compareLex (compareOn DateTime.year)
    (compareOn fun moment => moment.fields.drop 1)))

namespace Value

variable {wanted : Ordering}

theorem not_floatFree_float {number : Float} : ¬ (float number).FloatFree := by
  intro free
  cases free with
  | leaf _ noFloat => exact noFloat number rfl

theorem FloatFree.of_list {items : List Value} (free : (Value.list items).FloatFree) :
    ∀ item ∈ items, item.FloatFree := by
  cases free with
  | leaf isLeaf => cases isLeaf
  | list each => exact each

/-- If both comparisons succeed and neither leads against the given order, the whole way succeeds as well, in
the direction of the first one that has any. -/
def Passes (wanted : Ordering) (step next whole : Option Ordering) : Prop :=
  ∀ first second, step = some first → next = some second → Directed wanted first → Directed wanted second →
    whole = some (first.then second)

theorem passes_leaf {left middle right : Value} (isLeaf : left.isLeaf = true) (free : left.FloatFree)
    (freeMiddle : middle.FloatFree) (freeRight : right.FloatFree) :
    Passes wanted (left.order? middle) (middle.order? right) (left.order? right) := by
  intro first second compared next directed directedNext
  cases left with
  | list | set | map => cases isLeaf
  | null | object | function => cases middle <;> cases compared
  | float number => exact absurd free not_floatFree_float
  | int | string | bool | dateTime =>
      -- Only values of one kind compare with each other.
      cases middle <;> first
        | exact absurd freeMiddle not_floatFree_float
        | cases compared
      cases right <;> first
        | exact absurd freeRight not_floatFree_float
        | cases next
      exact congrArg some (compare_then _ directed directedNext)

theorem orderEach?_cons {left right : Value} {lefts rights : List Value} {outcome : Ordering} :
    orderEach? (left :: lefts) (right :: rights) = some outcome ↔
      left.order? right = some .eq ∧ orderEach? lefts rights = some outcome ∨
        left.order? right = some outcome ∧ outcome ≠ .eq := by
  rw [orderEach?]
  cases left.order? right with
  | none => simp
  | some difference => cases difference <;> cases outcome <;> simp

theorem passes_cons {left middle right : Value} {lefts middles rights : List Value}
    (heads : Passes wanted (left.order? middle) (middle.order? right) (left.order? right))
    (tails : Passes wanted (orderEach? lefts middles) (orderEach? middles rights) (orderEach? lefts rights)) :
    Passes wanted (orderEach? (left :: lefts) (middle :: middles))
      (orderEach? (middle :: middles) (right :: rights)) (orderEach? (left :: lefts) (right :: rights)) := by
  intro first second compared next directed directedNext
  rw [orderEach?_cons] at compared next ⊢
  rcases compared with ⟨equal, tail⟩ | ⟨differs, apart⟩
  · rcases next with ⟨equalNext, tailNext⟩ | ⟨differsNext, apartNext⟩
    · exact .inl ⟨heads _ _ equal equalNext (.inl rfl) (.inl rfl),
        tails _ _ tail tailNext directed directedNext⟩
    · obtain rfl := directedNext.resolve_left apartNext
      rw [then_directed directed]
      exact .inr ⟨heads _ _ equal differsNext (.inl rfl) directedNext, apartNext⟩
  · rw [then_of_strict apart]
    have whole : ∀ step, middle.order? right = some step → Directed wanted step →
        left.order? right = some first := fun step compares directedStep => by
      rw [heads _ _ differs compares directed directedStep, then_of_strict apart]
    rcases next with ⟨equalNext, _⟩ | ⟨differsNext, _⟩
    · exact .inr ⟨whole _ equalNext (.inl rfl), apart⟩
    · exact .inr ⟨whole _ differsNext directedNext, apart⟩

theorem passes_orderEach? {lefts middles rights : List Value}
    (each : ∀ left ∈ lefts, ∀ middle ∈ middles, ∀ right ∈ rights,
      Passes wanted (left.order? middle) (middle.order? right) (left.order? right)) :
    Passes wanted (orderEach? lefts middles) (orderEach? middles rights) (orderEach? lefts rights) := by
  induction lefts generalizing middles rights with
  | nil =>
      intro first second compared next directed directedNext
      cases middles with
      | nil =>
          cases compared
          exact next
      | cons middle middles =>
          cases compared
          cases rights with
          | cons right rights => rfl
          | nil =>
              -- A list with more elements comes after both: that is two directions.
              cases next
              obtain rfl := directed.resolve_left nofun
              cases directedNext.resolve_left nofun
  | cons left lefts ih =>
      cases middles with
      | nil =>
          intro first second compared next directed directedNext
          cases compared
          cases rights with
          | nil =>
              cases next
              rfl
          | cons right rights =>
              cases next
              obtain rfl := directed.resolve_left nofun
              cases directedNext.resolve_left nofun
      | cons middle middles =>
          cases rights with
          | nil =>
              intro first second compared next directed directedNext
              cases next
              obtain rfl := directedNext.resolve_left nofun
              rw [then_directed directed]
              rfl
          | cons right rights =>
              have heads := each left List.mem_cons_self middle List.mem_cons_self right List.mem_cons_self
              refine passes_cons heads (ih fun left member middle memberMiddle right memberRight => ?_)
              exact each left (List.mem_cons_of_mem _ member) middle (List.mem_cons_of_mem _ memberMiddle)
                right (List.mem_cons_of_mem _ memberRight)

/-- The order of values without floats is transitive, in either direction and through equal values. -/
theorem FloatFree.passes {left middle right : Value} (free : left.FloatFree)
    (freeMiddle : middle.FloatFree) (freeRight : right.FloatFree) :
    Passes wanted (left.order? middle) (middle.order? right) (left.order? right) := by
  induction left using byParts generalizing middle right with
  | leaf left isLeaf => exact passes_leaf isLeaf free freeMiddle freeRight
  | list lefts ih =>
      intro first second compared next
      cases middle with
      | list middles =>
          cases right with
          | list rights =>
              refine passes_orderEach? (fun left member middle memberMiddle right memberRight => ?_)
                first second compared next
              exact ih left member (free.of_list left member) (freeMiddle.of_list middle memberMiddle)
                (freeRight.of_list right memberRight)
          | _ => cases next
      | _ => cases compared
  | _ =>
      intro first second compared
      cases middle <;> cases compared

end Value

end PredicateRules
