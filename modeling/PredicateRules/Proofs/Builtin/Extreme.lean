import PredicateRules.Proofs.Inference.Completion
import PredicateRules.Proofs.Value.Direction

namespace PredicateRules.Builtin

/-- An element of the collection that comes before all earlier ones in the order `wanted`, and before
each later one or compares with it as equal. -/
def IsExtreme (wanted : Ordering) (items : List Value) (extreme : Value) : Prop :=
  ∃ front behind, items = front ++ extreme :: behind ∧
    (∀ item ∈ front, extreme.order? item = some wanted) ∧
    ∀ item ∈ behind, extreme.order? item = some .eq ∨ extreme.order? item = some wanted

section

variable {wanted : Ordering} {seen rest : List Value} {best item extreme : Value}

theorem IsExtreme.mem (isExtreme : IsExtreme wanted seen best) : best ∈ seen := by
  obtain ⟨front, behind, rfl, -, -⟩ := isExtreme
  simp

theorem IsExtreme.compares (isExtreme : IsExtreme wanted seen best) (member : item ∈ seen) :
    item = best ∨ ∃ step, best.order? item = some step ∧ Directed wanted step := by
  obtain ⟨front, behind, rfl, before, after⟩ := isExtreme
  rcases List.mem_append.mp member with inFront | here
  · exact .inr ⟨wanted, before item inFront, .inr rfl⟩
  rcases List.mem_cons.mp here with same | inBehind
  · exact .inl same
  rcases after item inBehind with equal | comes
  · exact .inr ⟨.eq, equal, .inl rfl⟩
  · exact .inr ⟨wanted, comes, .inr rfl⟩

theorem IsExtreme.unbeaten (isExtreme : IsExtreme wanted seen best) (strict : wanted ≠ .eq)
    (member : item ∈ seen) : item.order? best ≠ some wanted := by
  intro beats
  have turned := Value.order?_swap item best
  rw [beats] at turned
  have opposite : wanted.swap ≠ wanted ∧ wanted.swap ≠ .eq := by
    cases wanted <;> simp at strict ⊢
  rcases isExtreme.compares member with rfl | ⟨step, compared, equal | directed⟩
  · rw [beats, Option.map_some, Option.some.injEq] at turned
    exact opposite.1 turned.symm
  · rw [compared, equal, Option.map_some, Option.some.injEq] at turned
    exact opposite.2 turned.symm
  · rw [compared, directed, Option.map_some, Option.some.injEq] at turned
    exact opposite.1 turned.symm

theorem isExtreme_singleton : IsExtreme wanted [best] best := ⟨[], [], rfl, nofun, nofun⟩

/-- One more element either beats the best so far, and then comes before all that it was compared with,
or it stands behind it. -/
theorem IsExtreme.step {outcome : Ordering} (isExtreme : IsExtreme wanted seen best) (strict : wanted ≠ .eq)
    (free : ∀ value ∈ seen, value.FloatFree) (freeItem : item.FloatFree)
    (compared : item.order? best = some outcome) :
    IsExtreme wanted (seen ++ [item]) (if outcome = wanted then item else best) := by
  by_cases beats : outcome = wanted
  · subst beats
    rw [if_pos rfl]
    refine ⟨seen, [], rfl, fun value member => ?_, nofun⟩
    rcases isExtreme.compares member with rfl | ⟨step, next, directed⟩
    · exact compared
    · have passes := freeItem.passes (free best isExtreme.mem) (free value member) _ _ compared next
        (.inr rfl) directed
      rwa [then_of_strict strict] at passes
  · rw [if_neg beats]
    obtain ⟨front, behind, rfl, before, after⟩ := isExtreme
    refine ⟨front, behind ++ [item], by simp, before, ?_⟩
    have turned := Value.order?_swap item best
    rw [compared, Option.map_some] at turned
    rw [List.forall_mem_append, List.forall_mem_singleton, turned]
    refine ⟨after, ?_⟩
    cases outcome <;> cases wanted <;> simp at beats strict ⊢

theorem isExtreme_of_extremeFrom (function : Builtin) (isExtreme : IsExtreme wanted seen best)
    (strict : wanted ≠ .eq) (free : ∀ value ∈ seen ++ rest, value.FloatFree)
    (gives : function.extremeFrom wanted best rest = .ok extreme) :
    IsExtreme wanted (seen ++ rest) extreme := by
  induction rest generalizing seen best with
  | nil =>
      cases gives
      rwa [List.append_nil]
  | cons item rest ih =>
      rw [extremeFrom] at gives
      rw [List.append_cons] at free ⊢
      cases compared : item.order? best with
      | none => rw [compared] at gives; cases gives
      | some outcome =>
          rw [compared] at gives
          have freeSeen : ∀ value ∈ seen ++ [item], value.FloatFree :=
            fun value member => free value (List.mem_append_left rest member)
          obtain ⟨freeBefore, freeItem⟩ := List.forall_mem_append.mp freeSeen
          have kept := isExtreme.step strict freeBefore (freeItem item List.mem_cons_self) compared
          exact ih kept free gives

theorem items_of_elements? (function : Builtin) {value : Value} {items : List Value}
    (elements : value.elements? = some items) : function.items value = .ok items := by
  rw [Builtin.items, elements]

theorem isExtreme_of_extreme (function : Builtin) {value : Value} {items : List Value}
    (elements : value.elements? = some items) (free : ∀ item ∈ items, item.FloatFree)
    (strict : wanted ≠ .eq) (gives : function.extreme wanted value = .ok extreme) :
    IsExtreme wanted items extreme := by
  rw [Builtin.extreme, function.items_of_elements? elements] at gives
  cases items with
  | nil => cases gives
  | cons item rest => exact isExtreme_of_extremeFrom function isExtreme_singleton strict free gives

/-- Where each element compares with all that stand before it, one of them is left. -/
theorem exists_extremeFrom (function : Builtin)
    (comparable : (best :: rest).Pairwise fun earlier later => (later.order? earlier).isSome) :
    ∃ extreme, function.extremeFrom wanted best rest = .ok extreme := by
  induction rest generalizing best with
  | nil => exact ⟨best, rfl⟩
  | cons item rest ih =>
      rw [List.pairwise_cons, List.forall_mem_cons] at comparable
      obtain ⟨⟨compares, others⟩, tail⟩ := comparable
      obtain ⟨outcome, compared⟩ := Option.isSome_iff_exists.mp compares
      rw [extremeFrom, compared]
      by_cases beats : outcome = wanted
      · simp only [if_pos beats]
        exact ih tail
      · simp only [if_neg beats]
        exact ih (List.pairwise_cons.mpr ⟨others, (List.pairwise_cons.mp tail).2⟩)

theorem exists_extreme (function : Builtin) {value : Value} {items : List Value}
    (elements : value.elements? = some items) (nonempty : items ≠ [])
    (comparable : items.Pairwise fun earlier later => (later.order? earlier).isSome) :
    ∃ extreme, function.extreme wanted value = .ok extreme := by
  rw [Builtin.extreme, function.items_of_elements? elements]
  cases items with
  | nil => exact absurd rfl nonempty
  | cons item rest => exact exists_extremeFrom function comparable

end

/-- What is given for the least element of a list or a set without floats is the first of those elements
that no element compares less than, and it compares with all others; for the greatest one likewise. Both
are given wherever the elements compare with each other. -/
theorem extremes_unbeaten (world : World) (site : Site) {value : Value} {items : List Value}
    (elements : value.elements? = some items) (free : ∀ item ∈ items, item.FloatFree) :
    (∀ least, min.call world site [value] = .ok least →
      IsExtreme .lt items least ∧ ∀ item ∈ items, item.order? least ≠ some .lt) ∧
    (∀ greatest, max.call world site [value] = .ok greatest →
      IsExtreme .gt items greatest ∧ ∀ item ∈ items, item.order? greatest ≠ some .gt) ∧
    (items ≠ [] → (items.Pairwise fun earlier later => (later.order? earlier).isSome) →
      ∃ least greatest, min.call world site [value] = .ok least ∧
        max.call world site [value] = .ok greatest) := by
  refine ⟨?least, ?greatest, ?given⟩
  case least =>
    intro least gives
    have isExtreme := isExtreme_of_extreme min elements free (by decide) gives
    exact ⟨isExtreme, fun item member => isExtreme.unbeaten (by decide) member⟩
  case greatest =>
    intro greatest gives
    have isExtreme := isExtreme_of_extreme max elements free (by decide) gives
    exact ⟨isExtreme, fun item member => isExtreme.unbeaten (by decide) member⟩
  case given =>
    intro nonempty comparable
    obtain ⟨least, gives⟩ := exists_extreme min elements nonempty comparable
    obtain ⟨greatest, givesGreatest⟩ := exists_extreme max elements nonempty comparable
    exact ⟨least, greatest, gives, givesGreatest⟩

/-- Lists of which two do not compare with each other; the least of them is there twice. -/
theorem extremes_unbeaten_partly :
    let world : World := ⟨fun _ => .silent, fun _ _ _ => .ok .null⟩
    let items : List Value :=
      [.list [.int 2, .string "x"], .list [.int 1], .list [.int 2, .int 5], .list [.int 1]]
    let least : Value := .list [.int 1]
    (Value.list items).elements? = some items ∧ (∀ item ∈ items, item.FloatFree) ∧
      (Value.list [.int 2, .int 5]).order? (.list [.int 2, .string "x"]) = none ∧
      min.call world [] [.list items] = .ok least ∧
      IsExtreme .lt items least ∧ ∀ item ∈ items, item.order? least ≠ some .lt := by
  intro world items least
  have int : ∀ number, (Value.int number).FloatFree := fun _ => .leaf rfl nofun
  have string : ∀ text, (Value.string text).FloatFree := fun _ => .leaf rfl nofun
  have free : ∀ item ∈ items, item.FloatFree := by
    simp only [items, List.forall_mem_cons]
    refine ⟨.list ?_, .list ?_, .list ?_, .list ?_, nofun⟩ <;> simp [int, string]
  have gives : min.call world [] [.list items] = .ok least := by rfl
  exact ⟨rfl, free, by rfl, gives, (extremes_unbeaten world [] rfl free).1 least gives⟩

end PredicateRules.Builtin
