import PredicateRules.Proofs.Inference.Completion
import PredicateRules.Proofs.Value.Equivalence

namespace PredicateRules

def ValueSet.Same (left right : ValueSet) : Prop := (Value.set left == .set right) = true

namespace SetOperation

/-- Whether a value is in the result, by whether it is on the left and whether it is on the right. -/
def selects : SetOperation → Bool → Bool → Bool
  | union, left, right => left || right
  | intersect, left, right => left && right
  | minus, left, right => left && !right

variable {left right : ValueSet}

theorem union_eq_ofList (distinct : left.Distinct) :
    left.union right = ValueSet.ofList (left ++ right) := by
  rw [ValueSet.ofList, List.foldl_append, ← ValueSet.ofList, ValueSet.ofList_of_distinct distinct]
  rfl

theorem free_apply (operation : SetOperation) (free : (Value.set left).FloatFree)
    (freeRight : (Value.set right).FloatFree) : (Value.set (operation.apply left right)).FloatFree := by
  obtain ⟨each, distinct⟩ := free.of_set
  have filtered : ∀ {test : Value → Bool}, ∀ item ∈ left.filter test, item.FloatFree :=
    fun item member => each item (List.mem_filter.mp member).1
  cases operation with
  | union =>
      rw [apply, union_eq_ofList distinct]
      exact .set_ofList (List.forall_mem_append.mpr ⟨each, freeRight.of_set.1⟩)
  | intersect => exact .set_ofList filtered
  | minus => exact .set_ofList filtered

/-- What decides about an element decides the same about a value that equals it. -/
theorem holds_filter (free : (Value.set left).FloatFree) {value : Value} (freeValue : value.FloatFree)
    (keeps : Bool → Bool) :
    (ValueSet.ofList (left.filter fun item => keeps (right.holds item))).holds value =
      (left.holds value && keeps (right.holds value)) := by
  obtain ⟨each, distinct⟩ := free.of_set
  have alike : ∀ item ∈ left, (item == value) = true → right.holds item = right.holds value :=
    fun item member equal => (each item member).holds_congr freeValue equal right
  rw [distinct.ofList_filter fun item => keeps (right.holds item), Bool.eq_iff_iff, Bool.and_eq_true,
    ValueSet.holds_iff, ValueSet.holds_iff]
  constructor
  · rintro ⟨item, member, equal⟩
    obtain ⟨among, kept⟩ := List.mem_filter.mp member
    exact ⟨⟨item, among, equal⟩, alike item among equal ▸ kept⟩
  · rintro ⟨⟨item, among, equal⟩, kept⟩
    exact ⟨item, List.mem_filter.mpr ⟨among, (alike item among equal).symm ▸ kept⟩, equal⟩

theorem holds_apply (operation : SetOperation) (free : (Value.set left).FloatFree)
    (freeRight : (Value.set right).FloatFree) {value : Value} (freeValue : value.FloatFree) :
    (operation.apply left right).holds value =
      operation.selects (left.holds value) (right.holds value) := by
  obtain ⟨each, distinct⟩ := free.of_set
  cases operation with
  | union =>
      rw [apply, union_eq_ofList distinct,
        Value.holds_ofList (List.forall_mem_append.mpr ⟨each, freeRight.of_set.1⟩)]
      exact List.any_append
  | intersect => exact holds_filter free freeValue id
  | minus => exact holds_filter free freeValue not

end SetOperation

/-- A set of values without floats. -/
structure FloatFreeSet where
  elements : ValueSet
  free : (Value.set elements).FloatFree

namespace FloatFreeSet

def apply (operation : SetOperation) (left right : FloatFreeSet) : FloatFreeSet :=
  ⟨operation.apply left.elements right.elements, operation.free_apply left.free right.free⟩

def Same (left right : FloatFreeSet) : Prop := left.elements.Same right.elements

theorem holds_apply {operation : SetOperation} (a b : FloatFreeSet) {value : Value} (free : value.FloatFree) :
    (apply operation a b).elements.holds value =
      operation.selects (a.elements.holds value) (b.elements.holds value) :=
  operation.holds_apply a.free b.free free

theorem same_of_holds {a b : FloatFreeSet}
    (same : ∀ value : Value, value.FloatFree → a.elements.holds value = b.elements.holds value) :
    a.Same b :=
  a.free.set_equal_of_holds b.free same

variable (operation other : SetOperation) (a b c : FloatFreeSet)

theorem apply_comm (law : ∀ x y, operation.selects x y = operation.selects y x) :
    (apply operation a b).Same (apply operation b a) :=
  same_of_holds fun _ free => by rw [holds_apply a b free, holds_apply b a free, law]

theorem apply_assoc
    (law : ∀ x y z, operation.selects (operation.selects x y) z =
      operation.selects x (operation.selects y z)) :
    (apply operation (apply operation a b) c).Same (apply operation a (apply operation b c)) :=
  same_of_holds fun _ free => by
    rw [holds_apply _ c free, holds_apply a b free, holds_apply a _ free, holds_apply b c free, law]

theorem apply_self (law : ∀ x, operation.selects x x = x) : (apply operation a a).Same a :=
  same_of_holds fun _ free => by rw [holds_apply a a free, law]

theorem apply_distrib
    (law : ∀ x y z, operation.selects x (other.selects y z) =
      other.selects (operation.selects x y) (operation.selects x z)) :
    (apply operation a (apply other b c)).Same (apply other (apply operation a b) (apply operation a c)) :=
  same_of_holds fun _ free => by
    rw [holds_apply a _ free, holds_apply b c free, holds_apply _ _ free, holds_apply a b free,
      holds_apply a c free, law]

theorem same_parts : a.Same (apply .union (apply .intersect a b) (apply .minus a b)) :=
  same_of_holds fun value free => by
    rw [holds_apply _ _ free, holds_apply a b free, holds_apply a b free]
    show a.elements.holds value =
      (a.elements.holds value && b.elements.holds value || a.elements.holds value && !b.elements.holds value)
    rw [← Bool.and_or_distrib_left, Bool.or_not_self, Bool.and_true]

end FloatFreeSet

namespace Expression

variable {world : World} {object : Value} {site : Site} {operation : SetOperation}
  {left right : Expression}

theorem evaluate_set {elements : ValueSet} {operand : Value}
    (found : left.evaluate world object (2 :: site) = .ok (.set elements))
    (foundRight : right.evaluate world object (3 :: site) = .ok operand) :
    (set operation left right).evaluate world object site = operation.evaluate elements operand := by
  rw [evaluate, found]
  show (right.evaluate world object (3 :: site) >>= fun operand => operation.evaluate elements operand) = _
  rw [foundRight]
  rfl

/-- A list on the right is made a set first, whatever stands on the left. -/
theorem evaluate_set_list {gathered : Expression} {items : List Value}
    (found : right.evaluate world object (3 :: site) = .ok (.list items))
    (foundSet : gathered.evaluate world object (3 :: site) = .ok (.set (ValueSet.ofList items))) :
    (set operation left right).evaluate world object site =
      (set operation left gathered).evaluate world object site := by
  cases first : left.evaluate world object (2 :: site) with
  | error cause => rw [evaluate, evaluate, first]; rfl
  | ok value =>
      cases value with
      | set elements => rw [evaluate_set first found, evaluate_set first foundSet]; rfl
      | _ => rw [evaluate, evaluate, first]; rfl

end Expression

/-- Union, intersection and difference are those of sets: membership in the result is the disjunction,
the conjunction or the exclusion of memberships, the laws of a distributive lattice hold up to equality,
a set is made up of what it shares with another and what it does not. These are the values of set expressions,
and a list on the right of one stands for the set of its elements. -/
theorem operations_are_set_algebra (a b c : ValueSet) (freeA : (Value.set a).FloatFree)
    (freeB : (Value.set b).FloatFree) (freeC : (Value.set c).FloatFree) :
    (∀ value : Value, value.FloatFree →
      ((a.union b).holds value = true ↔ a.holds value = true ∨ b.holds value = true) ∧
      ((a.intersection b).holds value = true ↔ a.holds value = true ∧ b.holds value = true) ∧
      ((a.difference b).holds value = true ↔ a.holds value = true ∧ ¬ b.holds value = true)) ∧
    ((a.union b).Same (b.union a) ∧ (a.intersection b).Same (b.intersection a)) ∧
    (((a.union b).union c).Same (a.union (b.union c)) ∧
      ((a.intersection b).intersection c).Same (a.intersection (b.intersection c))) ∧
    ((a.union a).Same a ∧ (a.intersection a).Same a) ∧
    ((a.intersection (b.union c)).Same ((a.intersection b).union (a.intersection c)) ∧
      (a.union (b.intersection c)).Same ((a.union b).intersection (a.union c))) ∧
    a.Same ((a.intersection b).union (a.difference b)) ∧
    (∀ (world : World) (object : Value) (site : Site) (left right : Expression),
      left.evaluate world object (2 :: site) = .ok (.set a) →
      right.evaluate world object (3 :: site) = .ok (.set b) →
      (Expression.set .union left right).evaluate world object site = .ok (.set (a.union b)) ∧
        (Expression.set .intersect left right).evaluate world object site = .ok (.set (a.intersection b)) ∧
        (Expression.set .minus left right).evaluate world object site = .ok (.set (a.difference b))) ∧
    ∀ (world : World) (object : Value) (site : Site) (operation : SetOperation)
      (left listed gathered : Expression) (items : List Value),
      listed.evaluate world object (3 :: site) = .ok (.list items) →
      gathered.evaluate world object (3 :: site) = .ok (.set (ValueSet.ofList items)) →
      (Expression.set operation left listed).evaluate world object site =
          (Expression.set operation left gathered).evaluate world object site ∧
        (left.evaluate world object (2 :: site) = .ok (.set a) →
          (Expression.set operation left listed).evaluate world object site =
            .ok (.set (operation.apply a (ValueSet.ofList items)))) := by
  let a' : FloatFreeSet := ⟨a, freeA⟩
  let b' : FloatFreeSet := ⟨b, freeB⟩
  let c' : FloatFreeSet := ⟨c, freeC⟩
  refine ⟨fun value free => ⟨?union, ?intersection, ?difference⟩, ?commutative, ?associative,
    ?idempotent, ?distributive, FloatFreeSet.same_parts a' b', ?values, ?expressions⟩
  case union =>
    have held : (a.union b).holds value = (a.holds value || b.holds value) :=
      SetOperation.union.holds_apply freeA freeB free
    rw [held, Bool.or_eq_true]
  case intersection =>
    have held : (a.intersection b).holds value = (a.holds value && b.holds value) :=
      SetOperation.intersect.holds_apply freeA freeB free
    rw [held, Bool.and_eq_true]
  case difference =>
    have held : (a.difference b).holds value = (a.holds value && !b.holds value) :=
      SetOperation.minus.holds_apply freeA freeB free
    rw [held, Bool.and_eq_true, Bool.not_eq_true', Bool.not_eq_true]
  case commutative =>
    exact ⟨FloatFreeSet.apply_comm .union a' b' Bool.or_comm,
      FloatFreeSet.apply_comm .intersect a' b' Bool.and_comm⟩
  case associative =>
    exact ⟨FloatFreeSet.apply_assoc .union a' b' c' Bool.or_assoc,
      FloatFreeSet.apply_assoc .intersect a' b' c' Bool.and_assoc⟩
  case idempotent =>
    exact ⟨FloatFreeSet.apply_self .union a' Bool.or_self,
      FloatFreeSet.apply_self .intersect a' Bool.and_self⟩
  case distributive =>
    exact ⟨FloatFreeSet.apply_distrib .intersect .union a' b' c' Bool.and_or_distrib_left,
      FloatFreeSet.apply_distrib .union .intersect a' b' c' Bool.or_and_distrib_left⟩
  case values =>
    intro world object site left right first second
    exact ⟨Expression.evaluate_set first second, Expression.evaluate_set first second,
      Expression.evaluate_set first second⟩
  case expressions =>
    intro world object site operation left listed gathered items found foundSet
    exact ⟨Expression.evaluate_set_list found foundSet, fun first => Expression.evaluate_set first found⟩

/-- Sets with a set in them, which is equal on the two sides although its elements stand in two orders. -/
theorem operations_are_set_algebra_nested :
    let turned : Value := .set [.int 3, .int 2]
    let a : ValueSet := [.int 1, .set [.int 2, .int 3]]
    let b : ValueSet := [turned, .string "x"]
    let c : ValueSet := [.null]
    let world : World := ⟨fun _ => .silent, fun _ _ _ => .ok .null⟩
    (((Value.set a).FloatFree ∧ (Value.set b).FloatFree ∧ (Value.set c).FloatFree) ∧
        turned.FloatFree) ∧
      ((a.intersection b).holds turned = true ∧ ¬ (a.difference b).holds turned = true) ∧
      (a.union (b.intersection c)).Same ((a.union b).intersection (a.union c)) ∧
      ((Expression.set .union (.constant (.set a)) (.constant (.set b))).evaluate world .null [] =
          .ok (.set (a.union b)) ∧
        (Expression.set .intersect (.constant (.set a)) (.constant (.set b))).evaluate world .null [] =
          .ok (.set (a.intersection b)) ∧
        (Expression.set .minus (.constant (.set a)) (.constant (.set b))).evaluate world .null [] =
          .ok (.set (a.difference b))) ∧
      (Expression.set .minus (.constant (.set a)) (.constant (.list [turned, .int 4, turned]))).evaluate
        world .null [] = .ok (.set (a.difference [turned, .int 4])) := by
  intro turned a b c world
  have leaf : ∀ number : Int64, (Value.int number).FloatFree := fun _ => .leaf rfl nofun
  have inner : (Value.set [.int 2, .int 3]).FloatFree :=
    .set (List.forall_mem_cons.mpr ⟨leaf 2, List.forall_mem_cons.mpr ⟨leaf 3, nofun⟩⟩)
      ⟨[.int 2, .int 3], rfl⟩
  have free : turned.FloatFree :=
    .set (List.forall_mem_cons.mpr ⟨leaf 3, List.forall_mem_cons.mpr ⟨leaf 2, nofun⟩⟩)
      ⟨[.int 3, .int 2], rfl⟩
  have text : (Value.string "x").FloatFree := .leaf rfl nofun
  have freeA : (Value.set a).FloatFree :=
    .set (List.forall_mem_cons.mpr ⟨leaf 1, List.forall_mem_cons.mpr ⟨inner, nofun⟩⟩) ⟨a, rfl⟩
  have freeB : (Value.set b).FloatFree :=
    .set (List.forall_mem_cons.mpr ⟨free, List.forall_mem_cons.mpr ⟨text, nofun⟩⟩) ⟨b, rfl⟩
  have freeC : (Value.set c).FloatFree :=
    .set (List.forall_mem_cons.mpr ⟨.leaf rfl nofun, nofun⟩) ⟨c, rfl⟩
  obtain ⟨members, _, _, _, ⟨_, distributes⟩, _, values, expressions⟩ :=
    operations_are_set_algebra a b c freeA freeB freeC
  obtain ⟨_, both, first⟩ := members turned free
  have held : a.holds turned = true ∧ b.holds turned = true := by decide
  refine ⟨⟨⟨freeA, freeB, freeC⟩, free⟩, ⟨both.mpr held, fun alone => (first.mp alone).2 held.2⟩,
    distributes, values world .null [] (.constant (.set a)) (.constant (.set b)) rfl rfl, ?_⟩
  exact (expressions world .null [] .minus (.constant (.set a)) (.constant (.list [turned, .int 4, turned]))
    (.constant (.set [turned, .int 4])) [turned, .int 4, turned] rfl rfl).2 rfl

end PredicateRules
