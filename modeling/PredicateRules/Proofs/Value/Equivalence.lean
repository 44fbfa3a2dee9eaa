import PredicateRules.Proofs.Evaluation.Holding
import PredicateRules.Proofs.Value.Equality

namespace PredicateRules

namespace ValueSet

variable {items : ValueSet}

theorem foldl_insert_of_distinct {front behind : ValueSet} (distinct : Distinct (front ++ behind)) :
    behind.foldl insert front = front ++ behind := by
  induction behind generalizing front with
  | nil => exact (List.append_nil front).symm
  | cons value behind ih =>
      have absent : front.holds value = false := by
        rw [Bool.eq_false_iff, ne_eq, holds_iff]
        rintro ⟨item, member, equal⟩
        have differs := (List.pairwise_append.mp distinct).2.2 item member value List.mem_cons_self
        rw [differs] at equal
        cases equal
      rw [List.append_cons] at distinct ⊢
      rw [List.foldl_cons, insert_of_not_holds absent, ih distinct]

theorem ofList_of_distinct (distinct : items.Distinct) : ofList items = items := by
  have whole : Distinct ([] ++ items) := distinct
  exact foldl_insert_of_distinct whole

theorem Distinct.ofList_filter (distinct : items.Distinct) (keeps : Value → Bool) :
    ofList (items.filter keeps) = items.filter keeps :=
  ofList_of_distinct (List.Pairwise.filter keeps distinct)

/-- What insertion builds are the lists in which no element equals a later one. -/
theorem distinct_iff : items.Distinct ↔ ∃ values, items = ofList values := by
  constructor
  · exact fun distinct => ⟨items, (ofList_of_distinct distinct).symm⟩
  · rintro ⟨values, rfl⟩
    exact ofList_distinct values

end ValueSet

namespace Value

/-- There is no float in the value, and every set in it has been built by insertion. -/
inductive FloatFree : Value → Prop where
  | leaf {value : Value} (isLeaf : value.isLeaf = true) (noFloat : ∀ number, value ≠ .float number) :
      FloatFree value
  | list {items : List Value} (each : ∀ item ∈ items, FloatFree item) : FloatFree (list items)
  | set {items : ValueSet} (each : ∀ item ∈ items, FloatFree item)
      (built : ∃ values, items = ValueSet.ofList values) : FloatFree (set items)
  | map {entries : List (String × Value)} (each : ∀ entry ∈ entries, FloatFree entry.2) :
      FloatFree (map entries)

theorem FloatFree.set_ofList {values : List Value} (each : ∀ value ∈ values, value.FloatFree) :
    (Value.set (ValueSet.ofList values)).FloatFree :=
  .set (fun item member => each item (ValueSet.mem_ofList member)) ⟨values, rfl⟩

theorem FloatFree.of_set {items : ValueSet} (free : (Value.set items).FloatFree) :
    (∀ item ∈ items, item.FloatFree) ∧ items.Distinct := by
  cases free with
  | leaf isLeaf => cases isLeaf
  | set each built => exact ⟨each, ValueSet.distinct_iff.mpr built⟩

theorem FloatFree.tidy {value : Value} (free : value.FloatFree) {exact : Bool} : value.Tidy exact := by
  induction free generalizing exact with
  | leaf isLeaf noFloat => exact .leaf isLeaf fun _ number isFloat => absurd isFloat (noFloat number)
  | list _ ih => exact .list fun item member => ih item member
  | set _ built ih => exact .set (fun item member => ih item member) (ValueSet.distinct_iff.mpr built)
  | map _ ih => exact .map fun entry member => ih entry member

theorem FloatFree.refl {value : Value} (free : value.FloatFree) : (value == value) = true := by
  induction free with
  | @leaf value isLeaf noFloat =>
      cases value with
      | null => rfl
      | bool value => exact beq_self_eq_true value
      | int number => exact beq_self_eq_true number
      | float number => exact absurd rfl (noFloat number)
      | string text => exact beq_self_eq_true text
      | dateTime moment => exact beq_self_eq_true moment
      | object reference => exact beq_self_eq_true reference
      | function number => exact beq_self_eq_true number
      | list | set | map => cases isLeaf
  | list _ ih => exact list_equal_iff.mpr (List.forall₂_same.mpr ih)
  | set _ _ ih =>
      refine set_equal_iff.mpr ⟨rfl, fun item member => ?_⟩
      exact ValueSet.holds_iff.mpr ⟨item, member, ih item member⟩
  | map _ ih =>
      exact map_equal_iff.mpr (List.forall₂_same.mpr fun entry member => ⟨rfl, ih entry member⟩)

theorem FloatFree.symm {left right : Value} (free : left.FloatFree) (freeRight : right.FloatFree) :
    (left == right) = (right == left) :=
  (free.tidy : left.Tidy true).symm (freeRight.tidy : right.Tidy true)

/-- Whatever stands on the two sides, equality passes through a value without floats. -/
theorem FloatFree.trans {left middle right : Value} (free : middle.FloatFree)
    (first : (left == middle) = true) (second : (middle == right) = true) : (left == right) = true :=
  free.tidy.trans rfl left right first second

variable {left right : ValueSet}

theorem FloatFree.set_equal_of_holds (free : (Value.set left).FloatFree)
    (freeRight : (Value.set right).FloatFree)
    (same : ∀ value : Value, value.FloatFree → left.holds value = right.holds value) :
    (Value.set left == .set right) = true := by
  obtain ⟨each, distinct⟩ := free.of_set
  obtain ⟨eachRight, distinctRight⟩ := freeRight.of_set
  have own : ∀ {items : ValueSet} {item : Value}, item ∈ items → item.FloatFree →
      items.holds item = true :=
    fun member free => ValueSet.holds_iff.mpr ⟨_, member, free.refl⟩
  apply set_equal_of_held (fun item member => (each item member).tidy)
    (fun item member => (eachRight item member).tidy) distinct distinctRight
  · exact fun item member => (same item (each item member)).symm.trans (own member (each item member))
  · exact fun item member => (same item (eachRight item member)).trans (own member (eachRight item member))

theorem FloatFree.holds_congr {value other : Value} (free : value.FloatFree) (freeOther : other.FloatFree)
    (equal : (value == other) = true) (items : ValueSet) : items.holds value = items.holds other := by
  rw [Bool.eq_iff_iff, ValueSet.holds_iff, ValueSet.holds_iff]
  have turned : (other == value) = true := (freeOther.symm free).trans equal
  exact exists_congr fun item => and_congr_right fun _ =>
    ⟨fun same => free.trans same equal, fun same => freeOther.trans same turned⟩

theorem holds_ofList {values : List Value} (each : ∀ value ∈ values, value.FloatFree) (value : Value) :
    (ValueSet.ofList values).holds value = ValueSet.holds values value := by
  rw [Bool.eq_iff_iff]
  constructor
  · intro held
    obtain ⟨item, member, equal⟩ := ValueSet.holds_iff.mp held
    exact ValueSet.holds_iff.mpr ⟨item, ValueSet.mem_ofList member, equal⟩
  · intro held
    obtain ⟨item, member, equal⟩ := ValueSet.holds_iff.mp held
    exact (each item member).tidy.holds_ofList member equal

theorem ofList_equal_of_perm {values others : List Value} (each : ∀ value ∈ values, value.FloatFree)
    (order : values.Perm others) :
    (Value.set (ValueSet.ofList values) == .set (ValueSet.ofList others)) = true := by
  have eachOther : ∀ value ∈ others, value.FloatFree :=
    fun value member => each value (order.mem_iff.mpr member)
  refine (FloatFree.set_ofList each).set_equal_of_holds (.set_ofList eachOther) fun value _ => ?_
  rw [holds_ofList each, holds_ofList eachOther]
  exact order.any_eq

/-- Equality of values without floats is reflexive, symmetric and transitive, and putting values into a
set in two orders gives equal sets of equal length. -/
theorem equality_without_floats :
    (∀ value : Value, value.FloatFree → (value == value) = true) ∧
      (∀ left right : Value, left.FloatFree → right.FloatFree → (left == right) = true →
        (right == left) = true) ∧
      (∀ left middle right : Value, left.FloatFree → middle.FloatFree → right.FloatFree →
        (left == middle) = true → (middle == right) = true → (left == right) = true) ∧
      ∀ values others : List Value, (∀ value ∈ values, value.FloatFree) → values.Perm others →
        (Value.set (ValueSet.ofList values) == .set (ValueSet.ofList others)) = true ∧
          (ValueSet.ofList values).length = (ValueSet.ofList others).length := by
  refine ⟨fun value free => free.refl, ?symm, ?trans, ?order⟩
  case symm => exact fun left right free freeRight equal => (free.symm freeRight).symm.trans equal
  case trans => exact fun left middle right _ free _ first second => free.trans first second
  case order =>
    intro values others each order
    have equal := ofList_equal_of_perm each order
    exact ⟨equal, (set_equal_iff.mp equal).1⟩

/-- Sets in maps in a set, put together in different orders. -/
theorem equality_without_floats_nested :
    let inner : Value := .set [.int 1, .list [.null, .string "x"]]
    let turned : Value := .set [.list [.null, .string "x"], .int 1]
    let outer : Value := .map [("a", inner), ("b", .bool true)]
    let other : Value := .map [("a", turned), ("b", .bool true)]
    (outer.FloatFree ∧ other.FloatFree) ∧ ((outer == outer) = true ∧ (other == other) = true) ∧
      ((outer == other) = true ∧ (other == outer) = true) ∧
      (Value.set (ValueSet.ofList [outer, .null, other]) ==
          .set (ValueSet.ofList [other, outer, .null])) = true ∧
        (ValueSet.ofList [outer, .null, other]).length = (ValueSet.ofList [other, outer, .null]).length := by
  intro inner turned outer other
  have number : (Value.int 1).FloatFree := .leaf rfl nofun
  have null : Value.null.FloatFree := .leaf rfl nofun
  have texts : (Value.list [.null, .string "x"]).FloatFree :=
    .list (List.forall_mem_cons.mpr ⟨null, List.forall_mem_cons.mpr ⟨.leaf rfl nofun, nofun⟩⟩)
  have free : inner.FloatFree :=
    .set (List.forall_mem_cons.mpr ⟨number, List.forall_mem_cons.mpr ⟨texts, nofun⟩⟩)
      ⟨[.int 1, .list [.null, .string "x"]], rfl⟩
  have freeTurned : turned.FloatFree :=
    .set (List.forall_mem_cons.mpr ⟨texts, List.forall_mem_cons.mpr ⟨number, nofun⟩⟩)
      ⟨[.list [.null, .string "x"], .int 1], rfl⟩
  have bool : (Value.bool true).FloatFree := .leaf rfl nofun
  have freeOuter : outer.FloatFree :=
    .map (List.forall_mem_cons.mpr ⟨free, List.forall_mem_cons.mpr ⟨bool, nofun⟩⟩)
  have freeOther : other.FloatFree :=
    .map (List.forall_mem_cons.mpr ⟨freeTurned, List.forall_mem_cons.mpr ⟨bool, nofun⟩⟩)
  obtain ⟨refl, symm, trans, order⟩ := equality_without_floats
  have equal : (outer == other) = true := by decide
  have back := symm outer other freeOuter freeOther equal
  have each : ∀ value ∈ [outer, .null, other], value.FloatFree :=
    List.forall_mem_cons.mpr ⟨freeOuter, List.forall_mem_cons.mpr ⟨null, List.forall_mem_cons.mpr
      ⟨freeOther, nofun⟩⟩⟩
  have moved : ([outer, .null] ++ [other]).Perm ([other] ++ [outer, .null]) := List.perm_append_comm
  exact ⟨⟨freeOuter, freeOther⟩,
    ⟨refl outer freeOuter, trans other outer other freeOther freeOuter freeOther back equal⟩,
    ⟨equal, back⟩, order _ _ each moved⟩

end Value

end PredicateRules
