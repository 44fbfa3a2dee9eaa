import PredicateRules.Proofs.Evaluation.Timeless
import PredicateRules.Proofs.Folding.Comparison

namespace PredicateRules

/-- From the left, the first result that is the sought one or a failure. -/
def Evaluated.seek (sought : Bool) : List (Evaluated Bool) → Evaluated Bool
  | [] => .ok !sought
  | result :: results => do
    if (← result) = sought then return sought else seek sought results

namespace Evaluated

variable {sought held other : Bool} {results others : List (Evaluated Bool)}

theorem seek_found : seek sought (.ok sought :: results) = .ok sought := if_pos rfl

theorem seek_passed (passed : held ≠ sought) : seek sought (.ok held :: results) = seek sought results :=
  if_neg passed

theorem seek_singleton (result : Evaluated Bool) : seek sought [result] = result := by
  cases result with
  | error cause => rfl
  | ok held => cases held <;> cases sought <;> rfl

theorem seek_append (first : seek sought results = .ok held) (second : seek sought others = .ok other) :
    seek sought (results ++ others) = .ok (if held = sought then sought else other) := by
  induction results with
  | nil =>
      cases first
      simpa using second
  | cons result results ih =>
      cases result with
      | error cause => cases first
      | ok outcome =>
          by_cases found : outcome = sought
          · subst found
            rw [seek_found] at first
            cases first
            rw [List.cons_append, seek_found, if_pos rfl]
          · rw [seek_passed found] at first
            rw [List.cons_append, seek_passed found, ih first]

end Evaluated

/-- The result of a part that decides a compound of the kind. -/
def CompoundKind.sought : CompoundKind → Bool
  | .or => true
  | _ => false

namespace Predicate

variable {world other : World} {object : Value}

theorem evaluateAll_eq (matched : world.Matches other) (parts : List Predicate)
    (steady : ∀ part ∈ parts, part.Steady world other) :
    evaluateAll world object parts = Evaluated.seek false (parts.map (evaluate other object)) := by
  induction parts generalizing world with
  | nil => rfl
  | cons part parts ih =>
      obtain ⟨own, others⟩ := List.forall_mem_cons.mp steady
      have rest := ih (matched.within .otherConditions rfl)
        fun further member => (others further member).within _
      rw [evaluateAll, List.map_cons, Evaluated.seek, ← rest,
        evaluate_of_matches (matched.within .condition rfl) (own.within .condition)]
      -- one asks whether the part holds, the other whether it does not
      cases part.evaluate other object with
      | error cause => rfl
      | ok holds => cases holds <;> rfl

theorem evaluateAny_eq (matched : world.Matches other) (parts : List Predicate)
    (steady : ∀ part ∈ parts, part.Steady world other) :
    evaluateAny world object parts = Evaluated.seek true (parts.map (evaluate other object)) := by
  induction parts generalizing world with
  | nil => rfl
  | cons part parts ih =>
      obtain ⟨own, others⟩ := List.forall_mem_cons.mp steady
      have rest := ih (matched.within .otherConditions rfl)
        fun further member => (others further member).within _
      rw [evaluateAny, List.map_cons, Evaluated.seek, ← rest,
        evaluate_of_matches (matched.within .condition rfl) (own.within .condition)]

theorem evaluate_compound {kind : CompoundKind} (joins : kind ≠ .not) (matched : world.Matches other)
    {parts : List Predicate} (steady : (compound kind parts).Steady world other) :
    (compound kind parts).evaluate world object =
      Evaluated.seek kind.sought (parts.map (evaluate other object)) := by
  cases kind with
  | not => exact absurd rfl joins
  | and => exact evaluateAll_eq matched parts fun _ => steady.of_part
  | or => exact evaluateAny_eq matched parts fun _ => steady.of_part

/-- A predicate says what the parts say that it brings into a compound. -/
theorem evaluate_partsIn {kind : CompoundKind} (joins : kind ≠ .not) (matched : world.Matches other)
    {predicate : Predicate} (steady : predicate.Steady world other) :
    predicate.evaluate world object =
      Evaluated.seek kind.sought ((predicate.partsIn kind).map (evaluate other object)) := by
  unfold partsIn
  cases found : predicate.partsOf? kind with
  | some parts =>
      obtain rfl := eq_compound_of_partsOf? found
      exact evaluate_compound joins matched steady
  | none => exact (evaluate_of_matches matched steady object).trans (Evaluated.seek_singleton _).symm

/-- What a joined predicate says, if both sides come to a result: the order of the sides does not matter,
nor that the sides are evaluated by themselves. -/
theorem evaluate_fold {kind : CompoundKind} (joins : kind ≠ .not) {here there : World}
    {left right : Predicate} {first second : Bool}
    (matchesHere : here.Matches world) (matchesThere : there.Matches world)
    (leftSteady : left.Steady here world) (rightSteady : right.Steady there world)
    (leftHolds : left.evaluate here object = .ok first)
    (rightHolds : right.evaluate there object = .ok second) :
    (fold kind left right).evaluate world object =
      .ok (if first = kind.sought then kind.sought else second) := by
  rw [evaluate_partsIn joins matchesHere leftSteady] at leftHolds
  rw [evaluate_partsIn joins matchesThere rightSteady] at rightHolds
  have matched := matchesHere.symm.trans matchesHere
  have steady : ∀ part ∈ left.partsIn kind ++ right.partsIn kind, part.Steady world world :=
    List.forall_mem_append.mpr ⟨fun _ inside => (leftSteady.of_mem_partsIn inside).settled,
      fun _ inside => (rightSteady.of_mem_partsIn inside).settled⟩
  rcases fold_eq kind left right with same | same
  · rw [same, evaluate_compound joins matched (.compound steady), List.map_append,
      Evaluated.seek_append leftHolds rightHolds]
  · rw [same, evaluate_compound joins matched
      (.compound fun part inside => steady part (List.mem_append.mpr (List.mem_append.mp inside).symm)),
      List.map_append, Evaluated.seek_append rightHolds leftHolds]
    cases first <;> cases second <;> cases kind.sought <;> rfl

end Predicate

namespace ComparisonOperator

variable {operator : ComparisonOperator} {options : ComparisonOptions} {right : Value}

theorem applyToAll_eq (elements : List Value) : operator.applyToAll options right elements =
    Evaluated.seek false (elements.map (operator.apply options · right)) := by
  induction elements with
  | nil => rfl
  | cons element elements ih =>
      rw [applyToAll, List.map_cons, Evaluated.seek, ← ih]
      cases operator.apply options element right with
      | error cause => rfl
      | ok holds => cases holds <;> rfl

theorem applyToAny_eq (elements : List Value) : operator.applyToAny options right elements =
    Evaluated.seek true (elements.map (operator.apply options · right)) := by
  induction elements with
  | nil => rfl
  | cons element elements ih => rw [applyToAny, List.map_cons, Evaluated.seek, ← ih]

end ComparisonOperator

theorem ComparisonOptions.foldValue_list (options : ComparisonOptions) (items : List Value) :
    options.foldValue (.list items) = .list (items.map options.foldValue) := by
  unfold foldValue
  cases options.foldsText with
  | true => simp [foldStrings, foldEach_eq]
  | false => simp

namespace Comparison

variable {world : World} {object : Value} {operator : ComparisonOperator} {options : ComparisonOptions}
  {left right : Expression}

theorem evaluate_eq_decide {comparison : Comparison} {first second : Value}
    (leftFound : comparison.left.evaluate world object [0] = .ok first)
    (rightFound : comparison.right.evaluate world object [1] = .ok second) :
    comparison.evaluate world object = comparison.decide first second := by
  unfold evaluate
  rw [leftFound, rightFound]
  rfl

def operand (operator : ComparisonOperator) (options : ComparisonOptions) (right : Value) : Value :=
  if operator = .matchesPattern then right else options.foldValue right

/-- The modifier asks of the elements what a compound of the kind asks of its parts. -/
def Asks (modifier : ComparisonModifier) (kind : CompoundKind) : Prop :=
  modifier = .any ∧ kind = .or ∨ modifier = .all ∧ kind = .and

theorem Asks.joins {modifier : ComparisonModifier} {kind : CompoundKind} (asks : Asks modifier kind) :
    kind ≠ .not := by
  rcases asks with ⟨_, rfl⟩ | ⟨_, rfl⟩ <;> decide

theorem decide_list {modifier : ComparisonModifier} {kind : CompoundKind} (asks : Asks modifier kind)
    (items : List Value) (value : Value) :
    (⟨left, right, modifier, operator, options⟩ : Comparison).decide (.list items) value =
      Evaluated.seek kind.sought ((items.map options.foldValue).map
        (operator.apply options · (operand operator options value))) := by
  simp only [decide, ComparisonOptions.foldValue_list]
  rcases asks with ⟨rfl, rfl⟩ | ⟨rfl, rfl⟩
  · exact ComparisonOperator.applyToAny_eq _
  · exact ComparisonOperator.applyToAll_eq _

theorem map_evaluate_elements (items : List Value) {value : Value}
    (found : right.evaluate world object [1] = .ok value) :
    (items.map fun item => Predicate.comparison ⟨.constant item, right, .direct, operator, options⟩).map
        (Predicate.evaluate world object) =
      (items.map options.foldValue).map (operator.apply options · (operand operator options value)) := by
  simp only [List.map_map]
  refine List.map_congr_left fun item _ => ?_
  have own : Expression.evaluate world object [0] (.constant item) = .ok item := rfl
  exact evaluate_eq_decide own found

theorem elements_steady {kind : CompoundKind} (timeless : right.NeverTimed) (items : List Value)
    (world other : World) :
    (Predicate.compound kind (items.map fun item =>
      .comparison ⟨.constant item, right, .direct, operator, options⟩)).Steady world other := by
  refine .compound fun part inside => Predicate.NeverTimed.steady ?_ world other
  obtain ⟨item, -, rfl⟩ := List.mem_map.mp inside
  intro expression member
  rcases List.mem_append.mp member with own | behind
  · obtain rfl := List.mem_singleton.mp own
    trivial
  · exact timeless expression behind

theorem evaluate_by_element {modifier : ComparisonModifier} {kind : CompoundKind}
    (asks : Asks modifier kind) {other : World} {items : List Value} {value : Value}
    (matched : world.Matches other) (timeless : right.NeverTimed)
    (listed : left.evaluate world object [0] = .ok (.list items))
    (found : right.evaluate world object [1] = .ok value) :
    (⟨left, right, modifier, operator, options⟩ : Comparison).evaluate world object =
      (Predicate.compound kind (items.map fun item =>
        .comparison ⟨.constant item, right, .direct, operator, options⟩)).evaluate other object := by
  have again : right.evaluate other object [1] = .ok value :=
    (timeless.evaluate_eq matched.agrees object [1]).symm.trans found
  rw [evaluate_eq_decide listed found, decide_list asks,
    Predicate.evaluate_compound asks.joins (matched.symm.trans matched)
      (elements_steady timeless items other other),
    map_evaluate_elements items again]

/-- ANY says what the disjunction of the comparisons by element says and ALL what their conjunction
says, also in a world that tells another time and draws other numbers. -/
theorem any_all_by_element (world other : World) (matched : world.Matches other) (object : Value)
    (operator : ComparisonOperator) (options : ComparisonOptions) (left right : Expression)
    (items : List Value) (value : Value) (listed : left.evaluate world object [0] = .ok (.list items))
    (found : right.evaluate world object [1] = .ok value) (timeless : right.NeverTimed) :
    let elements := items.map fun item =>
      Predicate.comparison ⟨.constant item, right, .direct, operator, options⟩
    (⟨left, right, .any, operator, options⟩ : Comparison).evaluate world object =
        (Predicate.disjunction elements).evaluate other object ∧
      (⟨left, right, .all, operator, options⟩ : Comparison).evaluate world object =
        (Predicate.conjunction elements).evaluate other object := by
  intro elements
  exact ⟨evaluate_by_element (.inl ⟨rfl, rfl⟩) matched timeless listed found,
    evaluate_by_element (.inr ⟨rfl, rfl⟩) matched timeless listed found⟩

/-- Of three elements the first does not begin so, the second is no text and the third is not reached. -/
theorem any_all_by_element_failing :
    let world : World := ⟨fun _ => .silent, fun _ _ _ => .ok .null⟩
    let other : World :=
      ⟨fun site => { Host.silent with random := fun _ => .ofNat site.length }, fun _ _ _ => .ok .null⟩
    let items : List Value := [.string "pan", .int 3, .string "Élan"]
    let right := Expression.constant (.string "él")
    let options : ComparisonOptions := ⟨true, true, false⟩
    let elements := items.map fun item =>
      Predicate.comparison ⟨.constant item, right, .direct, .beginsWith, options⟩
    let failure := EvalError.typeMismatch "BEGINSWITH" "strings" "int"
    world.Matches other ∧ right.NeverTimed ∧
      (⟨.constant (.list items), right, .any, .beginsWith, options⟩ : Comparison).evaluate world .null =
        (Predicate.disjunction elements).evaluate other .null ∧
      (Predicate.disjunction elements).evaluate other .null = .error failure ∧
      (⟨.constant (.list items), right, .all, .beginsWith, options⟩ : Comparison).evaluate world .null =
        (Predicate.conjunction elements).evaluate other .null ∧
      (Predicate.conjunction elements).evaluate other .null = .ok false := by
  intro world other items right options elements failure
  have matched : world.Matches other := ⟨fun _ _ => ⟨rfl, rfl, rfl⟩, fun _ => rfl⟩
  have timeless : right.NeverTimed := by
    intro part member
    obtain rfl := List.mem_singleton.mp member
    trivial
  obtain ⟨any, all⟩ := any_all_by_element world other matched .null .beginsWith options
    (.constant (.list items)) right items (.string "él") rfl rfl timeless
  exact ⟨matched, timeless, any, by decide +kernel, all, by decide +kernel⟩

end Comparison

end PredicateRules
