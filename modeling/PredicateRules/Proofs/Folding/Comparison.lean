import PredicateRules.Proofs.Evaluation.Holding
import PredicateRules.Proofs.Folding.Text
import PredicateRules.Proofs.Value.Equality

namespace PredicateRules

namespace ComparisonOptions

variable {options : ComparisonOptions} {exact other : Bool} {left right : Value}

theorem foldEach_eq (items : List Value) : foldEach options items = items.map options.foldStrings := by
  induction items with
  | nil => rfl
  | cons item items ih => rw [foldEach, ih, List.map_cons]

theorem foldStrings_tidy (tidy : left.Tidy exact) : (options.foldStrings left).Tidy exact := by
  induction tidy with
  | @leaf exact value isLeaf apart =>
      cases value with
      | string text => exact .leaf rfl nofun
      | list | set | map => cases isLeaf
      | _ => exact .leaf isLeaf apart
  | list _ ih =>
      rw [foldStrings, foldEach_eq]
      exact .list (List.forall_mem_map.mpr ih)
  | set _ _ ih =>
      rw [foldStrings, foldEach_eq]
      exact .set (fun item member => List.forall_mem_map.mpr ih item (ValueSet.mem_ofList member))
        (ValueSet.ofList_distinct _)
  | map each _ => exact .map each

theorem foldStrings_equal_leaf (isLeaf : left.isLeaf = true) (equal : (left == right) = true) :
    (options.foldStrings left == options.foldStrings right) = true := by
  cases left with
  | string text =>
      cases right with
      | string other =>
          obtain rfl : text = other := eq_of_beq equal
          show (options.foldText text == options.foldText text) = true
          exact beq_self_eq_true _
      | _ => cases equal
  | list | set | map => cases isLeaf
  | _ =>
      cases right with
      | string => cases equal
      | list => cases equal
      | set => cases equal
      | _ => exact equal

theorem held_folded {lefts rights : List Value} (eachRight : ∀ right ∈ rights, right.Tidy true)
    (folds : ∀ left ∈ lefts, ∀ right ∈ rights, (right == left) = true →
      (options.foldStrings right == options.foldStrings left) = true)
    (held : ∀ left ∈ lefts, ValueSet.holds rights left = true) :
    ∀ item ∈ ValueSet.ofList (lefts.map options.foldStrings),
      (ValueSet.ofList (rights.map options.foldStrings)).holds item = true := by
  intro item member
  obtain ⟨left, memberLeft, rfl⟩ := List.mem_map.mp (ValueSet.mem_ofList member)
  obtain ⟨right, among, equal⟩ := ValueSet.holds_iff.mp (held left memberLeft)
  have tidy : (options.foldStrings right).Tidy true := foldStrings_tidy (eachRight right among)
  exact tidy.holds_ofList (List.mem_map_of_mem among) (folds left memberLeft right among equal)

/-- If the elements of equal sets are folded to equal ones, so are the sets: neither side has more than
one element for one of the other. -/
theorem foldSet_equal {lefts rights : List Value} (each : ∀ left ∈ lefts, left.Tidy true)
    (eachRight : ∀ right ∈ rights, right.Tidy true) (distinct : ValueSet.Distinct lefts)
    (folds : ∀ left ∈ lefts, ∀ right ∈ rights, (left == right) = true →
      (options.foldStrings left == options.foldStrings right) = true)
    (equal : (Value.set lefts == .set rights) = true) :
    (options.foldStrings (.set lefts) == options.foldStrings (.set rights)) = true := by
  obtain ⟨length, held⟩ := Value.set_equal_iff.mp equal
  have symm : ∀ left ∈ lefts, ∀ right ∈ rights, (left == right) = (right == left) :=
    fun left member right among => (each left member).symm (eachRight right among)
  have foldsBack : ∀ left ∈ lefts, ∀ right ∈ rights, (right == left) = true →
      (options.foldStrings right == options.foldStrings left) = true := by
    intro left member right among own
    rw [← symm left member right among] at own
    rw [(foldStrings_tidy (eachRight right among)).symm (foldStrings_tidy (each left member))]
    exact folds left member right among own
  have heldBack := Value.held_back symm eachRight distinct held length
  have tidy : ∀ {items : List Value}, (∀ item ∈ items, item.Tidy true) →
      ∀ item ∈ ValueSet.ofList (items.map options.foldStrings), item.Tidy true := by
    intro items each item member
    obtain ⟨item, among, rfl⟩ := List.mem_map.mp (ValueSet.mem_ofList member)
    exact foldStrings_tidy (each item among)
  rw [foldStrings, foldStrings, foldEach_eq, foldEach_eq]
  apply Value.set_equal_of_held (tidy each) (tidy eachRight) (ValueSet.ofList_distinct _)
    (ValueSet.ofList_distinct _)
  · exact held_folded eachRight foldsBack held
  · exact held_folded each (fun right among left member => folds left member right among) heldBack

theorem foldStrings_equal (tidy : left.Tidy exact) :
    ∀ {other : Bool} {right : Value}, right.Tidy other → (left == right) = true →
      (options.foldStrings left == options.foldStrings right) = true := by
  induction tidy with
  | leaf isLeaf _ => exact fun _ => foldStrings_equal_leaf isLeaf
  | list _ ih =>
      intro other right tidyRight equal
      cases right with
      | list rights =>
          rw [Value.list_equal_iff] at equal
          rw [foldStrings, foldStrings, foldEach_eq, foldEach_eq, Value.list_equal_iff,
            List.forall₂_map_left_iff, List.forall₂_map_right_iff]
          exact Value.forall₂_imp (fun left member right among => ih left member (tidyRight.of_list right among))
            equal
      | _ => cases equal
  | set each distinct ih =>
      intro other right tidyRight equal
      cases right with
      | set rights =>
          have eachRight := tidyRight.of_set.1
          exact foldSet_equal each eachRight distinct
            (fun left member right among => ih left member (eachRight right among)) equal
      | _ => cases equal
  | map =>
      intro other right tidyRight equal
      cases right with
      | map rights => exact equal
      | _ => cases equal

/-- The needle is found in the folded container where it is in the container itself: a part of a text is
kept, and a key of a map is its own folded form. -/
def KeepsMember (options : ComparisonOptions) : Value → Value → Prop
  | .string whole, .string part => ∃ before after, whole.toList = before ++ part.toList ++ after ∧
      options.KeepsPart before part.toList after
  | .map _, .string key => options.foldText key = key
  | _, _ => True

/-- Folding keeps what the operator looks for in the text or the map. -/
def Keeps (options : ComparisonOptions) : ComparisonOperator → Value → Value → Prop
  | .beginsWith, .string text, .string part => ∀ after, text.toList = part.toList ++ after →
      options.KeepsPart [] part.toList after
  | .endsWith, .string text, .string part => ∀ before, text.toList = before ++ part.toList →
      options.KeepsPart before part.toList []
  | .isIn, needle, container => options.KeepsMember container needle
  | .contains, container, needle => options.KeepsMember container needle
  | _, _, _ => True

theorem KeepsPart.truthy {before part after : List Char} (keeps : options.KeepsPart before part after)
    {text : String} (whole : text.toList = before ++ part ++ after)
    (truthy : (Value.string text).isTruthy = true) : (options.foldStrings (.string text)).isTruthy = true := by
  have some : text.toList ≠ [] := by simpa [Value.isTruthy] using truthy
  have left := folded_ne_nil some (whole ▸ keeps.remains)
  rw [← toList_foldText] at left
  simpa [foldStrings, Value.isTruthy] using left

variable {container needle : Value}

theorem holds_folded (options : ComparisonOptions) {items : List Value}
    (each : ∀ item ∈ items, item.Tidy exact) (tidy : needle.Tidy other)
    (held : ValueSet.holds items needle = true) :
    ∃ item ∈ items, (options.foldStrings item == options.foldStrings needle) = true := by
  obtain ⟨item, member, equal⟩ := ValueSet.holds_iff.mp held
  exact ⟨item, member, foldStrings_equal (each item member) tidy equal⟩

theorem contains_folded (tidy : container.Tidy exact) (tidyNeedle : needle.Tidy other)
    (keeps : options.KeepsMember container needle) (truthy : container.isTruthy = true)
    (found : container.contains? needle = some true) :
    (options.foldStrings container).isTruthy = true ∧
      (options.foldStrings container).contains? (options.foldStrings needle) = some true := by
  cases container with
  | string whole =>
      cases needle with
      | string part =>
          obtain ⟨before, after, split, keeps⟩ := keeps
          refine ⟨keeps.truthy split truthy, ?_⟩
          obtain ⟨front, behind, folded, _⟩ := keeps.folded
          have contained : options.folded part.toList <:+: options.folded whole.toList := by
            rw [split, folded]
            exact ⟨front, behind, rfl⟩
          simp only [foldStrings, Value.contains?, toList_foldText, isInfixText_iff.mpr contained]
      | _ => cases found
  | list items =>
      obtain ⟨item, member, equal⟩ := holds_folded options tidy.of_list tidyNeedle (Option.some.inj found)
      have held : ValueSet.holds (items.map options.foldStrings) (options.foldStrings needle) = true :=
        ValueSet.holds_iff.mpr ⟨_, List.mem_map_of_mem member, equal⟩
      rw [foldStrings, foldEach_eq]
      exact ⟨ValueSet.not_isEmpty_of_holds held, congrArg some held⟩
  | set items =>
      obtain ⟨each, _⟩ := tidy.of_set
      obtain ⟨item, member, equal⟩ := holds_folded options each tidyNeedle (Option.some.inj found)
      have held := (foldStrings_tidy (each item member)).holds_ofList (List.mem_map_of_mem member) equal
      rw [foldStrings, foldEach_eq]
      exact ⟨ValueSet.not_isEmpty_of_holds held, congrArg some held⟩
  | map entries =>
      cases needle with
      | string key =>
          have kept : options.foldStrings (.string key) = .string key := congrArg Value.string keeps
          rw [kept]
          exact ⟨truthy, found⟩
      | _ => cases found
  | _ => cases found

end ComparisonOptions

namespace ComparisonOperator

variable {operator : ComparisonOperator} {left right container needle : Value}

theorem affix_iff {test : List Char → List Char → Bool} : operator.affix test left right = .ok true ↔
    left.isTruthy = true ∧ ∃ text part, left = .string text ∧ right = .string part ∧
      test part.toList text.toList = true := by
  unfold affix
  cases truthy : left.isTruthy with
  | false => simp
  | true =>
      cases left with
      | string text => cases right <;> simp
      | _ => simp

theorem membership_iff : operator.membership container needle = .ok true ↔
    container.isTruthy = true ∧ container.contains? needle = some true := by
  unfold membership
  cases truthy : container.isTruthy with
  | false => simp
  | true => cases found : container.contains? needle <;> simp

theorem affix_folded {options : ComparisonOptions} {test : List Char → List Char → Bool} {text part : String}
    {before after : List Char} (split : text.toList = before ++ part.toList ++ after)
    (keeps : options.KeepsPart before part.toList after) (truthy : (Value.string text).isTruthy = true)
    (ends : ∀ front behind : List Char, (before = [] → front = []) → (after = [] → behind = []) →
      ∀ letters, test letters (front ++ letters ++ behind) = true) :
    operator.affix test (options.foldStrings (.string text)) (options.foldStrings (.string part)) = .ok true := by
  obtain ⟨front, behind, folded, atFront, atBehind⟩ := keeps.folded
  refine affix_iff.mpr ⟨keeps.truthy split truthy, _, _, rfl, rfl, ?_⟩
  rw [ComparisonOptions.toList_foldText, ComparisonOptions.toList_foldText, split, folded]
  exact ends front behind atFront atBehind _

def foldable : List ComparisonOperator := [equalTo, beginsWith, endsWith, isIn, contains]

theorem apply_folded {options : ComparisonOptions} (listed : operator ∈ foldable) {exact other : Bool}
    (tidy : left.Tidy exact) (tidyRight : right.Tidy other) (keeps : options.Keeps operator left right)
    (holds : operator.apply .none left right = .ok true) :
    operator.apply options (options.foldStrings left) (options.foldStrings right) = .ok true := by
  simp only [foldable, List.mem_cons, List.not_mem_nil, or_false] at listed
  rcases listed with rfl | rfl | rfl | rfl | rfl
  case inl =>
    have equal : (left == right) = true := Except.ok.inj holds
    exact congrArg Except.ok (ComparisonOptions.foldStrings_equal tidy tidyRight equal)
  case inr.inl =>
    obtain ⟨truthy, text, part, rfl, rfl, begins⟩ := affix_iff.mp holds
    obtain ⟨after, split⟩ := List.isPrefixOf_iff_prefix.mp begins
    have whole : text.toList = [] ++ part.toList ++ after := split.symm
    rw [apply]
    refine affix_folded whole (keeps after split.symm) truthy fun front behind none _ letters => ?_
    exact List.isPrefixOf_iff_prefix.mpr ⟨behind, by rw [none rfl, List.nil_append]⟩
  case inr.inr.inl =>
    obtain ⟨truthy, text, part, rfl, rfl, ends⟩ := affix_iff.mp holds
    obtain ⟨before, split⟩ := List.isSuffixOf_iff_suffix.mp ends
    have whole : text.toList = before ++ part.toList ++ [] := by rw [List.append_nil, split]
    rw [apply]
    refine affix_folded whole (keeps before split.symm) truthy fun front behind _ none letters => ?_
    exact List.isSuffixOf_iff_suffix.mpr ⟨front, by rw [none rfl, List.append_nil]⟩
  case inr.inr.inr.inl =>
    obtain ⟨truthy, found⟩ := membership_iff.mp holds
    exact membership_iff.mpr (ComparisonOptions.contains_folded tidyRight tidy keeps truthy found)
  case inr.inr.inr.inr =>
    obtain ⟨truthy, found⟩ := membership_iff.mp holds
    exact membership_iff.mpr (ComparisonOptions.contains_folded tidy tidyRight keeps truthy found)

theorem apply_options (listed : operator ∈ foldable) (options other : ComparisonOptions) :
    operator.apply options left right = operator.apply other left right := by
  simp only [foldable, List.mem_cons, List.not_mem_nil, or_false] at listed
  rcases listed with rfl | rfl | rfl | rfl | rfl <;> rfl

end ComparisonOperator

namespace Comparison

theorem evaluate_constants (world : World) (object left right : Value) {operator : ComparisonOperator}
    (unfolded : operator ≠ .matchesPattern) (options : ComparisonOptions) :
    (⟨.constant left, .constant right, .direct, operator, options⟩ : Comparison).evaluate world object =
      operator.apply options (options.foldValue left) (options.foldValue right) := by
  simp only [evaluate, Expression.evaluate, pure_bind, Comparison.decide, if_neg unfolded]
  rfl

/-- What holds of two values without options holds with them, where folding keeps what is looked for. -/
theorem folding_widens {operator : ComparisonOperator} (listed : operator ∈ ComparisonOperator.foldable)
    {left right : Value} (tidy : left.Tidy false) (tidyRight : right.Tidy false) {options : ComparisonOptions}
    (keeps : options.Keeps operator left right) (world : World) (object : Value)
    (holds : (⟨.constant left, .constant right, .direct, operator, .none⟩ : Comparison).evaluate world object =
      .ok true) :
    (⟨.constant left, .constant right, .direct, operator, options⟩ : Comparison).evaluate world object =
      .ok true := by
  have noPattern : operator ≠ .matchesPattern := by
    rintro rfl
    exact absurd listed (by decide)
  rw [evaluate_constants world object left right noPattern] at holds ⊢
  change operator.apply .none left right = .ok true at holds
  unfold ComparisonOptions.foldValue
  cases options.foldsText with
  | false => exact (ComparisonOperator.apply_options listed options .none).trans holds
  | true => exact ComparisonOperator.apply_folded listed tidy tidyRight keeps holds

/-- The front of a text with an accent, and a set of which two strings become one. -/
theorem folding_widens_accents :
    let both : ComparisonOptions := ⟨true, true, false⟩
    both.Keeps .beginsWith (.string "Élan Vital") (.string "Élan") ∧
    (Value.set [.string "É", .string "e"]).Tidy false ∧
    ∀ (world : World) (object : Value),
      (⟨.constant (.string "Élan Vital"), .constant (.string "Élan"), .direct, .beginsWith, both⟩ :
        Comparison).evaluate world object = .ok true ∧
      (⟨.constant (.set [.string "É", .string "e"]), .constant (.string "É"), .direct, .contains, both⟩ :
        Comparison).evaluate world object = .ok true := by
  intro both
  have plain : ∀ {exact : Bool} (text : String), (Value.string text).Tidy exact := fun _ => .leaf rfl nofun
  have keeps : both.Keeps .beginsWith (.string "Élan Vital") (.string "Élan") := by
    refine fun after split => ⟨fun _ => ?_, fun _ => Unicode.lowerBetween_of_not_mem (by decide +kernel) _ _⟩
    rw [List.nil_append, ← split]
    decide +kernel
  have tidy : (Value.set [.string "É", .string "e"]).Tidy false := by
    refine .set (List.forall_mem_cons.mpr ⟨plain _, List.forall_mem_cons.mpr ⟨plain _, nofun⟩⟩) ?_
    unfold ValueSet.Distinct
    decide
  refine ⟨keeps, tidy, fun world object => ⟨?_, ?_⟩⟩
  · refine folding_widens (by decide) (plain _) (plain _) keeps world object ?_
    rw [evaluate_constants world object _ _ (by decide)]
    decide +kernel
  · have member : both.Keeps .contains (.set [.string "É", .string "e"]) (.string "É") := trivial
    refine folding_widens (by decide) tidy (plain _) member world object ?_
    rw [evaluate_constants world object _ _ (by decide)]
    decide +kernel

/-- A key of a map, a capital sigma that comes to stand inside of a word or at the end of one, a text of
nothing but a mark, and lists in sets whose integers equal one float. -/
theorem folding_narrows :
    let capital : Value := .list [.string "AB", .int 9007199254740992]
    let mixed : Value := .list [.string "Ab", .float (Float.ofInt 9007199254740992)]
    let small : Value := .list [.string "ab", .int 9007199254740993]
    let ofCase : ComparisonOptions := ⟨true, false, false⟩
    let ofMarks : ComparisonOptions := ⟨false, true, false⟩
    [(Value.map [("A", .int 1)], ComparisonOperator.contains, Value.string "A", ofCase),
      (.string "ΑΣΑ", .contains, .string "ΑΣ", ofCase), (.string "ΑΣΑ", .beginsWith, .string "ΑΣ", ofCase),
      (.string "ΑΣ", .endsWith, .string "Σ", ofCase),
      (.string "\u0301", .beginsWith, .string "\u0301", ofMarks),
      (.set [capital, mixed, small], .equalTo, .set [mixed, capital, small], ofCase)].Forall
      fun (left, operator, right, options) =>
        (⟨.constant left, .constant right, .direct, operator, .none⟩ : Comparison).decide left right = .ok true ∧
          (⟨.constant left, .constant right, .direct, operator, options⟩ : Comparison).decide left right =
            .ok false := by
  simp only [List.Forall]
  refine ⟨?_, ?_, ?_, ?_, ?_, ?_⟩ <;> decide +kernel

end Comparison

end PredicateRules
