import PredicateRules.Proofs.Outranking

namespace PredicateRules

theorem Predicate.specificitySum_replicate (count : Nat) (part : Predicate) :
    Predicate.specificitySum (List.replicate count part) = count * part.specificity := by
  induction count with
  | zero => simp [Predicate.specificitySum]
  | succ count ih =>
      rw [List.replicate_succ, Predicate.specificitySum, ih, Nat.succ_mul, Nat.add_comm]

def Predicate.repeated (count : Nat) : Predicate :=
  .compound .and (List.replicate count
    (.comparison ⟨.keyPath "a", .constant (.int 1), .direct, .equalTo, .none⟩))

@[simp]
theorem Predicate.specificity_repeated (count : Nat) :
    (Predicate.repeated count).specificity = 1 + count * 2 := by
  rw [repeated, specificity, specificitySum_replicate, specificity]

def Within64 (number : Int) : Prop := Int64.minValue.toInt ≤ number ∧ number ≤ Int64.maxValue.toInt

instance (number : Int) : Decidable (Within64 number) := inferInstanceAs (Decidable (_ ∧ _))

theorem Builtin.checked_eq (number : Int) :
    Builtin.checked number = if Within64 number then some (.ofInt number) else none := rfl

theorem Within64.toInt_ofInt {number : Int} (within : Within64 number) :
    (Int64.ofInt number).toInt = number :=
  Int64.toInt_ofInt_of_le within.1 (Int.lt_add_one_of_le within.2)

namespace Rule

def exactPriority (specifier : Predicate) (weight : Int64) : Int :=
  specifier.specificity + weight.toInt * weightScale.toInt

/-- Of the whole number the last 64 bits count. -/
theorem toInt_priorityOf (specifier : Predicate) (weight : Int64) :
    (priorityOf specifier weight).toInt = (exactPriority specifier weight).bmod (2 ^ 64) := by
  rw [priorityOf, Int64.toInt_add, Int64.toInt_ofNat', Int64.toInt_mul, Int64.size, Int.bmod_add_bmod,
    Int.add_bmod_bmod, exactPriority]

variable {specifier otherSpecifier : Predicate} {key otherKey : String} {value otherValue : Expression}
  {weight otherWeight : Int64} {rule other : Rule}

theorem priorityOf_eq_ofInt (specifier : Predicate) (weight : Int64) :
    priorityOf specifier weight = .ofInt (exactPriority specifier weight) := by
  rw [← Int64.toInt_inj, toInt_priorityOf]
  exact Int64.toInt_ofInt.symm

/-- Every number on the way to the priority is within 64 bits. -/
structure Fits (specifier : Predicate) (weight : Int64) : Prop where
  specificity : Within64 specifier.specificity
  scaled : Within64 (weight.toInt * weightScale.toInt)
  sum : Within64 (exactPriority specifier weight)

/-- Checked arithmetic makes the same rule, or none where a number is beyond 64 bits. -/
theorem makeChecked?_eq_some_iff (made : make specifier key value weight = .ok rule) :
    makeChecked? specifier key value weight = some (.ok rule) ↔ Fits specifier weight := by
  have named : key.isEmpty = false := by
    unfold make at made
    split at made
    next => cases made
    next named => exact Bool.eq_false_iff.mpr named
  obtain rfl := eq_of_make made
  unfold makeChecked?
  rw [named, if_neg Bool.false_ne_true]
  simp only [Builtin.checked_eq, Option.bind_eq_bind]
  constructor
  · intro whole
    obtain ⟨asked, specificity, whole⟩ := Option.bind_eq_some_iff.mp whole
    obtain ⟨scaled, product, whole⟩ := Option.bind_eq_some_iff.mp whole
    obtain ⟨sum, total, -⟩ := Option.bind_eq_some_iff.mp whole
    obtain ⟨withinAsked, same⟩ := Option.ite_none_right_eq_some.mp specificity
    obtain ⟨withinScaled, sameScaled⟩ := Option.ite_none_right_eq_some.mp product
    obtain rfl := Option.some.inj same
    obtain rfl := Option.some.inj sameScaled
    rw [withinAsked.toInt_ofInt, withinScaled.toInt_ofInt] at total
    exact ⟨withinAsked, withinScaled, (Option.ite_none_right_eq_some.mp total).1⟩
  · rintro ⟨asked, scaled, sum⟩
    rw [if_pos asked, Option.bind_some, if_pos scaled, Option.bind_some, asked.toInt_ofInt,
      scaled.toInt_ofInt, ← exactPriority, if_pos sum, Option.bind_some, priorityOf_eq_ofInt]
    rfl

theorem priority_lt_iff (within : Within64 (exactPriority specifier weight))
    (otherWithin : Within64 (exactPriority otherSpecifier otherWeight))
    (made : make specifier key value weight = .ok rule)
    (otherMade : make otherSpecifier otherKey otherValue otherWeight = .ok other) :
    other.priority < rule.priority ↔
      (otherSpecifier.specificity : Int) <
        specifier.specificity + (weight.toInt - otherWeight.toInt) * weightScale.toInt := by
  obtain rfl := eq_of_make made
  obtain rfl := eq_of_make otherMade
  rw [priorityOf_eq_ofInt, priorityOf_eq_ofInt, Int64.lt_iff_toInt_lt,
    within.toInt_ofInt, otherWithin.toInt_ofInt, exactPriority, exactPriority, Int.sub_mul]
  omega

/-- Wherever both are found, the one has the lower place. -/
def StandsBefore (rule other : Rule) (bucket : List Rule) : Prop :=
  ∀ place behind : Nat, bucket[place]? = some rule → bucket[behind]? = some other → place < behind

theorem standsBefore_of_descends {bucket : List Rule}
    (descends : bucket.Pairwise fun first second => second.priority ≤ first.priority)
    (higher : other.priority < rule.priority) : rule.StandsBefore other bucket :=
  fun _ _ atPlace atBehind => PlacedRule.place_lt_of_descends descends higher atPlace atBehind

theorem standsBefore_candidates {declared bucket : List Rule} {bindings : Bindings}
    (found : (Model.build declared bindings).candidates? key = some bucket)
    (higher : other.priority < rule.priority) :
    (rule.substitute bindings).StandsBefore (other.substitute bindings) bucket :=
  standsBefore_of_descends (PlacedRule.descends_of_ranks (Model.ranks_of_candidates?_build found)) higher

/-- A rule that is declared later stands first unless its priority is lower. -/
theorem candidates?_pair (sameKey : rule.key = other.key) (atMost : rule.priority ≤ other.priority) :
    (Model.build [rule, other] []).candidates? other.key = some [other, rule] := by
  rw [Model.candidates?_build, if_pos ⟨other, by simp, rfl⟩]
  simp [RuleIndex.bucketOf, RuleIndex.insertAscending, sameKey, atMost]

theorem candidates?_pair_of_lt (sameKey : rule.key = other.key) (higher : other.priority < rule.priority) :
    (Model.build [rule, other] []).candidates? other.key = some [rule, other] := by
  rw [Model.candidates?_build, if_pos ⟨other, by simp, rfl⟩]
  simp [RuleIndex.bucketOf, RuleIndex.insertAscending, sameKey, Int64.not_le.mpr higher]

/-- A rule stands before another one in every model that has both exactly where its priority is higher.
That is where the other specifier does not ask for more by a thousand for each unit of weight between the
two, if both sums are within 64 bits; otherwise the last 64 bits of the sums decide, and checked arithmetic
makes no rule. -/
theorem stands_before_iff (made : make specifier key value weight = .ok rule)
    (otherMade : make otherSpecifier otherKey otherValue otherWeight = .ok other) :
    (key = otherKey →
      ((∀ declared bindings, rule ∈ declared → other ∈ declared →
          ∃ bucket, (Model.build declared bindings).candidates? key = some bucket ∧
            rule.substitute bindings ∈ bucket ∧ other.substitute bindings ∈ bucket ∧
            (rule.substitute bindings).StandsBefore (other.substitute bindings) bucket) ↔
        other.priority < rule.priority)) ∧
    (Within64 (exactPriority specifier weight) → Within64 (exactPriority otherSpecifier otherWeight) →
      (other.priority < rule.priority ↔
        (otherSpecifier.specificity : Int) <
          specifier.specificity + (weight.toInt - otherWeight.toInt) * weightScale.toInt)) ∧
    (other.priority < rule.priority ↔
      (exactPriority otherSpecifier otherWeight).bmod (2 ^ 64) <
        (exactPriority specifier weight).bmod (2 ^ 64)) ∧
    (makeChecked? specifier key value weight = some (.ok rule) ↔ Fits specifier weight) := by
  refine ⟨fun sameKey => ?places, fun within otherWithin => priority_lt_iff within otherWithin made otherMade,
    ?bits, makeChecked?_eq_some_iff made⟩
  case bits =>
    obtain rfl := eq_of_make made
    obtain rfl := eq_of_make otherMade
    rw [Int64.lt_iff_toInt_lt, toInt_priorityOf, toInt_priorityOf]
  case places =>
    have ruleKey : rule.key = key := by rw [eq_of_make made]
    have oneKey : other.key = key := by rw [eq_of_make otherMade, sameKey]
    constructor
    · intro always
      by_contra notHigher
      obtain ⟨bucket, found, -, -, before⟩ := always [rule, other] [] (by simp) (by simp)
      have pair := candidates?_pair (ruleKey.trans oneKey.symm) (Int64.not_lt.mp notHigher)
      rw [oneKey, found] at pair
      obtain rfl := Option.some.inj pair
      exact absurd (before 1 0 (by simp) (by simp)) (by omega)
    · intro higher declared bindings listed otherListed
      have found := Model.candidates?_build declared bindings key
      rw [if_pos ⟨rule, listed, ruleKey⟩] at found
      exact ⟨_, found, PlacedRule.mem_of_candidates? listed (ruleKey ▸ found),
        PlacedRule.mem_of_candidates? otherListed (oneKey ▸ found), standsBefore_candidates found higher⟩

/-- The lighter one of two rules of negative weight asks for less than a unit of weight more. -/
theorem stands_before_iff_negative :
    ∃ heavy light : Rule,
      make (.value true) "k" (.constant (.string "heavy")) (-4) = .ok heavy ∧
      make (.repeated 3) "k" (.constant (.string "light")) (-5) = .ok light ∧
      light.priority < heavy.priority ∧
      (∃ bucket, (Model.build [heavy, light] []).candidates? "k" = some bucket ∧
        heavy.substitute [] ∈ bucket ∧ light.substitute [] ∈ bucket ∧
        (heavy.substitute []).StandsBefore (light.substitute []) bucket) ∧
      makeChecked? (.value true) "k" (.constant (.string "heavy")) (-4) = some (.ok heavy) := by
  obtain ⟨heavy, made⟩ : ∃ heavy, make (.value true) "k" (.constant (.string "heavy")) (-4) =
    .ok heavy := ⟨_, rfl⟩
  obtain ⟨light, otherMade⟩ : ∃ light, make (.repeated 3) "k" (.constant (.string "light")) (-5) =
    .ok light := ⟨_, rfl⟩
  obtain ⟨before, sums, -, checks⟩ := stands_before_iff made otherMade
  have higher : light.priority < heavy.priority :=
    (sums (by decide +kernel) (by decide +kernel)).mpr (by decide +kernel)
  exact ⟨heavy, light, made, otherMade, higher,
    (before rfl).mpr higher [heavy, light] [] (by simp) (by simp),
    checks.mpr ⟨by decide +kernel, by decide +kernel, by decide +kernel⟩⟩

/-- Five hundred and one comparisons ask for more than a unit of weight is worth, so the lighter rule
stands first, although it is declared first. -/
theorem not_stands_before :
    ∃ heavy light : Rule,
      make (.value true) "k" (.constant (.string "heavy")) 1 = .ok heavy ∧
      make (.repeated 501) "k" (.constant (.string "light")) 0 = .ok light ∧
      light.weight < heavy.weight ∧ heavy.priority < light.priority ∧
      (Model.build [light, heavy] []).candidates? "k" = some [light, heavy] := by
  have higher : priorityOf (.value true) 1 < priorityOf (.repeated 501) 0 := by
    rw [Int64.lt_iff_toInt_lt, toInt_priorityOf, toInt_priorityOf, exactPriority, exactPriority,
      Predicate.specificity_repeated]
    decide
  exact ⟨_, _, rfl, rfl, by decide, higher, candidates?_pair_of_lt rfl higher⟩

end Rule

end PredicateRules
