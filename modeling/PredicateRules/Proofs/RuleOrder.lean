import PredicateRules.Rule.Model

namespace PredicateRules.RuleIndex

/-- A rule of higher priority stands first, of equal priority the one declared later. -/
def Precedes (first second : Rule × Nat) : Prop :=
  second.1.priority < first.1.priority ∨
    second.1.priority = first.1.priority ∧ second.2 < first.2

theorem Precedes.priority_le {first second : Rule × Nat} (precedes : Precedes first second) :
    second.1.priority ≤ first.1.priority := by
  rcases precedes with lower | ⟨same, _⟩
  · exact Int64.le_of_lt lower
  · exact Int64.le_of_eq same

/-- The rules for a key in the order of the index, each with the bindings in its specifier and its
value and with nothing else changed. -/
def Ranks (declared : List Rule) (bindings : Bindings) (key : String) (bucket : List Rule) : Prop :=
  ∃ ordered : List (Rule × Nat),
    ordered.Perm (declared.zipIdx.filter fun rule => rule.1.key == key) ∧
    ordered.Pairwise Precedes ∧
    bucket = ordered.map fun rule =>
      { specifier := rule.1.specifier.substitute bindings
        key := rule.1.key
        value := rule.1.value.substitute bindings
        weight := rule.1.weight
        priority := rule.1.priority }

/-- Wherever a search splits the bucket into rules of at most the new priority and rules above it,
that is the place of insertion. -/
theorem insertAscending_of_split {front back : List Rule} {rule : Rule}
    (low : ∀ other ∈ front, other.priority ≤ rule.priority)
    (high : ∀ other ∈ back, rule.priority < other.priority) :
    insertAscending (front ++ back) rule = front ++ rule :: back := by
  have backStays : back.takeWhile (fun other => decide (other.priority ≤ rule.priority)) = [] ∧
      back.dropWhile (fun other => decide (other.priority ≤ rule.priority)) = back := by
    cases back with
    | nil => exact ⟨rfl, rfl⟩
    | cons other rest =>
        have above : ¬ other.priority ≤ rule.priority := Int64.not_le.mpr (high other (by simp))
        simp [above]
  unfold insertAscending
  rw [List.takeWhile_append_of_pos (by simpa using low),
    List.dropWhile_append_of_pos (by simpa using low), backStays.1, backStays.2, List.append_nil]

/-- From the lowest priority up, a rule declared earlier before those of the same priority. -/
def Ascends (bucket : List (Rule × Nat)) : Prop :=
  bucket.Pairwise fun first second => Precedes second first

namespace Ascends

variable {front back bucket : List (Rule × Nat)}

/-- A bucket that ascends can be split by priority, as a binary search needs it. -/
theorem split (ascends : Ascends bucket) (priority : Int64) :
    ∃ front back, bucket = front ++ back ∧ (∀ other ∈ front, other.1.priority ≤ priority) ∧
      ∀ other ∈ back, priority < other.1.priority := by
  induction bucket with
  | nil => exact ⟨[], [], rfl, by simp, by simp⟩
  | cons other rest ih =>
      obtain ⟨above, restAscends⟩ := List.pairwise_cons.mp ascends
      by_cases low : other.1.priority ≤ priority
      · obtain ⟨front, back, rfl, lows, highs⟩ := ih restAscends
        exact ⟨other :: front, back, rfl, List.forall_mem_cons.mpr ⟨low, lows⟩, highs⟩
      · have high := Int64.not_le.mp low
        refine ⟨[], other :: rest, rfl, by simp, List.forall_mem_cons.mpr ⟨high, ?_⟩⟩
        exact fun next member => Int64.lt_of_lt_of_le high (above next member).priority_le

theorem insert (ascends : Ascends (front ++ back)) {rule : Rule × Nat}
    (low : ∀ other ∈ front, other.1.priority ≤ rule.1.priority)
    (high : ∀ other ∈ back, rule.1.priority < other.1.priority)
    (later : ∀ other ∈ front ++ back, other.2 < rule.2) : Ascends (front ++ rule :: back) := by
  obtain ⟨frontAscends, backAscends, across⟩ := List.pairwise_append.mp ascends
  have below : ∀ other ∈ front, Precedes rule other := by
    intro other member
    rcases Int64.lt_or_eq_of_le (low other member) with lower | same
    · exact .inl lower
    · exact .inr ⟨same, later other (List.mem_append_left back member)⟩
  refine List.pairwise_append.mpr ⟨frontAscends, List.pairwise_cons.mpr ⟨fun other member =>
    .inl (high other member), backAscends⟩, fun other member => ?_⟩
  exact List.forall_mem_cons.mpr ⟨below other member, across other member⟩

end Ascends

section

variable {read : Rule × Nat → Rule}

theorem foldl_ordered (kept : ∀ rule, (read rule).priority = rule.1.priority)
    {numbered placed : List (Rule × Nat)}
    (increasing : numbered.Pairwise fun first second => first.2 < second.2)
    (later : ∀ other ∈ placed, ∀ rule ∈ numbered, other.2 < rule.2) (ascends : Ascends placed) :
    ∃ ordered, ordered.Perm (numbered ++ placed) ∧ Ascends ordered ∧
      (numbered.map read).foldl insertAscending (placed.map read) = ordered.map read := by
  induction numbered generalizing placed with
  | nil => exact ⟨placed, .refl _, ascends, rfl⟩
  | cons rule numbered ih =>
      obtain ⟨ruleFirst, rest⟩ := List.pairwise_cons.mp increasing
      obtain ⟨front, back, rfl, low, high⟩ := ascends.split rule.1.priority
      have behind : ∀ other ∈ front ++ back, other.2 < rule.2 :=
        fun other member => later other member rule (by simp)
      have moved : (front ++ rule :: back).Perm (rule :: (front ++ back)) := List.perm_middle
      obtain ⟨ordered, perm, orderedAscends, same⟩ := ih rest (fun other member next nextMember => by
        rcases List.mem_cons.mp (moved.mem_iff.mp member) with rfl | member
        · exact ruleFirst next nextMember
        · exact later other member next (by simp [nextMember])) (ascends.insert low high behind)
      refine ⟨ordered, perm.trans ((moved.append_left numbered).trans List.perm_middle), orderedAscends, ?_⟩
      have inserted : insertAscending ((front ++ back).map read) (read rule) =
          (front ++ rule :: back).map read := by
        have lows : ∀ other ∈ front.map read, other.priority ≤ (read rule).priority :=
          List.forall_mem_map.mpr fun other member => by rw [kept, kept]; exact low other member
        have highs : ∀ other ∈ back.map read, (read rule).priority < other.priority :=
          List.forall_mem_map.mpr fun other member => by rw [kept, kept]; exact high other member
        rw [List.map_append, insertAscending_of_split lows highs, List.map_append, List.map_cons]
      rw [List.map_cons, List.foldl_cons, inserted, same]

theorem bucketOf_ordered (read : Rule × Nat → Rule)
    (kept : ∀ rule, (read rule).priority = rule.1.priority)
    {numbered : List (Rule × Nat)}
    (increasing : numbered.Pairwise fun first second => first.2 < second.2) :
    ∃ ordered : List (Rule × Nat), ordered.Perm numbered ∧ ordered.Pairwise Precedes ∧
      bucketOf (numbered.map read) = ordered.map read := by
  obtain ⟨ordered, perm, ascends, same⟩ := foldl_ordered kept increasing (by simp) List.Pairwise.nil
  rw [List.append_nil] at perm
  refine ⟨ordered.reverse, (List.reverse_perm _).trans perm, List.pairwise_reverse.mpr ascends, ?_⟩
  rw [bucketOf, List.map_reverse, ← same]
  rfl

end

theorem zipIdx_increasing (rules : List α) (start : Nat) :
    (rules.zipIdx start).Pairwise fun first second => first.2 < second.2 := by
  have places : ((rules.zipIdx start).map Prod.snd).Pairwise (· < ·) := by
    rw [List.zipIdx_map_snd]
    exact List.pairwise_lt_range'
  exact List.pairwise_map.mp places

theorem lookup_map_pair (value : String → α) (keys : List String) (key : String) :
    (keys.map fun other => (other, value other)).lookup key =
      if key ∈ keys then some (value key) else none := by
  induction keys with
  | nil => rfl
  | cons other keys ih =>
      by_cases same : key = other
      · subst same
        simp
      · simp [List.lookup_cons, beq_false_of_ne same, ih, same]

theorem mem_keysOf {rules : List Rule} {key : String} :
    key ∈ keysOf rules ↔ ∃ rule ∈ rules, rule.key = key := by
  simp [keysOf, List.mem_eraseDups]

theorem nodup_eraseDups (keys : List String) : keys.eraseDups.Nodup := by
  cases keys with
  | nil => exact List.nodup_nil
  | cons key keys =>
      have shorter := List.length_filter_le (fun other => !other == key) keys
      rw [List.eraseDups_cons]
      refine List.nodup_cons.mpr ⟨?_, nodup_eraseDups _⟩
      simp [List.mem_eraseDups]
termination_by keys.length
decreasing_by simp only [List.length_cons]; omega

theorem candidates?_build (rules : List Rule) (key : String) :
    (build rules).candidates? key =
      if ∃ rule ∈ rules, rule.key = key then
        some (bucketOf (rules.filter fun rule => rule.key == key))
      else none := by
  simp only [candidates?, build, lookup_map_pair, mem_keysOf]

theorem keys_build (rules : List Rule) : (build rules).keys = keysOf rules := by
  simp only [keys, build, List.map_map, Function.comp_def, List.map_id']

end PredicateRules.RuleIndex
