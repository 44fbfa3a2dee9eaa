import Mathlib
import PredicateRules.Value.Collection

/-!
Equality of values as a relation. It is no equivalence: a float that is no number equals nothing, and two
integers may equal one float without being equal. Where no float inside of a set does that, equality is
symmetric, and transitive over values that hold no such float at all.
-/

namespace PredicateRules

/-! ### Floats -/

namespace Float64

open Float.Model

theorem compare_sign (sign : UnpackedFloat.Sign) : compare sign sign = .eq := by
  cases sign <;> rfl

theorem compare_eq_iff {left right : UnpackedFloat} : left.compare right = some .eq ↔
    left ≠ .notANumber ∧ (left = right ∨ ∃ sign other, left = .zero sign ∧ right = .zero other) := by
  rcases left with ⟨_ | _⟩ | _ | ⟨_ | _⟩ | ⟨_ | _, mantissa, exponent, positive⟩ <;>
    rcases right with ⟨_ | _⟩ | _ | ⟨_ | _⟩ | ⟨_ | _, mantissaRight, exponentRight, positiveRight⟩ <;>
    simp [UnpackedFloat.compare, compare_sign, Ordering.then_eq_eq, and_comm]

theorem compare_symm {left right : UnpackedFloat} (equal : left.compare right = some .eq) :
    right.compare left = some .eq := by
  rw [compare_eq_iff] at equal ⊢
  obtain ⟨number, rfl | ⟨sign, other, rfl, rfl⟩⟩ := equal
  · exact ⟨number, .inl rfl⟩
  · exact ⟨nofun, .inr ⟨other, sign, rfl, rfl⟩⟩

theorem compare_trans {left middle right : UnpackedFloat} (first : left.compare middle = some .eq)
    (second : middle.compare right = some .eq) : left.compare right = some .eq := by
  rw [compare_eq_iff] at first second ⊢
  obtain ⟨number, rfl | ⟨sign, other, rfl, rfl⟩⟩ := first
  · exact second
  · obtain ⟨_, rfl | ⟨_, further, _, rfl⟩⟩ := second
    · exact ⟨nofun, .inr ⟨sign, other, rfl, rfl⟩⟩
    · exact ⟨nofun, .inr ⟨sign, further, rfl, rfl⟩⟩

theorem beq_iff {left right : Float} :
    (left == right) = true ↔ left.toModel.unpack.compare right.toModel.unpack = some .eq := by
  show (left.toModel.unpack.compare right.toModel.unpack == some .eq) = true ↔ _
  rw [beq_iff_eq]

theorem beq_symm {left right : Float} (equal : (left == right) = true) : (right == left) = true :=
  beq_iff.mpr (compare_symm (beq_iff.mp equal))

theorem beq_comm (left right : Float) : (left == right) = (right == left) :=
  Bool.eq_iff_iff.mpr ⟨beq_symm, beq_symm⟩

theorem beq_trans {left middle right : Float} (first : (left == middle) = true)
    (second : (middle == right) = true) : (left == right) = true :=
  beq_iff.mpr (compare_trans (beq_iff.mp first) (beq_iff.mp second))

/-- No two integers are equal to the float. -/
def TellsApart (number : Float) : Prop :=
  ∀ first second : Int64, (Float.ofInt first.toInt == number) = true →
    (Float.ofInt second.toInt == number) = true → first = second

end Float64

/-! ### Values -/

namespace Value

def isLeaf : Value → Bool
  | list _ | set _ | map _ => false
  | _ => true

@[elab_as_elim]
theorem byParts {motive : Value → Prop} (leaf : ∀ value : Value, value.isLeaf = true → motive value)
    (list : ∀ items, (∀ item ∈ items, motive item) → motive (list items))
    (set : ∀ items, (∀ item ∈ items, motive item) → motive (set items))
    (map : ∀ entries : List (String × Value), (∀ entry ∈ entries, motive entry.2) → motive (map entries)) :
    (value : Value) → motive value
  | .list items => list items fun item _ => byParts leaf list set map item
  | .set items => set items fun item _ => byParts leaf list set map item
  | .map entries => map entries fun entry _ => byParts leaf list set map entry.2
  | .null | .bool _ | .int _ | .float _ | .string _ | .dateTime _ | .object _ | .function _ => leaf _ rfl
decreasing_by
  · simp only [Value.list.sizeOf_spec]
    have := List.sizeOf_lt_of_mem ‹_›
    omega
  · simp only [Value.set.sizeOf_spec]
    have := List.sizeOf_lt_of_mem ‹_›
    omega
  · simp only [Value.map.sizeOf_spec]
    have := List.sizeOf_lt_of_mem ‹_›
    have : sizeOf entry = 1 + sizeOf entry.1 + sizeOf entry.2 := rfl
    omega

theorem allHeld_eq (items holder : List Value) :
    allHeld items holder = items.all fun item => holder.any fun element => agrees true item element := by
  induction items with
  | nil => rfl
  | cons item items ih => rw [allHeld, List.all_cons, ih]

theorem someAgrees_eq (elements : List Value) (item : Value) :
    someAgrees elements item = elements.any fun element => agrees false element item := by
  induction elements with
  | nil => rfl
  | cons element elements ih => rw [someAgrees, List.any_cons, ih]

theorem agrees_leaf {value : Value} (isLeaf : value.isLeaf = true) (flipped back : Bool) (other : Value) :
    agrees flipped value other = agrees back other value := by
  cases value <;> cases isLeaf <;> cases other <;> simp only [agrees, Float64.beq_comm, Bool.beq_comm]

section

variable {items : List Value}
  (flips : ∀ item ∈ items, ∀ flipped other, agrees flipped item other = agrees (!flipped) other item)

include flips

theorem agreesEach_flip (flipped : Bool) (others : List Value) :
    agreesEach flipped items others = agreesEach (!flipped) others items := by
  induction items generalizing others with
  | nil => cases others <;> rfl
  | cons item items ih =>
      cases others with
      | nil => rfl
      | cons other others =>
          rw [agreesEach, agreesEach, flips item List.mem_cons_self,
            ih fun item member => flips item (List.mem_cons_of_mem _ member)]

theorem any_flip (flipped : Bool) (other : Value) :
    (items.any fun item => agrees flipped item other) = items.any fun item => agrees (!flipped) other item := by
  rw [Bool.eq_iff_iff, List.any_eq_true, List.any_eq_true]
  refine exists_congr fun item => and_congr_right fun member => ?_
  rw [flips item member]

theorem agreesSet_flip (flipped : Bool) (others : List Value) :
    agrees flipped (set items) (set others) = agrees (!flipped) (set others) (set items) := by
  cases flipped with
  | false =>
      have same : allHeld items others = items.all fun item => someAgrees others item := by
        rw [allHeld_eq, Bool.eq_iff_iff, List.all_eq_true, List.all_eq_true]
        refine forall₂_congr fun item member => ?_
        simp only [someAgrees_eq, flips item member, Bool.not_true]
      simp only [agrees, same, Bool.beq_comm, Bool.not_false, if_true, Bool.false_eq_true, if_false]
  | true =>
      have same : (others.all fun item => someAgrees items item) = allHeld others items := by
        simp only [allHeld_eq, someAgrees_eq, any_flip flips, Bool.not_false]
      simp only [agrees, same, Bool.beq_comm, Bool.not_true, if_true, Bool.false_eq_true, if_false]

end

theorem agreesEntries_flip {entries : List (String × Value)}
    (flips : ∀ entry ∈ entries, ∀ flipped other,
      agrees flipped entry.2 other = agrees (!flipped) other entry.2)
    (flipped : Bool) (others : List (String × Value)) :
    agreesEntries flipped entries others = agreesEntries (!flipped) others entries := by
  induction entries generalizing others with
  | nil => cases others <;> rfl
  | cons entry entries ih =>
      cases others with
      | nil => rfl
      | cons other others =>
          rw [agreesEntries, agreesEntries, flips entry List.mem_cons_self, Bool.beq_comm,
            ih fun entry member => flips entry (List.mem_cons_of_mem _ member)]

theorem agrees_flip (value : Value) :
    ∀ flipped other, agrees flipped value other = agrees (!flipped) other value := by
  induction value using byParts with
  | leaf value isLeaf => exact fun flipped other => agrees_leaf isLeaf flipped (!flipped) other
  | list items ih =>
      intro flipped other
      cases other with
      | list others => exact agreesEach_flip ih flipped others
      | _ => rfl
  | set items ih =>
      intro flipped other
      cases other with
      | set others => exact agreesSet_flip ih flipped others
      | _ => rfl
  | map entries ih =>
      intro flipped other
      cases other with
      | map others => exact agreesEntries_flip ih flipped others
      | _ => rfl

variable {lefts rights : List Value}

theorem list_equal_iff : (list lefts == list rights) = true ↔
    List.Forall₂ (fun left right => (left == right) = true) lefts rights := by
  show agreesEach false lefts rights = true ↔ _
  induction lefts generalizing rights with
  | nil => cases rights <;> simp [agreesEach]
  | cons left lefts ih =>
      cases rights with
      | nil => simp [agreesEach]
      | cons right rights =>
          rw [agreesEach, Bool.and_eq_true, List.forall₂_cons, ih]
          rfl

theorem set_equal_iff : (set lefts == set rights) = true ↔
    lefts.length = rights.length ∧ ∀ left ∈ lefts, ValueSet.holds rights left = true := by
  show (lefts.length == rights.length && allHeld lefts rights) = true ↔ _
  rw [Bool.and_eq_true, beq_iff_eq, allHeld_eq, List.all_eq_true]
  refine and_congr_right fun _ => forall₂_congr fun left _ => ?_
  simp only [agrees_flip left true]
  rfl

theorem map_equal_iff {lefts rights : List (String × Value)} : (map lefts == map rights) = true ↔
    List.Forall₂ (fun left right => left.1 = right.1 ∧ (left.2 == right.2) = true) lefts rights := by
  show agreesEntries false lefts rights = true ↔ _
  induction lefts generalizing rights with
  | nil => cases rights <;> simp [agreesEntries]
  | cons left lefts ih =>
      cases rights with
      | nil => simp [agreesEntries]
      | cons right rights =>
          rw [agreesEntries, Bool.and_eq_true, Bool.and_eq_true, beq_iff_eq, List.forall₂_cons, ih]
          rfl

end Value

/-! ### Sets -/

section

variable {α β : Type} {related : α → β → Prop} {lefts : List α} {rights : List β}
  (matched : ∀ left ∈ lefts, ∃ right ∈ rights, related left right)
  (apart : lefts.Pairwise fun left other => ∀ right, related left right → ¬ related other right)

include matched apart

theorem length_le_of_matched : lefts.length ≤ rights.length := by
  induction lefts generalizing rights with
  | nil => exact Nat.zero_le _
  | cons left lefts ih =>
      obtain ⟨right, member, own⟩ := matched left List.mem_cons_self
      obtain ⟨front, behind, rfl⟩ := List.append_of_mem member
      obtain ⟨apartLeft, apart⟩ := List.pairwise_cons.mp apart
      have others : ∀ other ∈ lefts, ∃ further ∈ front ++ behind, related other further := by
        intro other memberOther
        obtain ⟨further, among, relatedOther⟩ := matched other (List.mem_cons_of_mem left memberOther)
        have differs : further ≠ right := by
          rintro rfl
          exact apartLeft other memberOther further own relatedOther
        exact ⟨further, by simpa [differs] using among, relatedOther⟩
      have fewer := ih others apart
      simp only [List.length_append, List.length_cons] at fewer ⊢
      omega

/-- If there are as many on the right, each of them is matched. -/
theorem matched_back (length : lefts.length = rights.length) :
    ∀ right ∈ rights, ∃ left ∈ lefts, related left right := by
  intro right member
  by_contra alone
  obtain ⟨front, behind, rfl⟩ := List.append_of_mem member
  have others : ∀ left ∈ lefts, ∃ further ∈ front ++ behind, related left further := by
    intro left memberLeft
    obtain ⟨further, among, own⟩ := matched left memberLeft
    have differs : further ≠ right := by
      rintro rfl
      exact alone ⟨left, memberLeft, own⟩
    exact ⟨further, by simpa [differs] using among, own⟩
  have fewer := length_le_of_matched others apart
  simp only [List.length_append, List.length_cons] at fewer length
  omega

end

namespace ValueSet

variable {items : ValueSet} {value : Value}

theorem holds_iff : items.holds value = true ↔ ∃ item ∈ items, (item == value) = true :=
  List.any_eq_true

theorem not_isEmpty_of_holds (held : items.holds value = true) : (!items.isEmpty) = true := by
  obtain ⟨item, member, _⟩ := holds_iff.mp held
  simpa using List.ne_nil_of_mem member

/-- No element equals a later one. -/
def Distinct (items : ValueSet) : Prop := items.Pairwise fun earlier later => (earlier == later) = false

theorem Distinct.insert (distinct : items.Distinct) (value : Value) : (items.insert value).Distinct := by
  cases present : items.holds value with
  | true => rwa [insert_of_holds present]
  | false =>
      rw [insert_of_not_holds present]
      refine List.pairwise_append.mpr ⟨distinct, List.pairwise_singleton _ _, fun item member other same => ?_⟩
      obtain rfl := List.mem_singleton.mp same
      exact Bool.eq_false_iff.mpr fun equal => by
        rw [Bool.eq_false_iff] at present
        exact present (holds_iff.mpr ⟨item, member, equal⟩)

theorem Distinct.foldl_insert (distinct : items.Distinct) (values : List Value) :
    (values.foldl ValueSet.insert items).Distinct := by
  induction values generalizing items with
  | nil => exact distinct
  | cons value values ih => exact ih (distinct.insert value)

theorem ofList_distinct (values : List Value) : (ofList values).Distinct :=
  Distinct.foldl_insert .nil values

theorem mem_foldl_insert_of_mem {item : Value} (member : item ∈ items) (values : List Value) :
    item ∈ values.foldl insert items := by
  obtain ⟨added, -, grown⟩ := items.foldl_insert_eq_append values
  rw [grown]
  exact List.mem_append_left added member

theorem exists_mem_ofList {values : List Value} (member : value ∈ values) :
    ∃ item ∈ ofList values, item = value ∨ (item == value) = true := by
  obtain ⟨front, behind, rfl⟩ := List.append_of_mem member
  simp only [ofList, List.foldl_append, List.foldl_cons]
  generalize front.foldl insert [] = items
  cases present : items.holds value with
  | true =>
      obtain ⟨item, among, equal⟩ := holds_iff.mp present
      rw [insert_of_holds present]
      exact ⟨item, mem_foldl_insert_of_mem among behind, .inr equal⟩
  | false =>
      rw [insert_of_not_holds present]
      exact ⟨value, mem_foldl_insert_of_mem (by simp) behind, .inl rfl⟩

end ValueSet

/-! ### Symmetry and transitivity -/

namespace Value

/-- No element of a set equals a later one, and no float inside of a set equals two integers; if `exact`,
no float anywhere does. -/
inductive Tidy : Bool → Value → Prop where
  | leaf {exact : Bool} {value : Value} (isLeaf : value.isLeaf = true)
      (apart : exact = true → ∀ number, value = .float number → Float64.TellsApart number) : Tidy exact value
  | list {exact : Bool} {items : List Value} (each : ∀ item ∈ items, Tidy exact item) :
      Tidy exact (list items)
  | set {exact : Bool} {items : List Value} (each : ∀ item ∈ items, Tidy true item)
      (distinct : ValueSet.Distinct items) : Tidy exact (set items)
  | map {exact : Bool} {entries : List (String × Value)} (each : ∀ entry ∈ entries, Tidy exact entry.2) :
      Tidy exact (map entries)

theorem Tidy.of_list {exact : Bool} {items : List Value} (tidy : (Value.list items).Tidy exact) :
    ∀ item ∈ items, item.Tidy exact := by
  cases tidy with
  | leaf isLeaf => cases isLeaf
  | list each => exact each

theorem Tidy.of_set {exact : Bool} {items : List Value} (tidy : (Value.set items).Tidy exact) :
    (∀ item ∈ items, item.Tidy true) ∧ ValueSet.Distinct items := by
  cases tidy with
  | leaf isLeaf => cases isLeaf
  | set each distinct => exact ⟨each, distinct⟩

variable {left middle right : Value}

theorem equal_comm_of_leaf (isLeaf : left.isLeaf = true) : (left == right) = (right == left) :=
  agrees_leaf isLeaf false false right

theorem eq_of_equal_leaf (isLeaf : right.isLeaf = true) (noNumber : right.asFloat? = none)
    (equal : (left == right) = true) : left = right := by
  cases right <;> cases isLeaf <;> cases noNumber <;> cases left <;>
    first | rfl | exact congrArg _ (eq_of_beq equal) | cases equal

theorem of_equal_int {number : Int64} (equal : (left == int number) = true) :
    left = int number ∨ ∃ other, left = float other ∧ (other == Float.ofInt number.toInt) = true := by
  cases left with
  | int left => exact .inl (congrArg int (eq_of_beq equal))
  | float left => exact .inr ⟨left, rfl, equal⟩
  | _ => cases equal

theorem of_equal_float {number : Float} (equal : (left == float number) = true) :
    (∃ other, left = int other ∧ (Float.ofInt other.toInt == number) = true) ∨
      ∃ other, left = float other ∧ (other == number) = true := by
  cases left with
  | int left => exact .inl ⟨left, rfl, equal⟩
  | float left => exact .inr ⟨left, rfl, equal⟩
  | _ => cases equal

theorem equal_trans_of_leaf (isLeaf : middle.isLeaf = true)
    (apart : ∀ number, middle = .float number → Float64.TellsApart number)
    (first : (left == middle) = true) (second : (middle == right) = true) : (left == right) = true := by
  have back : (right == middle) = true := (equal_comm_of_leaf isLeaf).symm.trans second
  cases number : middle.asFloat? with
  | none =>
      obtain rfl := eq_of_equal_leaf isLeaf number first
      exact second
  | some _ =>
      cases middle with
      | int middle =>
          rcases of_equal_int first with rfl | ⟨left, rfl, same⟩
          · exact second
          · rcases of_equal_int back with rfl | ⟨right, rfl, sameRight⟩
            · exact first
            · exact Float64.beq_trans same (Float64.beq_symm sameRight)
      | float middle =>
          rcases of_equal_float first with ⟨left, rfl, same⟩ | ⟨left, rfl, same⟩
          · rcases of_equal_float back with ⟨right, rfl, sameRight⟩ | ⟨right, rfl, sameRight⟩
            · obtain rfl := apart middle rfl left right same sameRight
              exact beq_self_eq_true left
            · exact Float64.beq_trans same (Float64.beq_symm sameRight)
          · rcases of_equal_float back with ⟨right, rfl, sameRight⟩ | ⟨right, rfl, sameRight⟩ <;>
              exact Float64.beq_trans same (Float64.beq_symm sameRight)
      | _ => cases number

theorem forall₂_trans {α : Type} {related : α → α → Prop} {lefts middles rights : List α}
    (trans : ∀ middle ∈ middles, ∀ left right, related left middle → related middle right →
      related left right)
    (first : List.Forall₂ related lefts middles) (second : List.Forall₂ related middles rights) :
    List.Forall₂ related lefts rights := by
  induction first generalizing rights with
  | nil => exact second
  | @cons left middle lefts middles own _ ih =>
      obtain ⟨right, rights, next, others, rfl⟩ := List.forall₂_cons_left_iff.mp second
      refine .cons (trans middle List.mem_cons_self left right own next) (ih ?_ others)
      exact fun further member => trans further (List.mem_cons_of_mem middle member)

/-- Equality is transitive through a value in which no float equals two integers. -/
theorem Tidy.trans {exact : Bool} (tidy : middle.Tidy exact) (exactly : exact = true) :
    ∀ left right : Value, (left == middle) = true → (middle == right) = true → (left == right) = true := by
  induction tidy with
  | leaf isLeaf apart => exact fun left right => equal_trans_of_leaf isLeaf (apart exactly)
  | list _ ih =>
      intro left right first second
      cases left with
      | list lefts =>
          cases right with
          | list rights =>
              rw [list_equal_iff] at first second ⊢
              exact forall₂_trans (fun middle member => ih middle member exactly) first second
          | _ => cases second
      | _ => cases first
  | set _ _ ih =>
      intro left right first second
      cases left with
      | set lefts =>
          cases right with
          | set rights =>
              rw [set_equal_iff] at first second ⊢
              -- What a set holds equals an element of it, so here the equalities are the other way round.
              refine ⟨first.1.trans second.1, fun left member => ?_⟩
              obtain ⟨middle, among, equal⟩ := ValueSet.holds_iff.mp (first.2 left member)
              obtain ⟨right, found, equalRight⟩ := ValueSet.holds_iff.mp (second.2 middle among)
              exact ValueSet.holds_iff.mpr ⟨right, found, ih middle among rfl right left equalRight equal⟩
          | _ => cases second
      | _ => cases first
  | map _ ih =>
      intro left right first second
      cases left with
      | map lefts =>
          cases right with
          | map rights =>
              rw [map_equal_iff] at first second ⊢
              refine forall₂_trans (fun middle member left right own next => ?_) first second
              exact ⟨own.1.trans next.1, ih middle member exactly left.2 right.2 own.2 next.2⟩
          | _ => cases second
      | _ => cases first

theorem forall₂_imp {α β : Type} {related implied : α → β → Prop} {lefts : List α} {rights : List β}
    (each : ∀ left ∈ lefts, ∀ right ∈ rights, related left right → implied left right)
    (all : List.Forall₂ related lefts rights) : List.Forall₂ implied lefts rights := by
  induction all with
  | nil => exact .nil
  | @cons left right lefts rights own _ ih =>
      refine .cons (each left List.mem_cons_self right List.mem_cons_self own) (ih ?_)
      exact fun other member further among =>
        each other (List.mem_cons_of_mem left member) further (List.mem_cons_of_mem right among)

theorem forall₂_comm {α : Type} {related : α → α → Prop} {lefts rights : List α}
    (comm : ∀ left ∈ lefts, ∀ right ∈ rights, related left right ↔ related right left) :
    List.Forall₂ related lefts rights ↔ List.Forall₂ related rights lefts :=
  ⟨fun all => (forall₂_imp (fun left member right among => (comm left member right among).mp) all).flip,
    fun all => (forall₂_imp (fun right among left member => (comm left member right among).mpr) all).flip⟩

section

variable {lefts rights : List Value}
  (symm : ∀ left ∈ lefts, ∀ right ∈ rights, (left == right) = (right == left))
  (tidy : ∀ right ∈ rights, Tidy true right) (distinct : ValueSet.Distinct lefts)
  (held : ∀ left ∈ lefts, ValueSet.holds rights left = true)

include held in
theorem matched_of_held : ∀ left ∈ lefts, ∃ right ∈ rights,
    left ∈ lefts ∧ right ∈ rights ∧ (right == left) = true := by
  intro left member
  obtain ⟨right, among, own⟩ := ValueSet.holds_iff.mp (held left member)
  exact ⟨right, among, member, among, own⟩

include symm tidy distinct

theorem apart_of_distinct : lefts.Pairwise fun left other => ∀ right,
    left ∈ lefts ∧ right ∈ rights ∧ (right == left) = true →
      ¬ (other ∈ lefts ∧ right ∈ rights ∧ (right == other) = true) := by
  refine distinct.imp fun {left other} differs right own further => ?_
  have back : (left == right) = true := (symm left own.1 right own.2.1).trans own.2.2
  have same := (tidy right own.2.1).trans rfl left other back further.2.2
  rw [differs] at same
  cases same

include held

theorem length_le_of_held : lefts.length ≤ rights.length :=
  length_le_of_matched (matched_of_held held) (apart_of_distinct symm tidy distinct)

theorem held_back (length : lefts.length = rights.length) :
    ∀ right ∈ rights, ValueSet.holds lefts right = true := by
  intro right member
  obtain ⟨left, among, _, _, own⟩ :=
    matched_back (matched_of_held held) (apart_of_distinct symm tidy distinct) length right member
  exact ValueSet.holds_iff.mpr ⟨left, among, (symm left among right member).trans own⟩

end

/-- Equality is symmetric where no float inside of a set equals two integers. -/
theorem Tidy.symm {exact : Bool} (tidy : left.Tidy exact) :
    ∀ {other : Bool} {right : Value}, right.Tidy other → (left == right) = (right == left) := by
  induction tidy with
  | leaf isLeaf _ => exact fun _ => equal_comm_of_leaf isLeaf
  | @list exact lefts _ ih =>
      intro other right tidyRight
      cases tidyRight with
      | leaf isLeaf _ => exact (equal_comm_of_leaf isLeaf).symm
      | @list other rights each =>
          rw [Bool.eq_iff_iff, list_equal_iff, list_equal_iff]
          refine forall₂_comm fun left member right among => ?_
          rw [ih left member (each right among)]
      | set => rfl
      | map => rfl
  | @set exact lefts each distinct ih =>
      intro other right tidyRight
      cases tidyRight with
      | leaf isLeaf _ => exact (equal_comm_of_leaf isLeaf).symm
      | list => rfl
      | @set other rights eachRight distinctRight =>
          have symm : ∀ left ∈ lefts, ∀ right ∈ rights, (left == right) = (right == left) :=
            fun left member right among => ih left member (eachRight right among)
          have back : ∀ right ∈ rights, ∀ left ∈ lefts, (right == left) = (left == right) :=
            fun right among left member => (symm left member right among).symm
          rw [Bool.eq_iff_iff, set_equal_iff, set_equal_iff]
          constructor
          · exact fun ⟨length, held⟩ => ⟨length.symm, held_back symm eachRight distinct held length⟩
          · exact fun ⟨length, held⟩ => ⟨length.symm, held_back back each distinctRight held length⟩
      | map => rfl
  | @map exact lefts _ ih =>
      intro other right tidyRight
      cases tidyRight with
      | leaf isLeaf _ => exact (equal_comm_of_leaf isLeaf).symm
      | list => rfl
      | set => rfl
      | @map other rights each =>
          rw [Bool.eq_iff_iff, map_equal_iff, map_equal_iff]
          refine forall₂_comm fun left member right among => ?_
          rw [ih left member (each right among), eq_comm]

theorem set_equal_of_held {lefts rights : List Value} (each : ∀ left ∈ lefts, Tidy true left)
    (eachRight : ∀ right ∈ rights, Tidy true right) (distinct : ValueSet.Distinct lefts)
    (distinctRight : ValueSet.Distinct rights) (held : ∀ left ∈ lefts, ValueSet.holds rights left = true)
    (heldBack : ∀ right ∈ rights, ValueSet.holds lefts right = true) :
    (set lefts == set rights) = true := by
  have symm : ∀ left ∈ lefts, ∀ right ∈ rights, (left == right) = (right == left) :=
    fun left member right among => (each left member).symm (eachRight right among)
  have back : ∀ right ∈ rights, ∀ left ∈ lefts, (right == left) = (left == right) :=
    fun right among left member => (symm left member right among).symm
  have fewer := length_le_of_held symm eachRight distinct held
  have more := length_le_of_held back each distinctRight heldBack
  exact set_equal_iff.mpr ⟨Nat.le_antisymm fewer more, held⟩

/-- A set made from a list holds what equals an element of the list. -/
theorem Tidy.holds_ofList {values : List Value} {value : Value} (tidy : middle.Tidy true)
    (member : middle ∈ values) (equal : (middle == value) = true) :
    (ValueSet.ofList values).holds value = true := by
  obtain ⟨item, among, rfl | same⟩ := ValueSet.exists_mem_ofList member
  · exact ValueSet.holds_iff.mpr ⟨item, among, equal⟩
  · exact ValueSet.holds_iff.mpr ⟨item, among, tidy.trans rfl item value same equal⟩

end Value

end PredicateRules
