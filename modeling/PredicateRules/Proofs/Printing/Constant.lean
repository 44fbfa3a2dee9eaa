import PredicateRules.Proofs.Printing.Bracket

namespace PredicateRules

namespace Int64

theorem toInt_ofNat_of_le {number : Nat} (within : (number : Int) ≤ Int64.maxValue.toInt) :
    (Int64.ofNat number).toInt = number := by
  have most := Int64.toInt_lt Int64.maxValue
  exact Int64.toInt_ofNat_of_lt (by omega)

theorem ofNat_ne_minValue {number : Nat} (within : (number : Int) ≤ Int64.maxValue.toInt) :
    Int64.ofNat number ≠ Int64.minValue := by
  intro least
  have value := congrArg Int64.toInt least
  rw [toInt_ofNat_of_le within] at value
  have negative : Int64.minValue.toInt < 0 := by decide
  omega

theorem ofNat_natAbs {number : Int64} (unsigned : 0 ≤ number.toInt) :
    Int64.ofNat number.toInt.natAbs = number := by
  have same : (number.toInt.natAbs : Int) = number.toInt := Int.natAbs_of_nonneg unsigned
  rw [← Int64.ofInt_eq_ofNat, same, Int64.ofInt_toInt]

theorem neg_ofNat_natAbs {number : Int64} (signed : number.toInt < 0) :
    -Int64.ofNat number.toInt.natAbs = number := by
  have same : -(number.toInt.natAbs : Int) = number.toInt := by omega
  rw [← Int64.ofInt_eq_ofNat, ← Int64.ofInt_neg, same, Int64.ofInt_toInt]

theorem natAbs_le {number : Int64} (positive : number ≠ Int64.minValue) :
    (number.toInt.natAbs : Int) ≤ Int64.maxValue.toInt := by
  have low := Int64.le_toInt number
  have high := Int64.toInt_lt number
  have least : Int64.minValue.toInt = -2 ^ 63 := by decide
  have most : Int64.maxValue.toInt = 2 ^ 63 - 1 := by decide
  have differs : number.toInt ≠ -2 ^ 63 := by
    intro same
    exact positive (Int64.toInt_inj.mp (same.trans least.symm))
  omega

end Int64

namespace Parse

variable {caseSensitive : Bool} {text : List Char}

theorem denotes_printedWord {word : String} {meaning : Expression}
    (printed : (word, meaning) ∈ printedWords) : Denotes caseSensitive word.toList meaning :=
  denotes_simple fun _ _ _ parted => simple_printedWord printed parted.detached.1

theorem denotes_variable {name : String} (named : KeyPath.IsName name.toList) :
    Denotes caseSensitive ("$" ++ name).toList (.variable name) := by
  rw [String.toList_append]
  exact denotes_simple fun _ _ _ parted => simple_variable named parted.detached.1.stops

theorem denotes_string {string : String} (printable : '"' ∉ string.toList ∨ '\'' ∉ string.toList) :
    Denotes caseSensitive (Value.quoted string).toList (.constant (.string string)) :=
  denotes_simple fun _ _ _ _ => simple_string printable

theorem denotes_digits {number : Nat} (within : (number : Int) ≤ Int64.maxValue.toInt) :
    Denotes caseSensitive (Nat.toDigits 10 number) (.constant (.int (Int64.ofNat number))) :=
  denotes_simple fun _ _ _ parted => simple_digits within parted.detached

theorem denotes_int {number : Int64} (notLeast : number ≠ Int64.minValue) :
    Denotes caseSensitive (Value.intText number).toList (.constant (.int number)) := by
  have within := Int64.natAbs_le notLeast
  have digits : Denotes caseSensitive _ _ := denotes_digits within
  unfold Value.intText
  by_cases signed : number.toInt < 0
  · have negative : negated (.constant (.int (Int64.ofNat number.toInt.natAbs))) =
        .constant (.int number) := by
      rw [negated, if_neg (Int64.ofNat_ne_minValue within), Int64.neg_ofNat_natAbs signed]
    have brackets := denotes_enclosed (nests_negated digits.closes.nests)
    rw [negative] at brackets
    simpa [signed] using brackets
  · rw [Int64.ofNat_natAbs (by omega)] at digits
    simpa [signed] using digits

end Parse

namespace KeyPath

/-- What a key path has between its points: a name, also with an at sign before it. -/
def IsComponent (component : List Char) : Prop :=
  IsName component ∨ component.head? = some '@' ∧ IsName component.tail

instance (component : List Char) : Decidable (IsComponent component) :=
  inferInstanceAs (Decidable (IsName component ∨ component.head? = some '@' ∧ IsName component.tail))

theorem IsComponent.written {component : List Char} (isComponent : IsComponent component) :
    Written component := by
  rcases isComponent with named | ⟨sigil, named⟩
  · exact .name named
  · obtain ⟨name, rfl⟩ := List.head?_eq_some_iff.mp sigil
    exact .sigil named

theorem written_of_components {path : List Char}
    (each : ∀ component ∈ components path, IsComponent component) : Written path := by
  induction length : path.length using Nat.strongRecOn generalizing path with
  | ind count ih =>
      by_cases pointed : '.' ∈ path
      · obtain ⟨first, rest, rfl, solid⟩ := List.eq_append_cons_of_mem pointed
        rw [components_append, components_solid solid] at each
        have shorter : rest.length < count := by
          rw [← length, List.length_append, List.length_cons]
          omega
        exact .further (each first (by simp)).written
          (ih _ shorter (fun component member => each component (by simp [member])) rfl)
      · rw [components_solid pointed] at each
        exact (each path (by simp)).written

end KeyPath

end PredicateRules
