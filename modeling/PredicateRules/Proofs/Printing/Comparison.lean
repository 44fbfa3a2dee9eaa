import PredicateRules.Predicate.Printer
import PredicateRules.Proofs.Printing.Constant

namespace PredicateRules

/-- Operands that are names, integers and strings; all of them can be written. -/
def Expression.IsOperand : Expression → Prop
  | .keyPath path => ∀ component ∈ KeyPath.components path.toList, KeyPath.IsName component
  | .constant (.int number) => number ≠ Int64.minValue
  | .constant (.string string) => '"' ∉ string.toList ∨ '\'' ∉ string.toList
  | _ => False

instance (operand : Expression) : Decidable operand.IsOperand :=
  match operand with
  | .keyPath path =>
    inferInstanceAs (Decidable (∀ component ∈ KeyPath.components path.toList,
      component ≠ [] ∧ ∀ character ∈ component, CharClass.identifier character = true))
  | .constant (.int number) => inferInstanceAs (Decidable (number ≠ Int64.minValue))
  | .constant (.string string) =>
    inferInstanceAs (Decidable ('"' ∉ string.toList ∨ '\'' ∉ string.toList))
  | .constant .null | .constant (.bool _) | .constant (.float _) | .constant (.dateTime _)
  | .constant (.list _) | .constant (.set _) | .constant (.map _) | .constant (.object _)
  | .constant (.function _) | .selfReference | .variable _ | .call .. | .custom .. | .aggregate _
  | .set .. => isFalse nofun

/-- Comparisons that can be written. -/
structure Comparison.IsPlain (comparison : Comparison) : Prop where
  left : comparison.left.IsOperand
  right : comparison.right.IsOperand
  operator : comparison.operator ≠ .customSelector
  options : comparison.options.normalized = false

instance (comparison : Comparison) : Decidable comparison.IsPlain :=
  decidable_of_iff (comparison.left.IsOperand ∧ comparison.right.IsOperand ∧
      comparison.operator ≠ .customSelector ∧ comparison.options.normalized = false)
    ⟨fun ⟨left, right, operator, options⟩ => ⟨left, right, operator, options⟩,
      fun ⟨left, right, operator, options⟩ => ⟨left, right, operator, options⟩⟩

namespace Parse

variable {α : Type} {caseSensitive : Bool} {text rest behind : List Char} {which : Parser → Nat}
  {nested : Parse Expression}

theorem denotes_operand {operand : Expression} (describe : Object → String)
    (isOperand : operand.IsOperand) :
    Denotes caseSensitive (operand.text describe).toList operand := by
  cases operand with
  | keyPath path =>
      exact denotes_keyPath (KeyPath.written_of_components fun component member =>
        .inl (isOperand component member))
  | constant value =>
      cases value with
      | int number => exact denotes_int isOperand
      | string string => exact denotes_string isOperand
      | _ => exact isOperand.elim
  | _ => exact isOperand.elim

theorem meetsWord_space {word : List Char} (solid : ∀ character ∈ word, Mark.of character ≠ .space)
    (text rest : List Char) :
    meetsWord caseSensitive word (text ++ ' ' :: rest) =
      meetsWord caseSensitive word (text ++ [' ']) := by
  unfold meetsWord
  rw [Scanner.startsWith_append solid (by simp), Scanner.startsWith_append solid (by simp)]
  cases starts : Scanner.startsWith caseSensitive word text with
  | false => rfl
  | true =>
      have shorter := (Scanner.startsWith_marks starts).1
      rw [List.drop_append_of_le_length shorter, List.drop_append_of_le_length shorter]
      cases text.drop word.length <;> rfl

theorem firstMet_space {words : List (String × α)}
    (solid : ∀ entry ∈ words, ∀ character ∈ entry.1.toList, Mark.of character ≠ .space)
    (text rest : List Char) :
    firstMet caseSensitive words (text ++ ' ' :: rest) =
      firstMet caseSensitive words (text ++ [' ']) := by
  induction words with
  | nil => rfl
  | cons entry words ih =>
      have others := ih fun other member => solid other (by simp [member])
      unfold firstMet at others ⊢
      rw [List.find?_cons, List.find?_cons, meetsWord_space (solid entry (by simp)), others]

/-- The words that a term is not read as an operand after. -/
def termWords : List String :=
  ["NOT", "!", "TRUEPREDICATE", "FALSEPREDICATE", "ANY", "ALL", "NONE", "SOME"]

/-- The text begins with something solid that is none of the words for terms. -/
structure Wordless (caseSensitive : Bool) (text : List Char) : Prop where
  solid : ∀ first ∈ text.head?, CharClass.skipped first = false
  unmet : ∀ word ∈ termWords, meetsWord caseSensitive word.toList text = false

theorem Wordless.front (wordless : Wordless caseSensitive text) :
    text.dropWhile CharClass.skipped = text := by
  cases text with
  | nil => rfl
  | cons first text => simp [wordless.solid first rfl]

theorem wordless_symbol {first : Char} (solid : CharClass.skipped first = false)
    (symbol : Scanner.isSymbol first = true) (differs : first ≠ '!') (text : List Char) :
    Wordless caseSensitive (first :: text) := by
  refine ⟨fun other found => Option.some.inj found ▸ solid, fun word member => ?_⟩
  have kinds : ∀ word ∈ termWords, word = "!" ∨ word.toList.head?.any Char.isAlpha = true := by
    decide
  have silent : Silent word ((first :: text).dropWhile CharClass.skipped) := by
    rcases kinds word member with rfl | letter
    · exact silent_of_symbol solid symbol (.inl ⟨by decide, by simpa using differs.symm⟩)
    · exact silent_of_symbol solid symbol (.inr letter)
  rw [List.dropWhile_cons_of_neg (by simp [solid])] at silent
  rw [meetsWord, silent caseSensitive, Bool.false_and]

theorem wordless_component {name : List Char} (named : KeyPath.IsName name)
    (severed : KeyPath.Severed behind) :
    Wordless caseSensitive (KeyPath.componentText name ++ behind) := by
  unfold KeyPath.componentText
  cases escapes : KeyPath.needsEscape name with
  | true => exact wordless_symbol (by decide) (by decide) (by decide) _
  | false =>
      obtain ⟨first, tail, rfl⟩ := List.exists_cons_of_ne_nil named.1
      have own := named.2 first (by simp)
      have solid := CharClass.solid (by decide) own
      refine ⟨fun other found => Option.some.inj found ▸ solid, fun word member => ?_⟩
      have kinds : ∀ word ∈ termWords, word = "!" ∨ word ∈ KeyPath.reservedWords := by
        decide
      rcases kinds word member with rfl | reserved
      · have differs : first ≠ '!' := by
          rintro rfl
          exact absurd own (by decide)
        have silent : Scanner.startsWith caseSensitive "!".toList (first :: tail ++ behind) = false :=
          Scanner.startsWith_symbol (by decide) fun same => differs (Option.some.inj same)
        show meetsWord caseSensitive "!".toList (first :: tail ++ behind) = false
        rw [meetsWord, silent, Bool.false_and]
      · exact KeyPath.meetsWord_of_plain named severed escapes reserved

theorem text_components {first : List Char} {others : List (List Char)} {path : String}
    (split : KeyPath.components path.toList = first :: others) :
    ∃ tail, (KeyPath.text path).toList = KeyPath.componentText first ++ tail ∧
      ∀ character ∈ tail.head?, character = '.' := by
  unfold KeyPath.text
  rw [split]
  cases others with
  | nil => exact ⟨[], by simp, by simp⟩
  | cons next others =>
      refine ⟨'.' :: (".".intercalate ((next :: others).map fun component =>
        String.ofList (KeyPath.componentText component))).toList, ?_, by simp⟩
      simp only [List.map_cons, String.intercalate_cons_cons, String.toList_append, String.toList_ofList,
        List.append_assoc]
      rfl

theorem symbol_of_digit {digit : Char} (isDigit : digit.isDigit = true) :
    Scanner.isSymbol digit = true ∧ digit ≠ '!' := by
  have all : ∀ digit : Char, digit.toNat < 128 → digit.isDigit = true →
      Scanner.isSymbol digit = true ∧ digit ≠ '!' := forall_ascii (by decide +kernel)
  exact all digit (KeyPath.digit_low isDigit) isDigit

theorem wordless_keyPath {path : String}
    (each : ∀ component ∈ KeyPath.components path.toList, KeyPath.IsComponent component)
    (severed : KeyPath.Severed behind) :
    Wordless caseSensitive ((KeyPath.text path).toList ++ behind) := by
  cases split : KeyPath.components path.toList with
  | nil => exact absurd split (KeyPath.components_ne_nil _)
  | cons first others =>
      obtain ⟨tail, whole, pointed⟩ := text_components split
      have behindFirst : KeyPath.Severed (tail ++ behind) := by
        cases tail with
        | nil => exact severed
        | cons character tail =>
            obtain rfl := pointed character rfl
            exact severed_of_symbol (by decide) (by decide)
      rw [whole, List.append_assoc]
      rcases each first (by simp [split]) with named | ⟨sigil, named⟩
      · exact wordless_component named behindFirst
      · obtain ⟨name, rfl⟩ := List.head?_eq_some_iff.mp sigil
        rw [KeyPath.componentText_sigil]
        exact wordless_symbol (by decide) (by decide) (by decide) _

theorem keyPath_begins {path : String}
    (each : ∀ component ∈ KeyPath.components path.toList, KeyPath.IsComponent component) :
    ∃ first, ((KeyPath.text path).toList ++ behind).head? = some first ∧
      (CharClass.identifier first = true ∨ first ∈ ['#', '@']) := by
  cases split : KeyPath.components path.toList with
  | nil => exact absurd split (KeyPath.components_ne_nil _)
  | cons component others =>
      obtain ⟨tail, whole, _⟩ := text_components split
      rw [whole]
      rcases each component (by simp [split]) with named | ⟨sigil, _⟩
      · obtain ⟨first, letters, rfl⟩ := List.exists_cons_of_ne_nil named.1
        unfold KeyPath.componentText
        split
        · exact ⟨'#', rfl, .inr (by simp)⟩
        · exact ⟨first, rfl, .inl (named.2 first (by simp))⟩
      · obtain ⟨name, rfl⟩ := List.head?_eq_some_iff.mp sigil
        rw [KeyPath.componentText_sigil]
        exact ⟨'@', rfl, .inr (by simp)⟩

theorem wordless_operand {operand : Expression} (describe : Object → String)
    (isOperand : operand.IsOperand) (severed : KeyPath.Severed behind) :
    Wordless caseSensitive ((operand.text describe).toList ++ behind) := by
  cases operand with
  | keyPath path =>
      exact wordless_keyPath (fun component member => .inl (isOperand component member)) severed
  | constant value =>
      cases value with
      | int number =>
          show Wordless _ ((Value.intText number).toList ++ behind)
          unfold Value.intText
          by_cases signed : number.toInt < 0
          · simp only [signed, if_true, String.toList_append]
            exact wordless_symbol (by decide) (by decide) (by decide) _
          · simp only [signed, if_false, String.toList_ofList]
            obtain ⟨first, tail, digits⟩ := List.exists_cons_of_ne_nil
              (Nat.toDigits_ne_nil : Nat.toDigits 10 number.toInt.natAbs ≠ [])
            have isDigit : first.isDigit = true :=
              Nat.isDigit_of_mem_toDigits (by decide) (by decide) (digits ▸ List.mem_cons_self)
            rw [digits]
            exact wordless_symbol (CharClass.solid (by decide) isDigit) (symbol_of_digit isDigit).1
              (symbol_of_digit isDigit).2 _
      | string string =>
          show Wordless _ ((Value.quoted string).toList ++ behind)
          rw [toList_quoted]
          dsimp only
          split
          · exact wordless_symbol (by decide) (by decide) (by decide) _
          · exact wordless_symbol (by decide) (by decide) (by decide) _
      | _ => exact isOperand.elim
  | _ => exact isOperand.elim

/-- An operator with its options, as it is printed between two spaces. -/
def operatorWord (operator : ComparisonOperator) (options : ComparisonOptions) : String :=
  operator.symbol ++ options.text

theorem operatorWord_all : ∀ operator ∈ ComparisonOperator.all, operator ≠ .customSelector →
    ∀ caseInsensitive diacriticInsensitive,
      let word := operatorWord operator ⟨caseInsensitive, diacriticInsensitive, false⟩
      Solid word ∧ Halts word ∧ Unlike (suffixWords ++ joiningWords) word ∧
        ∀ caseSensitive, firstMet caseSensitive operatorWords (word.toList ++ [' ']) =
          some (operator.symbol, operator) := by
  decide +kernel

theorem operatorWords_solid : ∀ entry ∈ operatorWords, Solid entry.1 ∧
    ∀ character ∈ entry.1.toList, Mark.of character ≠ .space := by
  decide

section

variable {operator : ComparisonOperator} (printed : operator ≠ .customSelector)
  {options : ComparisonOptions} (plain : options.normalized = false)

include printed

theorem operatorWord_facts (options : ComparisonOptions) :
    Solid (operatorWord operator options) ∧
      Halts (operatorWord operator options) ∧
      Unlike (suffixWords ++ joiningWords) (operatorWord operator options) ∧
      ∀ caseSensitive,
        firstMet caseSensitive operatorWords ((operatorWord operator options).toList ++ [' ']) =
          some (operator.symbol, operator) := by
  have member : operator ∈ ComparisonOperator.all := by
    cases operator <;> decide
  obtain ⟨caseInsensitive, diacriticInsensitive, normalized⟩ := options
  exact operatorWord_all operator member printed caseInsensitive diacriticInsensitive

theorem ends_operator {text : List Char} (begins : (text.dropWhile CharClass.skipped).head? ≠ some ':')
    (options : ComparisonOptions) : Ends (spaced (operatorWord operator options) text) := by
  obtain ⟨solid, halts, unlike, _⟩ := operatorWord_facts printed options
  exact ⟨parted_spaced solid halts begins, behind_spaced solid (unlike.mono (by simp)),
    behind_spaced solid (unlike.mono (by simp))⟩

theorem operator_taken (options : ComparisonOptions) :
    Takes caseSensitive (spaced (operatorWord operator options) text) (firstKeyword operatorWords)
      (some operator) (options.text.toList ++ ' ' :: text) := by
  obtain ⟨_, _, _, met⟩ := operatorWord_facts printed options
  refine Takes.after_space ?_
  have whole : (operatorWord operator options).toList ++ ' ' :: text =
      operator.symbol.toList ++ (options.text.toList ++ ' ' :: text) := by
    simp [operatorWord]
  rw [whole]
  refine firstKeyword_taken (fun entry member => (operatorWords_solid entry member).1) ?_
  rw [← whole, firstMet_space fun entry member => (operatorWords_solid entry member).2]
  exact met caseSensitive

end

theorem options_taken {options : ComparisonOptions} (plain : options.normalized = false)
    (begins : (text.dropWhile CharClass.skipped).head? ≠ some '[') :
    Takes caseSensitive (options.text.toList ++ ' ' :: text) comparisonOptions options text := by
  obtain ⟨caseInsensitive, diacriticInsensitive, normalized⟩ := options
  obtain rfl : normalized = false := plain
  cases caseInsensitive <;> cases diacriticInsensitive
  · refine Takes.after_space ?_
    refine (literal_other "[cd]" (by decide) begins).bind ?_
    refine (literal_other "[c]" (by decide) begins).bind ?_
    exact (literal_other "[d]" (by decide) begins).bind (.pure _)
  · refine (literal_missing "[cd]" (by decide) (by cases caseSensitive <;> rfl)).bind ?_
    refine (literal_missing "[c]" (by decide) (by cases caseSensitive <;> rfl)).bind ?_
    exact (literal_taken "[d]" (by decide)).before_space.bind (.pure _)
  · refine (literal_missing "[cd]" (by decide) (by cases caseSensitive <;> rfl)).bind ?_
    exact (literal_taken "[c]" (by decide)).before_space.bind (.pure _)
  · exact (literal_taken "[cd]" (by decide)).before_space.bind (.pure _)

theorem modifierWords_solid : ∀ entry ∈ modifierWords, Solid entry.1 ∧ entry.1 ∈ termWords := by
  decide

theorem modifierWords_missing (wordless : Wordless caseSensitive text) :
    Takes caseSensitive text (firstKeyword modifierWords) none text := by
  refine firstKeyword_missing (fun entry member => (modifierWords_solid entry member).1) ?_
  rw [wordless.front]
  refine List.find?_eq_none.mpr fun entry member => ?_
  rw [wordless.unmet entry.1 (modifierWords_solid entry member).2]
  exact Bool.false_ne_true

theorem modifier_taken (modifier : ComparisonModifier) (wordless : Wordless caseSensitive text) :
    ∃ found, Takes caseSensitive (modifier.text.toList ++ text) (firstKeyword modifierWords) found text ∧
      found.getD (.direct, false) = (modifier, false) := by
  have severed : KeyPath.Severed (' ' :: text) := severed_of_symbol (by decide) (by decide)
  have solid := fun entry member => (modifierWords_solid entry member).1
  cases modifier with
  | direct => exact ⟨none, modifierWords_missing wordless, rfl⟩
  | any =>
      refine ⟨some (.any, false), Takes.before_space ?_, rfl⟩
      exact firstKeyword_taken solid (firstMet_self _ severed)
  | all =>
      refine ⟨some (.all, false), Takes.before_space ?_, rfl⟩
      change Takes caseSensitive ("ALL".toList ++ ' ' :: text) _ _ _
      refine firstKeyword_taken solid ?_
      unfold modifierWords
      rw [firstMet_unmet (by cases caseSensitive <;> rfl)]
      exact firstMet_self _ severed

theorem toList_comparison (describe : Object → String) (inner : Comparison) (rest : List Char) :
    (inner.text describe).toList ++ rest =
      inner.modifier.text.toList ++ ((inner.left.text describe).toList ++
        spaced (operatorWord inner.operator inner.options) ((inner.right.text describe).toList ++ rest)) := by
  simp [Comparison.text, operatorWord, spaced]

theorem comparison_between {left right : List Char} {leftOperand rightOperand : Expression}
    (closes : Closes caseSensitive left leftOperand) (closesRight : Closes caseSensitive right rightOperand)
    (wordless : ∀ {behind}, KeyPath.Severed behind → Wordless caseSensitive (left ++ behind))
    {operator : ComparisonOperator} (printed : operator ≠ .customSelector) {options : ComparisonOptions}
    (plain : options.normalized = false) (modifier : ComparisonModifier) (ends : Ends rest) :
    Takes caseSensitive
      (modifier.text.toList ++ (left ++ spaced (operatorWord operator options) (right ++ rest)))
      (comparison which) (.comparison ⟨leftOperand, rightOperand, modifier, operator, options⟩) rest := by
  have fertile := closesRight.not_barren ends
  have begins : ∀ first ∈ ":[".toList,
      ((right ++ rest).dropWhile CharClass.skipped).head? ≠ some first := by
    intro first member same
    have all : ∀ first ∈ ":[".toList, (Scanner.isSymbol first &&
        !CharClass.identifier first && !operandSymbols.toList.contains first) = true := by
      decide
    refine fertile ?_
    unfold Barren
    rw [same]
    exact all first member
  have behindLeft := ends_operator printed (begins ':' (by decide)) options
  obtain ⟨found, modifierTaken, meaning⟩ :=
    modifier_taken modifier (wordless behindLeft.parted.detached.1)
  unfold comparison
  refine modifierTaken.bind ?_
  rw [meaning]
  refine (closes.nests.expression behindLeft).bind ?_
  refine (operator_taken printed options).bind ?_
  refine (options_taken plain (begins '[' (by decide))).bind ?_
  exact (closesRight.nests.expression ends).bind (.pure _)

theorem comparison_taken {inner : Comparison} (describe : Object → String) (plain : inner.IsPlain)
    (ends : Ends rest) :
    Takes caseSensitive ((inner.text describe).toList ++ rest) (comparison which) (.comparison inner)
      rest := by
  rw [toList_comparison]
  exact comparison_between (denotes_operand describe plain.left).closes
    (denotes_operand describe plain.right).closes
    (fun severed => wordless_operand describe plain.left severed) plain.operator plain.options
    inner.modifier ends

end Parse

end PredicateRules
