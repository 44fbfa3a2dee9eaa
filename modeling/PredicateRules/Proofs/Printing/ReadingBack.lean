import PredicateRules.Proofs.Printing.Legible
import PredicateRules.Proofs.Printing.Written

namespace PredicateRules

namespace Parse

variable {caseSensitive : Bool} {text rest : List Char}

theorem startsWith_before_symbol {word : List Char} (letters : ∀ letter ∈ word, letter.isAlpha = true)
    {symbol : Char} (symbolic : Scanner.isSymbol symbol = true) :
    Scanner.startsWith caseSensitive word (text ++ symbol :: rest) =
      Scanner.startsWith caseSensitive word text := by
  induction word generalizing text with
  | nil => rw [Scanner.startsWith, Scanner.startsWith]
  | cons expected word ih =>
      have letter := letters expected (by simp)
      cases text with
      | nil =>
          rw [List.nil_append, Scanner.startsWith_letter letter (by simpa using symbolic)]
          rfl
      | cons character text =>
          have others : Scanner.startsWith caseSensitive word (text ++ symbol :: rest) =
              Scanner.startsWith caseSensitive word text :=
            ih fun other member => letters other (by simp [member])
          simp only [List.cons_append, Scanner.startsWith, others]

theorem meetsWord_before_symbol {word : List Char} (letters : ∀ letter ∈ word, letter.isAlpha = true)
    {symbol : Char} (symbolic : Scanner.isSymbol symbol = true)
    (apart : CharClass.continuesKeyword symbol = false) :
    meetsWord caseSensitive word (text ++ symbol :: rest) = meetsWord caseSensitive word text := by
  unfold meetsWord
  rw [startsWith_before_symbol letters symbolic]
  cases starts : Scanner.startsWith caseSensitive word text with
  | false => rfl
  | true =>
      rw [List.drop_append_of_le_length (Scanner.startsWith_marks starts).1]
      cases text.drop word.length with
      | nil => simp [apart]
      | cons character behind => rfl

variable {describe : Object → String} {tree again target read : Expression}
  {items agains : List Expression}

/-- The text of the tree is read as another one that is equal. -/
structure ReadsAs (describe : Object → String) (caseSensitive : Bool) (tree again : Expression) : Prop where
  equal : (again == tree) = true
  closes : Closes caseSensitive (tree.text describe).toList again
  denotes : tree.isNegativeZero = false → Denotes caseSensitive (tree.text describe).toList again

theorem ReadsAs.everywhere (equal : (again == tree) = true)
    (denotes : Denotes caseSensitive (tree.text describe).toList again) :
    ReadsAs describe caseSensitive tree again :=
  ⟨equal, denotes.closes, fun _ => denotes⟩

section

abbrev ReadEach (describe : Object → String) (caseSensitive : Bool) (items agains : List Expression) : Prop :=
  List.Forall₂ (ReadsAs describe caseSensitive) items agains

theorem exists_readEach (reads : ∀ item ∈ items, ∃ again, ReadsAs describe caseSensitive item again) :
    ∃ agains, ReadEach describe caseSensitive items agains := by
  induction items with
  | nil => exact ⟨[], .nil⟩
  | cons item items ih =>
      obtain ⟨again, first⟩ := reads item (by simp)
      obtain ⟨agains, others⟩ := ih fun other member => reads other (by simp [member])
      exact ⟨again :: agains, .cons first others⟩

theorem ReadEach.equal (each : ReadEach describe caseSensitive items agains) :
    Expression.equalsEach agains items = true := by
  induction each with
  | nil => rfl
  | cons first _ ih =>
      rw [Expression.equalsEach, Bool.and_eq_true]
      exact ⟨first.equal, ih⟩

theorem ReadEach.call (each : ReadEach describe caseSensitive items agains) (function : Builtin) :
    (Expression.call function agains == .call function items) = true := by
  show (function == function && Expression.equalsEach agains items) = true
  simp [each.equal]

theorem ReadEach.closes (each : ReadEach describe caseSensitive items agains) :
    CloseEach caseSensitive ((Expression.texts describe items).map String.toList) agains := by
  induction each with
  | nil => exact .nil
  | cons first _ ih => exact .cons first.closes ih

theorem readsAs_aggregate (each : ReadEach describe caseSensitive items agains) :
    ReadsAs describe caseSensitive (.aggregate items) (.aggregate agains) := by
  refine .everywhere each.equal ?_
  rw [Expression.text, toList_inBraces]
  exact denotes_aggregate each.closes

theorem denotes_named {name : String} {texts : List String} {call : Expression}
    (plain : KeyPath.text name = name) (written : KeyPath.Written name.toList)
    (closes : CloseEach caseSensitive (texts.map String.toList) agains)
    (named : namedCall caseSensitive name agains = .ok call) :
    Denotes caseSensitive (name ++ Expression.inParentheses (Value.commaSeparated texts)).toList call := by
  have denotes := denotes_call written closes named
  rwa [plain, ← toList_commaSeparated, ← toList_inParentheses, ← String.toList_append] at denotes

theorem readsAs_selector {function : Builtin}
    (plain : ∀ texts : List String, texts.length = items.length →
      Expression.callText function texts =
        function.selector ++ Expression.inParentheses (Value.commaSeparated texts))
    (each : ReadEach describe caseSensitive items agains) :
    ReadsAs describe caseSensitive (.call function items) (.call function agains) := by
  have written : Expression.text describe (.call function items) =
      function.selector ++ Expression.inParentheses (Value.commaSeparated (Expression.texts describe items)) :=
    plain _ (by simp [Expression.texts_eq])
  refine .everywhere (each.call function) ?_
  rw [written]
  exact denotes_named function.keyPathText_selector function.selector_written each.closes
    (function.namedCall_selector caseSensitive agains)

theorem readsAs_custom {selector : String} (unquoted : '"' ∉ selector.toList)
    (operand : ReadsAs describe caseSensitive target read) (each : ReadEach describe caseSensitive items agains) :
    ReadsAs describe caseSensitive (.custom target selector items) (.custom read selector agains) := by
  refine .everywhere ?_ ?_
  · show (Expression.equals read target && selector == selector && Expression.equalsEach agains items) = true
    have equal : Expression.equals read target = true := operand.equal
    simp [equal, each.equal]
  · have closes : CloseEach caseSensitive ((Expression.text describe target :: ("\"" ++ selector ++ "\"") ::
        Expression.texts describe items).map String.toList)
        (read :: .constant (.string selector) :: agains) := by
      refine .cons operand.closes (.cons ?_ each.closes)
      have quoted : Denotes caseSensitive (Value.quoted selector).toList (.constant (.string selector)) :=
        denotes_string (.inl unquoted)
      rw [Value.quoted, if_neg unquoted] at quoted
      exact quoted.closes
    have keyword : isCustomKeyword caseSensitive Expression.customKeyword = true := by
      cases caseSensitive <;> decide +kernel
    refine denotes_named (by decide +kernel) (.name (by decide)) closes ?_
    unfold namedCall
    rw [if_pos keyword]

end

variable {left right readLeft readRight : Expression}

theorem readsAs_operation {sign : String} (text : tree.text describe =
      Expression.operation sign (left.text describe) (right.text describe))
    (equal : (again == tree) = true)
    (taken : ∀ which depth rest, Ends rest →
      textWeight ((left.text describe).toList ++ spaced sign ((right.text describe).toList ++ rest)) ≤ depth →
      Takes caseSensitive ((left.text describe).toList ++ spaced sign ((right.text describe).toList ++ rest))
        (binary which (expressionTo which depth)) again rest) :
    ReadsAs describe caseSensitive tree again := by
  refine .everywhere equal ?_
  have inner : (left.text describe ++ " " ++ sign ++ " " ++ right.text describe).toList =
      (left.text describe).toList ++ spaced sign (right.text describe).toList := by
    simp [spaced]
  rw [text, Expression.operation, toList_inParentheses, inner]
  refine denotes_enclosed fun which depth rest enough ends => ?_
  have whole : (left.text describe).toList ++ spaced sign (right.text describe).toList ++ rest =
      (left.text describe).toList ++ spaced sign ((right.text describe).toList ++ rest) := by
    simp [spaced]
  rw [whole] at enough ⊢
  exact taken which depth rest ends enough

theorem signed_taken {function : Builtin} {sign : String} (signed : function.sign? = some sign)
    {which : Parser → Nat} {depth : Nat} {first second : List Char}
    (denotes : Denotes caseSensitive first left) (closes : Closes caseSensitive second right)
    (ends : Ends rest) (enough : textWeight (first ++ spaced sign (second ++ rest)) ≤ depth) :
    Takes caseSensitive (first ++ spaced sign (second ++ rest)) (binary which (expressionTo which depth))
      (.call function [left, right]) rest := by
  cases function <;> cases signed
  case add.refl => exact sum_taken denotes closes ends (by decide) enough
  case subtract.refl => exact sum_taken denotes closes ends (by decide) enough
  case multiply.refl => exact product_taken denotes closes ends (by decide) enough
  case divide.refl => exact product_taken denotes closes ends (by decide) enough
  case raiseToPower.refl => exact power_taken denotes closes ends enough

theorem readsAs_signed {function : Builtin} {sign : String} (signed : function.sign? = some sign)
    (positive : left.isNegativeZero = false) (reads : ReadsAs describe caseSensitive left readLeft)
    (readsRight : ReadsAs describe caseSensitive right readRight) :
    ReadsAs describe caseSensitive (.call function [left, right]) (.call function [readLeft, readRight]) := by
  have each : ReadEach describe caseSensitive [left, right] [readLeft, readRight] :=
    .cons reads (.cons readsRight .nil)
  refine readsAs_operation (Expression.callText_operation signed _ _) (each.call function)
    fun which depth rest ends enough => ?_
  exact signed_taken signed (reads.denotes positive) readsRight.closes ends enough

theorem readsAs_set {operation : SetOperation} (positive : left.isNegativeZero = false)
    (reads : ReadsAs describe caseSensitive left readLeft)
    (readsRight : ReadsAs describe caseSensitive right readRight) :
    ReadsAs describe caseSensitive (.set operation left right) (.set operation readLeft readRight) := by
  refine readsAs_operation rfl ?_ fun which depth rest ends enough => ?_
  · have equal : Expression.equals readLeft left = true := reads.equal
    have equalRight : Expression.equals readRight right = true := readsRight.equal
    show (operation == operation && Expression.equals readLeft left && Expression.equals readRight right) = true
    simp [equal, equalRight]
  · exact set_taken (reads.denotes positive) readsRight.closes ends operation enough

theorem isNumber_of_equal_constants {value other : Value} (equal : (other == value) = true) :
    (Expression.constant other).isNumber = (Expression.constant value).isNumber := by
  cases other <;> cases value <;> first | rfl | cases equal

theorem isNumber_of_equal (equal : (again == tree) = true) : again.isNumber = tree.isNumber := by
  cases tree with
  | constant value =>
      cases again with
      | constant other => exact isNumber_of_equal_constants equal
      | _ => cases equal
  | _ =>
      cases again with
      | constant => cases equal
      | _ => rfl

theorem negated_of_not_number (none : tree.isNumber = false) : negated tree = .call .changeSign [tree] := by
  unfold negated
  split
  · cases none
  · cases none
  · rfl

theorem readsAs_negation (notNumber : target.isNumber = false) (reads : ReadsAs describe caseSensitive target read) :
    ReadsAs describe caseSensitive (.call .changeSign [target]) (.call .changeSign [read]) := by
  have each : ReadEach describe caseSensitive [target] [read] := .cons reads .nil
  have written : (Expression.text describe (.call .changeSign [target])).toList =
      '(' :: ('-' :: (target.text describe).toList ++ [')']) := by
    show (Expression.inParentheses ("-" ++ target.text describe)).toList = _
    rw [toList_inParentheses, String.toList_append]
    rfl
  have negative : negated read = .call .changeSign [read] :=
    negated_of_not_number ((isNumber_of_equal reads.equal).trans notNumber)
  refine .everywhere (each.call .changeSign) ?_
  rw [written, ← negative]
  exact denotes_enclosed (nests_negated reads.closes.nests)

theorem position_letters : ∀ word ∈ ["FIRST", "LAST", "SIZE"], Solid word ∧
    ∀ letter ∈ word.toList, letter.isAlpha = true := by
  decide

theorem position_taken {nested : Parse Expression} {element : Expression}
    (unlike : ∀ word ∈ ["FIRST", "LAST", "SIZE"],
      meetsWord caseSensitive word.toList (text.dropWhile CharClass.skipped) = false)
    (takes : Takes caseSensitive (text ++ ']' :: rest) nested element (']' :: rest)) :
    Takes caseSensitive (text ++ ']' :: rest) (position nested target) (.call .index [target, element])
      (']' :: rest) := by
  have front : (text ++ ']' :: rest).dropWhile CharClass.skipped =
      text.dropWhile CharClass.skipped ++ ']' :: rest := by
    rw [List.dropWhile_append]
    split
    next none =>
      rw [List.isEmpty_iff.mp none]
      rfl
    next => rfl
  have missing : ∀ word ∈ ["FIRST", "LAST", "SIZE"],
      Takes caseSensitive (text ++ ']' :: rest) (keyword word) false (text ++ ']' :: rest) := by
    intro word member
    obtain ⟨solid, letters⟩ := position_letters word member
    refine keyword_missing word solid ?_
    rw [front, meetsWord_before_symbol letters (by decide) (by decide)]
    exact unlike word member
  refine (missing "FIRST" (by decide)).bind ?_
  refine (missing "LAST" (by decide)).bind ?_
  refine (missing "SIZE" (by decide)).bind ?_
  exact takes.bind (.pure _)

theorem readsAs_index {place element : Expression} (positive : target.isNegativeZero = false)
    (unlike : Expression.opensWithPositionWord caseSensitive (place.text describe) = false)
    (reads : ReadsAs describe caseSensitive target read) (readsPlace : ReadsAs describe caseSensitive place element) :
    ReadsAs describe caseSensitive (.call .index [target, place]) (.call .index [read, element]) := by
  have unmet : ∀ word ∈ ["FIRST", "LAST", "SIZE"], meetsWord caseSensitive word.toList
      ((place.text describe).toList.dropWhile CharClass.skipped) = false := by
    simpa only [Expression.opensWithPositionWord, List.any_eq_false, Bool.not_eq_true] using unlike
  have each : ReadEach describe caseSensitive [target, place] [read, element] :=
    .cons reads (.cons readsPlace .nil)
  refine .everywhere (each.call .index) ?_
  have written : (Expression.text describe (.call .index [target, place])).toList =
      (target.text describe).toList ++ '[' :: ((place.text describe).toList ++ [']']) := by
    show (target.text describe ++ "[" ++ place.text describe ++ "]").toList = _
    simp
  rw [written]
  refine denotes_subscript (reads.denotes positive) fun which depth behind enough => ?_
  exact position_taken unmet (readsPlace.closes.nests.expressionTo enough (ends_closer (by decide) behind))

theorem position_word_taken {nested : Parse Expression} {word : String} {function : Builtin}
    (worded : (word, function) ∈ [("FIRST", Builtin.indexFirst), ("LAST", .indexLast)]) :
    Takes caseSensitive (word.toList ++ ']' :: rest) (position nested target) (.call function [target])
      (']' :: rest) := by
  simp only [List.mem_cons, Prod.mk.injEq, List.not_mem_nil, or_false] at worded
  rcases worded with ⟨rfl, rfl⟩ | ⟨rfl, rfl⟩
  · exact (keyword_taken "FIRST" (by decide) fun _ => rfl).bind (.pure _)
  · have missing : Takes caseSensitive ("LAST".toList ++ ']' :: rest) (keyword "FIRST") false
        ("LAST".toList ++ ']' :: rest) :=
      keyword_missing "FIRST" (by decide) (by cases caseSensitive <;> rfl)
    exact missing.bind ((keyword_taken "LAST" (by decide) fun _ => rfl).bind (.pure _))

theorem readsAs_element {word : String} {function : Builtin}
    (worded : (word, function) ∈ [("FIRST", Builtin.indexFirst), ("LAST", .indexLast)])
    (positive : target.isNegativeZero = false) (reads : ReadsAs describe caseSensitive target read) :
    ReadsAs describe caseSensitive (.call function [target]) (.call function [read]) := by
  have each : ReadEach describe caseSensitive [target] [read] := .cons reads .nil
  have written : (Expression.text describe (.call function [target])).toList =
      (target.text describe).toList ++ '[' :: (word.toList ++ [']']) := by
    simp only [List.mem_cons, Prod.mk.injEq, List.not_mem_nil, or_false] at worded
    rcases worded with ⟨rfl, rfl⟩ | ⟨rfl, rfl⟩ <;> simp [Expression.text, Expression.texts, Expression.callText]
  refine .everywhere (each.call function) ?_
  rw [written]
  exact denotes_subscript (reads.denotes positive) fun which depth behind _ => position_word_taken worded

theorem exists_readsAs_constant {value : Value} (literal : value.IsLiteral)
    (legible : (Expression.constant value).isLegible describe caseSensitive = true) :
    ∃ again, ReadsAs describe caseSensitive (.constant value) again := by
  cases value with
  | null =>
      have printed : ("NULL", Expression.constant .null) ∈ printedWords := by simp [printedWords]
      exact ⟨.constant .null, .everywhere rfl (denotes_printedWord printed)⟩
  | bool value =>
      have printed : ((Value.bool value).text describe, Expression.constant (.bool value)) ∈ printedWords := by
        cases value <;> simp [printedWords, Value.text]
      refine ⟨.constant (.bool value), .everywhere ?_ (denotes_printedWord printed)⟩
      show (value == value) = true
      simp
  | int number =>
      refine ⟨.constant (.int number), .everywhere ?_ (denotes_int literal)⟩
      show (number == number) = true
      simp
  | float number =>
      obtain ⟨again, equal, reads⟩ := exists_read_float legible
      exact ⟨.constant again, equal, (reads caseSensitive).1, (reads caseSensitive).2⟩
  | string text =>
      refine ⟨.constant (.string text), .everywhere ?_ (denotes_string literal)⟩
      show (text == text) = true
      simp
  | _ => cases literal

theorem exists_readsAs_call {function : Builtin}
    (legible : Expression.callIsLegible describe caseSensitive function items = true)
    (each : ReadEach describe caseSensitive items agains) :
    ReadsAs describe caseSensitive (.call function items) (.call function agains) := by
  cases Expression.callShape function items with
  | selector plain => exact readsAs_selector plain each
  | negation operand =>
      obtain _ | ⟨reads, ⟨⟩⟩ := each
      exact readsAs_negation (by simpa [Expression.callIsLegible] using legible) reads
  | index target position =>
      obtain _ | ⟨reads, _ | ⟨readsPlace, ⟨⟩⟩⟩ := each
      simp only [Expression.callIsLegible, Bool.and_eq_true, Bool.not_eq_true'] at legible
      exact readsAs_index legible.1 legible.2 reads readsPlace
  | element worded target =>
      obtain _ | ⟨reads, ⟨⟩⟩ := each
      rw [Expression.callIsLegible_element worded, Bool.not_eq_true'] at legible
      exact readsAs_element worded legible reads
  | operation signed left right =>
      obtain _ | ⟨reads, _ | ⟨readsRight, ⟨⟩⟩⟩ := each
      rw [Expression.callIsLegible_signed signed, Bool.not_eq_true'] at legible
      exact readsAs_signed signed legible reads readsRight

/-- The text of what was read and tells it apart is read again, as an equal expression. -/
theorem exists_readsAs (written : tree.Written) (legible : tree.isLegible describe caseSensitive = true) :
    ∃ again, ReadsAs describe caseSensitive tree again := by
  induction written with
  | constant literal => exact exists_readsAs_constant literal legible
  | selfReference =>
      have printed : ("SELF", Expression.selfReference) ∈ printedWords := by simp [printedWords]
      exact ⟨.selfReference, .everywhere rfl (denotes_printedWord printed)⟩
  | @variableName name named =>
      refine ⟨.variable name, .everywhere ?_ (denotes_variable named)⟩
      show (name == name) = true
      simp
  | @keyPath path written =>
      refine ⟨.keyPath path, .everywhere ?_ (denotes_keyPath written)⟩
      show (path == path) = true
      simp
  | @call function arguments _ ih =>
      rw [Expression.isLegible, Bool.and_eq_true, Expression.eachIsLegible_iff] at legible
      obtain ⟨agains, each⟩ := exists_readEach fun argument member =>
        ih argument member (legible.2 argument member)
      exact ⟨_, exists_readsAs_call legible.1 each⟩
  | @custom operand selector arguments _ _ ihOperand ih =>
      rw [Expression.isLegible, Bool.and_eq_true, Bool.and_eq_true, Expression.eachIsLegible_iff] at legible
      obtain ⟨read, reads⟩ := ihOperand legible.1.2
      obtain ⟨agains, each⟩ := exists_readEach fun argument member =>
        ih argument member (legible.2 argument member)
      exact ⟨_, readsAs_custom (of_decide_eq_true legible.1.1) reads each⟩
  | @aggregate items _ ih =>
      rw [Expression.isLegible, Expression.eachIsLegible_iff] at legible
      obtain ⟨agains, each⟩ := exists_readEach fun item member => ih item member (legible item member)
      exact ⟨_, readsAs_aggregate each⟩
  | @set operation left right _ _ ih ihRight =>
      simp only [Expression.isLegible, Bool.and_eq_true, Bool.not_eq_true'] at legible
      obtain ⟨readLeft, reads⟩ := ih legible.1.2
      obtain ⟨readRight, readsRight⟩ := ihRight legible.2
      exact ⟨_, readsAs_set legible.1.1 reads readsRight⟩

end Parse

namespace Expression

/-- Where each part of a text is followed by its end, the whole of it is accepted. -/
theorem parse_of_nests {text : String} {arguments : List Value} {caseSensitive : Bool} {tree : Expression}
    (nests : Parse.Nests caseSensitive text.toList tree) :
    parse text arguments caseSensitive = .ok tree := by
  have whole : Parse.Takes caseSensitive text.toList (do
      let expression ← Parse.expression
      Parse.expectEnd
      return expression) tree [] := by
    have taken : Parse.Takes caseSensitive (text.toList ++ []) Parse.expression tree [] :=
      nests.expression Parse.ends_nil
    rw [List.append_nil] at taken
    exact taken.bind ((Parse.expectEnd_taken rfl).bind (.pure _))
  obtain ⟨stop, outcome, _⟩ := whole _ (Parser.facing_ofText text arguments caseSensitive)
  unfold parse
  simp only [outcome]

/-- Whatever was read from a text without arguments is read back from its own text, as an equal
expression, if that text tells it apart. -/
theorem text_reads_back {text : String} {caseSensitive : Bool} {tree : Expression}
    (accepted : parse text [] caseSensitive = .ok tree) (describe : Object → String)
    (legible : tree.isLegible describe caseSensitive = true) :
    ∃ again, parse (tree.text describe) [] caseSensitive = .ok again ∧ (again == tree) = true := by
  obtain ⟨again, reads⟩ := Parse.exists_readsAs (written_of_parse accepted) legible
  exact ⟨again, parse_of_nests reads.closes.nests, reads.equal⟩

/-- A key path, a call, a subscript and a number below zero, with case significant. -/
theorem text_reads_back_subscript : ∃ tree, parse "max:(a.#any, -2.5)[i] + $x" [] true = .ok tree ∧
    tree.isLegible (fun _ => "") true = true ∧
      ∃ again, parse (tree.text fun _ => "") [] true = .ok again ∧ (again == tree) = true := by
  have accepted : (match parse "max:(a.#any, -2.5)[i] + $x" [] true with
      | .ok tree => tree.isLegible (fun _ => "") true
      | .error _ => false) = true := by
    decide +kernel
  split at accepted
  next tree outcome => exact ⟨tree, outcome, accepted, text_reads_back outcome (fun _ => "") accepted⟩
  next => cases accepted

/-- A text for each thing that makes a difference: a key that is a word for a position, a sign before a
number, a negative zero before a sign, an infinite number, and a quotation mark in a selector. -/
theorem text_not_read_back :
    ["a[#FIRST]", "chs(5)", "(-0.0) + 1", "1e999", "FUNCTION(a, 'b\"c')"].Forall fun text =>
      ∃ tree, parse text [] true = .ok tree ∧
        ∀ again, parse (tree.text fun _ => "") [] true = .ok again → (again == tree) = false := by
  have differs : ∀ text ∈ ["a[#FIRST]", "chs(5)", "(-0.0) + 1", "1e999", "FUNCTION(a, 'b\"c')"],
      (match parse text [] true with
        | .ok tree => (match parse (tree.text fun _ => "") [] true with
          | .ok again => !(again == tree)
          | .error _ => true)
        | .error _ => false) = true := by
    decide +kernel
  refine List.forall_iff_forall_mem.mpr fun text member => ?_
  have accepted := differs text member
  split at accepted
  next tree outcome =>
    refine ⟨tree, outcome, fun again read => ?_⟩
    rw [read] at accepted
    simpa using accepted
  next => cases accepted

end Expression

end PredicateRules
