import PredicateRules.Proofs.Printing.Predicate

namespace PredicateRules

open PredicateRules.Parser

namespace Predicate

/-- Trees of plain comparisons that can be written: a negation has one part, another compound some. -/
inductive IsPrintable : Predicate → Prop where
  | value (holds : Bool) : IsPrintable (.value holds)
  | comparison {inner : Comparison} (plain : inner.IsPlain) : IsPrintable (.comparison inner)
  | negation {part : Predicate} (printable : IsPrintable part) : IsPrintable (negation part)
  | compound {kind : CompoundKind} (joins : kind ≠ .not) {first : Predicate} {others : List Predicate}
      (printable : ∀ part ∈ first :: others, IsPrintable part) :
      IsPrintable (compound kind (first :: others))

/-- Trees in which each conjunction and each disjunction has two parts or more and no part of its own
kind. -/
inductive IsFlat : Predicate → Prop where
  | value (holds : Bool) : IsFlat (.value holds)
  | comparison {inner : Comparison} (plain : inner.IsPlain) : IsFlat (.comparison inner)
  | negation {part : Predicate} (flat : IsFlat part) : IsFlat (negation part)
  | compound {kind : CompoundKind} (joins : kind ≠ .not) {first second : Predicate}
      {others : List Predicate} (flat : ∀ part ∈ first :: second :: others, IsFlat part)
      (apart : ∀ part ∈ first :: second :: others, part.partsOf? kind = none) :
      IsFlat (compound kind (first :: second :: others))

def joined (kind : CompoundKind) : List Predicate → Predicate
  | [] => compound kind []
  | first :: others => others.foldl (fold kind) first

mutual

/-- The tree that is read from the text: every compound takes in the parts of its own kind. -/
def spliced : Predicate → Predicate
  | value holds => value holds
  | comparison inner => comparison inner
  | compound .not parts => compound .not (splicedEach parts)
  | compound kind parts => joined kind (splicedEach parts)

def splicedEach : List Predicate → List Predicate
  | [] => []
  | part :: parts => spliced part :: splicedEach parts

end

theorem splicedEach_eq (parts : List Predicate) : splicedEach parts = parts.map spliced := by
  induction parts with
  | nil => rfl
  | cons part parts ih => rw [splicedEach, ih, List.map_cons]

theorem spliced_negation (part : Predicate) : (negation part).spliced = negation part.spliced := rfl

theorem spliced_compound {kind : CompoundKind} (joins : kind ≠ .not) (parts : List Predicate) :
    (compound kind parts).spliced = joined kind (parts.map spliced) := by
  cases kind with
  | not => exact absurd rfl joins
  | and => rw [spliced, splicedEach_eq]; nofun
  | or => rw [spliced, splicedEach_eq]; nofun

theorem enclosedTexts_eq (describe : Object → String) (parts : List Predicate) :
    enclosedTexts describe parts = parts.map fun part => Expression.inParentheses (part.text describe) := by
  induction parts with
  | nil => rfl
  | cons part parts ih => rw [enclosedTexts, ih, List.map_cons]

theorem foldl_compound {kind : CompoundKind} {parts : List Predicate}
    (apart : ∀ part ∈ parts, part.partsOf? kind = none) (read : List Predicate) :
    parts.foldl (fold kind) (compound kind read) = compound kind (read ++ parts) := by
  induction parts generalizing read with
  | nil => simp
  | cons part parts ih =>
      have own : (compound kind read).partsOf? kind = some read := if_pos rfl
      have joined : fold kind (compound kind read) part = compound kind (read ++ [part]) := by
        simp [fold, own, apart part (by simp)]
      rw [List.foldl_cons, joined, ih fun other member => apart other (by simp [member])]
      simp

theorem joined_apart {kind : CompoundKind} {first second : Predicate} {others : List Predicate}
    (apart : ∀ part ∈ first :: second :: others, part.partsOf? kind = none) :
    joined kind (first :: second :: others) = compound kind (first :: second :: others) := by
  have pair : fold kind first second = compound kind [first, second] := by
    simp [fold, apart first, apart second]
  rw [joined, List.foldl_cons, pair,
    foldl_compound fun part member => apart part (by simp [member])]
  rfl

theorem IsFlat.isPrintable {predicate : Predicate} (flat : predicate.IsFlat) : predicate.IsPrintable := by
  induction flat with
  | value holds => exact .value holds
  | comparison plain => exact .comparison plain
  | negation _ ih => exact .negation ih
  | compound joins _ _ ih => exact .compound joins ih

theorem IsFlat.spliced {predicate : Predicate} (flat : predicate.IsFlat) :
    predicate.spliced = predicate := by
  induction flat with
  | value => rfl
  | comparison => rfl
  | negation _ ih => rw [spliced_negation, ih]
  | compound joins _ apart ih =>
      rw [spliced_compound joins, List.map_congr_left ih, List.map_id', joined_apart apart]

end Predicate

namespace Parse

variable {caseSensitive : Bool} {text rest behind : List Char} {which : Parser → Nat}
  {term : Parse Predicate} {predicate : Predicate}

theorem opened?_word (word : String) (solid : Solid word) (differs : word.toList.head? ≠ some '(') :
    Takes caseSensitive (word.toList ++ rest) (opened? which term) none (word.toList ++ rest) := by
  refine opened?_missing ?_
  rw [solid.dropWhile]
  cases letters : word.toList with
  | nil => simp [Solid, letters] at solid
  | cons first letters' => simpa [letters] using differs

theorem IsTerm.value (describe : Object → String) (holds : Bool) :
    IsTerm caseSensitive (Predicate.text describe (.value holds)).toList (.value holds) := by
  intro which depth rest _ ends
  have stops : rest.head?.any CharClass.continuesKeyword = false :=
    Severed.stopsKeyword ends.parted.detached.1
  cases holds with
  | true =>
      show Takes caseSensitive ("TRUEPREDICATE".toList ++ rest) _ _ _
      refine (opened?_word "TRUEPREDICATE" (by decide) (by decide)).bind ?_
      refine (keyword_missing "NOT" (by decide) (by cases caseSensitive <;> rfl)).bind ?_
      refine (keyword_missing "!" (by decide) (by cases caseSensitive <;> rfl)).bind ?_
      exact (keyword_taken "TRUEPREDICATE" (by decide) fun _ => stops).bind (.pure _)
  | false =>
      show Takes caseSensitive ("FALSEPREDICATE".toList ++ rest) _ _ _
      refine (opened?_word "FALSEPREDICATE" (by decide) (by decide)).bind ?_
      refine (keyword_missing "NOT" (by decide) (by cases caseSensitive <;> rfl)).bind ?_
      refine (keyword_missing "!" (by decide) (by cases caseSensitive <;> rfl)).bind ?_
      refine (keyword_missing "TRUEPREDICATE" (by decide) (by cases caseSensitive <;> rfl)).bind ?_
      exact (keyword_taken "FALSEPREDICATE" (by decide) fun _ => stops).bind (.pure _)

theorem IsTerm.negation (isTerm : IsTerm caseSensitive text predicate) :
    IsTerm caseSensitive ("NOT".toList ++ ' ' :: text) (Predicate.negation predicate) := by
  intro which depth rest enough ends
  rw [List.append_assoc, List.cons_append, textWeight_append, textWeight_space] at enough
  rw [List.append_assoc, List.cons_append]
  have less : textWeight (text ++ rest) < depth := by
    have weight : textWeight "NOT".toList = 3 := by decide
    omega
  refine (opened?_word "NOT" (by decide) (by decide)).bind ?_
  refine (keyword_taken "NOT" (by decide) fun _ => rfl).before_space.bind ?_
  exact (supplies_termTo less text predicate rest isTerm (Nat.le_refl _) ends).bind (.pure _)

theorem termWith_modified {modifier : ComparisonModifier} (modified : modifier ≠ .direct)
    (takes : Takes caseSensitive (modifier.text.toList ++ text) (comparison which) predicate rest) :
    Takes caseSensitive (modifier.text.toList ++ text) (termWith which term) predicate rest := by
  cases modifier with
  | direct => exact absurd rfl modified
  | any =>
      refine termWith_comparison (head?_ne (by decide) (by decide)) ?_ takes
      simp only [leadingWords, List.forall_mem_cons]
      cases caseSensitive <;> exact ⟨rfl, rfl, rfl, rfl, nofun⟩
  | all =>
      refine termWith_comparison (head?_ne (by decide) (by decide)) ?_ takes
      simp only [leadingWords, List.forall_mem_cons]
      cases caseSensitive <;> exact ⟨rfl, rfl, rfl, rfl, nofun⟩

theorem IsTerm.comparison {inner : Comparison} (describe : Object → String) (plain : inner.IsPlain) :
    IsTerm caseSensitive (inner.text describe).toList (.comparison inner) := by
  intro which depth rest enough ends
  have taken : Takes caseSensitive _ (Parse.comparison which) (.comparison inner) rest :=
    comparison_taken describe plain ends
  by_cases modified : inner.modifier = .direct
  · have text : (inner.text describe).toList ++ rest = (inner.left.text describe).toList ++
        spaced (operatorWord inner.operator inner.options)
          ((inner.right.text describe).toList ++ rest) := by
      rw [toList_comparison, modified]
      rfl
    have severed := (detached_spaced (operatorWord inner.operator inner.options)
      ((inner.right.text describe).toList ++ rest)).1
    have wordless : Wordless caseSensitive _ := wordless_operand describe plain.left severed
    rw [text] at taken enough ⊢
    by_cases opens : ((inner.left.text describe).toList ++ spaced (operatorWord inner.operator inner.options)
        ((inner.right.text describe).toList ++ rest)).head? = some '('
    · obtain ⟨number, within, negative⟩ := operand_opens plain.left opens
      rw [negative] at taken enough ⊢
      rw [textWeight_cons (by decide)] at enough
      obtain ⟨depth, rfl⟩ : ∃ less, depth = less + 1 := ⟨depth - 1, by omega⟩
      exact (opened?_comparison (negative_rejected within) taken).bind (.pure _)
    · rw [← wordless.front] at opens
      exact termWith_comparison opens wordless.unled taken
  · rw [toList_comparison] at taken ⊢
    exact termWith_modified modified taken

def joinedText (word : String) : List (List Char) → List Char → List Char
  | [], rest => rest
  | text :: texts, rest => spaced word (text ++ joinedText word texts rest)

theorem joinedText_append (word : String) (texts : List (List Char)) (text rest : List Char) :
    joinedText word texts text ++ rest = joinedText word texts (text ++ rest) := by
  induction texts with
  | nil => rfl
  | cons first texts ih => simp [joinedText, spaced, ih]

section

variable {kind : CompoundKind} {word : String}
  (printed : (word, kind) ∈ [("AND", CompoundKind.and), ("OR", CompoundKind.or)])

include printed

theorem joinWord_facts :
    Solid word ∧ Halts word ∧ Unlike (suffixWords ++ joiningWords) word ∧
      ∀ caseSensitive, firstMet caseSensitive conjunctionWords (word.toList ++ [' ']) = some (word, kind) := by
  have all : ∀ entry ∈ [("AND", CompoundKind.and), ("OR", CompoundKind.or)],
      Solid entry.1 ∧ Halts entry.1 ∧ Unlike (suffixWords ++ joiningWords) entry.1 ∧
        ∀ caseSensitive, firstMet caseSensitive conjunctionWords (entry.1.toList ++ [' ']) = some entry := by
    decide
  exact all _ printed

theorem ends_joinWord (begins : (text.dropWhile CharClass.skipped).head? ≠ some ':') :
    Ends (spaced word text) := by
  obtain ⟨solid, halts, unlike, _⟩ := joinWord_facts printed
  exact ⟨parted_spaced solid halts begins, behind_spaced solid (unlike.mono (by simp)),
    behind_spaced solid (unlike.mono (by simp))⟩

theorem joinWord_taken : Takes caseSensitive (spaced word text) (firstKeyword conjunctionWords)
    (some kind) text := by
  obtain ⟨_, _, _, met⟩ := joinWord_facts printed
  have letters : ∀ entry ∈ conjunctionWords, ∀ character ∈ entry.1.toList,
      Mark.of character ≠ .space := by
    decide
  refine takes_spaced (firstKeyword_taken joinWords_solid ?_)
  rw [firstMet_space letters]
  exact met caseSensitive

/-- The texts that are joined, each of them a term that opens with a parenthesis. -/
abbrev JoinEach (caseSensitive : Bool) (texts : List (List Char)) (parts : List Predicate) : Prop :=
  List.Forall₂ (fun text part => text.head? = some '(' ∧ IsTerm caseSensitive text part) texts parts

variable {texts : List (List Char)} {parts : List Predicate}

theorem ends_joinedText (each : JoinEach caseSensitive texts parts) (ends : Ends rest) :
    Ends (joinedText word texts rest) := by
  cases each with
  | nil => exact ends
  | @cons first _ texts _ opens _ =>
      refine ends_joinWord printed ?_
      obtain ⟨tail, rfl⟩ := List.head?_eq_some_iff.mp opens.1
      exact head?_ne (by decide) (by decide)

theorem joinFrom_taken (each : JoinEach caseSensitive texts parts)
    (supplies : Supplies caseSensitive (textWeight (joinedText word texts rest)) term) (ends : Ends rest)
    (alone : Behind joinWords rest) (left : Predicate) :
    Repeats caseSensitive (joinedText word texts rest) (joinStep Predicate.fold term) left
      (parts.foldl (Predicate.fold kind) left) rest := by
  induction each generalizing left with
  | nil => exact joinFrom_done alone left
  | @cons first part texts parts isTerm others ih =>
      have less : textWeight (first ++ joinedText word texts rest) <
          textWeight (joinedText word (first :: texts) rest) :=
        textWeight_spaced (joinWord_facts printed).1 _
      have shorter : textWeight (joinedText word texts rest) ≤
          textWeight (first ++ joinedText word texts rest) := by
        rw [textWeight_append]
        exact Nat.le_add_left _ _
      have taken : Takes caseSensitive (first ++ joinedText word texts rest) term part _ :=
        supplies first part _ isTerm.2 (by omega) (ends_joinedText printed others ends)
      have further : Takes caseSensitive (joinedText word (first :: texts) rest) (furtherTerm term)
          (some (kind, part)) (joinedText word texts rest) :=
        (joinWord_taken printed).bind (taken.bind (.pure _))
      have step : Takes caseSensitive (joinedText word (first :: texts) rest)
          (joinStep Predicate.fold term left) (some (Predicate.fold kind left part)) _ :=
        further.bind (.pure _)
      refine .next step (by omega) (ih (fun text predicate rest isTerm within => ?_) _)
      exact supplies text predicate rest isTerm (by omega)

theorem IsTerms.joined {first : List Char} {part : Predicate} (isTerm : IsTerm caseSensitive first part)
    (each : JoinEach caseSensitive texts parts) :
    IsTerms caseSensitive (first ++ joinedText word texts []) (Predicate.joined kind (part :: parts)) := by
  intro term rest supplies ends alone
  have whole : (first ++ joinedText word texts []) ++ rest = first ++ joinedText word texts rest := by
    rw [List.append_assoc, joinedText_append, List.nil_append]
  rw [whole] at supplies ⊢
  have taken := supplies first part _ isTerm (Nat.le_refl _) (ends_joinedText printed each ends)
  refine taken.bind (joinFrom_taken printed each ?_ ends alone part).takes
  rw [textWeight_append] at supplies
  exact fun text predicate rest isTerm within => supplies text predicate rest isTerm (by omega)

omit printed in
theorem toList_intercalate {separator : String} (spaces : separator.toList = ' ' :: (word.toList ++ [' ']))
    (text : String) (texts : List String) :
    (separator.intercalate (text :: texts)).toList =
      text.toList ++ joinedText word (texts.map String.toList) [] := by
  induction texts generalizing text with
  | nil => simp [joinedText]
  | cons next texts ih =>
      rw [String.intercalate_cons_cons, String.toList_append, String.toList_append, ih, spaces]
      simp [joinedText, spaced]

end

theorem IsTerms.toList_enclosed {inner : String} (isTerms : IsTerms caseSensitive inner.toList predicate) :
    (Expression.inParentheses inner).toList.head? = some '(' ∧
      IsTerm caseSensitive (Expression.inParentheses inner).toList predicate := by
  rw [toList_inParentheses]
  exact ⟨rfl, isTerms.enclosed⟩

theorem enclosed_each (describe : Object → String) {parts : List Predicate}
    (isTerms : ∀ part ∈ parts, IsTerms caseSensitive (part.text describe).toList part.spliced) :
    JoinEach caseSensitive ((Predicate.enclosedTexts describe parts).map String.toList)
      (parts.map Predicate.spliced) := by
  rw [Predicate.enclosedTexts_eq, List.map_map]
  induction parts with
  | nil => exact .nil
  | cons part parts ih =>
      exact .cons (isTerms part (by simp)).toList_enclosed
        (ih fun other member => isTerms other (by simp [member]))

theorem toList_negation (describe : Object → String) (part : Predicate) :
    ((Predicate.negation part).text describe).toList =
      "NOT".toList ++ ' ' :: (Expression.inParentheses (part.text describe)).toList := by
  simp [Predicate.negation, Predicate.text, Predicate.enclosedTexts, Predicate.compoundText]

theorem toList_compound {kind : CompoundKind} (joins : kind ≠ .not) (describe : Object → String)
    (first : Predicate) (others : List Predicate) :
    ∃ word, (word, kind) ∈ [("AND", CompoundKind.and), ("OR", CompoundKind.or)] ∧
      ((Predicate.compound kind (first :: others)).text describe).toList =
        (Expression.inParentheses (first.text describe)).toList ++
          joinedText word ((Predicate.enclosedTexts describe others).map String.toList) [] := by
  cases kind with
  | not => exact absurd rfl joins
  | and =>
      have spaces : " AND ".toList = ' ' :: ("AND".toList ++ [' ']) := by decide
      refine ⟨"AND", by decide, ?_⟩
      simp only [Predicate.text, Predicate.compoundText, Predicate.enclosedTexts,
        toList_intercalate spaces]
  | or =>
      have spaces : " OR ".toList = ' ' :: ("OR".toList ++ [' ']) := by decide
      refine ⟨"OR", by decide, ?_⟩
      simp only [Predicate.text, Predicate.compoundText, Predicate.enclosedTexts,
        toList_intercalate spaces]

theorem printable_isTerms (describe : Object → String) (printable : predicate.IsPrintable) :
    IsTerms caseSensitive (predicate.text describe).toList predicate.spliced := by
  induction printable with
  | value holds => exact (IsTerm.value describe holds).terms
  | comparison plain => exact (IsTerm.comparison describe plain).terms
  | @negation part _ ih =>
      rw [toList_negation]
      exact ih.toList_enclosed.2.negation.terms
  | @compound kind joins first others _ ih =>
      obtain ⟨word, printed, letters⟩ := toList_compound joins describe first others
      have each := enclosed_each describe fun part member => ih part (List.mem_cons_of_mem _ member)
      rw [Predicate.spliced_compound joins, letters]
      exact IsTerms.joined printed (ih first (by simp)).toList_enclosed.2 each

theorem predicateWith_taken (isTerms : IsTerms caseSensitive text predicate) (ends : Ends rest)
    (alone : Behind joinWords rest) :
    Takes caseSensitive (text ++ rest) (predicateWith which) predicate rest :=
  isTerms _ rest supplies_termOf ends alone

end Parse

namespace Predicate

theorem parse_of_isTerms {text : String} {predicate : Predicate} {caseSensitive : Bool}
    (isTerms : Parse.IsTerms caseSensitive text.toList predicate) (arguments : List Value) :
    parse text arguments caseSensitive = .ok predicate := by
  have taken : Parse.Takes caseSensitive _ Parse.predicate predicate [] :=
    Parse.predicateWith_taken isTerms Parse.ends_nil (by decide)
  have whole : Parse.Takes caseSensitive _ (Parse.wholePredicate Parser.nextArgument) predicate [] :=
    taken.bind ((Parse.expectEnd_taken rfl).bind (.pure predicate))
  rw [List.append_nil] at whole
  obtain ⟨stop, same, _, _⟩ := whole _ (Parser.facing_ofText text arguments caseSensitive)
  rw [parse, same]

/-- Every tree that can be written is read from its text, with the parts spliced that are of their own
compound's kind. -/
theorem parse_text_spliced {predicate : Predicate} (printable : predicate.IsPrintable)
    (describe : Object → String) (arguments : List Value) (caseSensitive : Bool) :
    parse (predicate.text describe) arguments caseSensitive = .ok predicate.spliced :=
  parse_of_isTerms (Parse.printable_isTerms describe printable) arguments

/-- The text of a flat tree of plain comparisons denotes the tree. -/
theorem parse_text {predicate : Predicate} (flat : predicate.IsFlat) (describe : Object → String)
    (arguments : List Value) (caseSensitive : Bool) :
    parse (predicate.text describe) arguments caseSensitive = .ok predicate := by
  have read := parse_text_spliced flat.isPrintable describe arguments caseSensitive
  rwa [flat.spliced] at read

/-- Parentheses around a number beside those around predicates, and a name that is escaped. -/
theorem parse_text_negative :
    parse "((-5) < a.#any) AND (NOT ((ANY b CONTAINS[c] 'a\"b') OR (FALSEPREDICATE)))" [] true =
      .ok (conjunction [direct (.constant (.int (-5))) .lessThan (.keyPath "a.any"),
        negation (disjunction [comparison ⟨.keyPath "b", .constant (.string "a\"b"), .any, .contains,
          ⟨true, false, false⟩⟩, value false])]) := by
  have first : IsFlat (direct (.constant (.int (-5))) .lessThan (.keyPath "a.any")) :=
    .comparison (by decide)
  have second : IsFlat (comparison ⟨.keyPath "b", .constant (.string "a\"b"), .any, .contains,
      ⟨true, false, false⟩⟩) :=
    .comparison (by decide)
  have either := IsFlat.compound (by decide : CompoundKind.or ≠ .not)
    (List.forall_mem_cons.mpr ⟨second, List.forall_mem_cons.mpr ⟨.value false, List.forall_mem_nil _⟩⟩)
    (by decide)
  have flat := IsFlat.compound (by decide : CompoundKind.and ≠ .not)
    (List.forall_mem_cons.mpr ⟨first, List.forall_mem_cons.mpr ⟨either.negation, List.forall_mem_nil _⟩⟩)
    (by decide)
  exact parse_text flat (fun _ => "") [] true

end Predicate

end PredicateRules
