import Mathlib.Data.List.Forall2
import PredicateRules.Proofs.Printing.Expression

namespace PredicateRules

namespace Parse

variable {α : Type} {caseSensitive : Bool} {text rest behind : List Char} {which : Parser → Nat}
  {nested : Parse Expression}

def closers : String := ")]\x7d\x7b,;"

theorem closers_apart : ∀ first ∈ closers.toList, Scanner.isSymbol first = true ∧
    CharClass.skipped first = false ∧ CharClass.identifier first = false ∧ first ≠ '.' ∧ first ≠ '=' ∧
      ∀ word ∈ suffixWords ++ joiningWords,
        Symbolic word ∧ word.toList.head? ≠ some first ∨ word.toList.head?.any Char.isAlpha = true := by
  decide

theorem silent_of_symbol {word : String} {first : Char} (solid : CharClass.skipped first = false)
    (symbol : Scanner.isSymbol first = true)
    (apart : Symbolic word ∧ word.toList.head? ≠ some first ∨ word.toList.head?.any Char.isAlpha = true) :
    Silent word ((first :: text).dropWhile CharClass.skipped) := by
  rcases apart with ⟨symbolic, differs⟩ | letter
  · exact silent_other word symbolic (head?_ne solid differs)
  · intro caseSensitive
    cases letters : word.toList with
    | nil => simp [letters] at letter
    | cons expected letters' =>
        rw [letters] at letter
        exact Scanner.startsWith_letter (by simpa using letter) (symbol_of_head solid symbol)

theorem ends_closer {first : Char} (closer : first ∈ closers.toList) (text : List Char) :
    Ends (first :: text) := by
  obtain ⟨symbol, solid, unnamed, noPoint, noEquals, apart⟩ := closers_apart first closer
  refine ⟨⟨⟨severed_of_symbol symbol unnamed, by simpa using noPoint⟩,
    unselected_of_symbol solid unnamed noEquals⟩, fun word member => ?_, fun word member => ?_⟩
  · exact silent_of_symbol solid symbol (apart word (List.mem_append_left _ member))
  · exact silent_of_symbol solid symbol (apart word (List.mem_append_right _ member))

theorem ends_nil : Ends [] :=
  ⟨⟨⟨rfl, nofun⟩, ⟨nofun, nofun⟩⟩, by decide, by decide⟩

theorem Parted.after_space (parted : Parted text) : Parted (' ' :: text) :=
  ⟨⟨severed_of_symbol (by decide) (by decide), by simp⟩, ⟨parted.unselected.unnamed, by simp⟩⟩

theorem Ends.after_space (ends : Ends text) : Ends (' ' :: text) :=
  ⟨ends.parted.after_space, ends.single, ends.alone⟩

/-- No text that is read as an operand begins with a symbol that expressions end before. -/
theorem Closes.not_barren {operand : Expression} (closes : Closes caseSensitive text operand)
    (ends : Ends rest) : ¬ Barren (text ++ rest) :=
  fun barren => (closes Parser.nextArgument _ rest (Nat.le_refl _) ends).not_rejects
    (functional_rejected barren)

theorem barren_closer {first : Char} (closer : first ∈ ")]\x7d,;".toList)
    (begins : (text.dropWhile CharClass.skipped).head? = some first) : Barren text := by
  have all : ∀ first ∈ ")]\x7d,;".toList, (Scanner.isSymbol first &&
      !CharClass.identifier first && !operandSymbols.toList.contains first) = true := by
    decide
  unfold Barren
  rw [begins]
  exact all first closer

theorem toList_inParentheses (inner : String) :
    (Expression.inParentheses inner).toList = '(' :: (inner.toList ++ [')']) := by
  simp [Expression.inParentheses]

theorem denotes_enclosed {inner : Expression} (nests : Nests caseSensitive text inner) :
    Denotes caseSensitive ('(' :: (text ++ [')'])) inner := by
  intro which depth behind last rest enough parted repeats
  simp only [List.cons_append, List.append_assoc, List.nil_append] at enough ⊢
  rw [textWeight_cons (by decide)] at enough
  have taken : Takes caseSensitive (text ++ ')' :: behind) (expressionTo which depth) inner
      (')' :: behind) :=
    nests.expressionTo (by omega) (ends_closer (by decide) behind)
  exact (simple_enclosed taken).bind repeats.takes

theorem closes_negated {operand : Expression} (nests : Nests caseSensitive text operand) :
    Closes caseSensitive ('-' :: text) (negated operand) := by
  intro which depth rest enough ends
  rw [List.cons_append, textWeight_cons (by decide)] at enough
  refine (simple_negated (nests.expressionTo (by omega) ends)).bind ?_
  exact (Repeats.done (functionalStep_done ends.single _)).takes

theorem nests_negated {operand : Expression} (nests : Nests caseSensitive text operand) :
    Nests caseSensitive ('-' :: text) (negated operand) :=
  (closes_negated nests).nests

def listText : List (List Char) → List Char
  | [] => []
  | [text] => text
  | text :: next :: texts => text ++ ',' :: ' ' :: listText (next :: texts)

theorem toList_commaSeparated (texts : List String) :
    (Value.commaSeparated texts).toList = listText (texts.map String.toList) := by
  unfold Value.commaSeparated
  induction texts with
  | nil => rfl
  | cons text texts ih =>
      cases texts with
      | nil => simp [listText]
      | cons next texts =>
          rw [String.intercalate_cons_cons, String.toList_append, String.toList_append, ih]
          simp [listText]

theorem toList_inBraces (texts : List String) :
    (Value.inBraces (Value.commaSeparated texts)).toList =
      '\x7b' :: (listText (texts.map String.toList) ++ ['\x7d']) := by
  rw [Value.inBraces, String.toList_append, String.toList_append, toList_commaSeparated]
  rfl

abbrev CloseEach (caseSensitive : Bool) (texts : List (List Char)) (items : List Expression) : Prop :=
  List.Forall₂ (Closes caseSensitive) texts items

variable {texts : List (List Char)} {items : List Expression}

section

variable {close : String} {last : Char} (single : close.toList = [last])
  (closer : last ∈ ")]\x7d".toList)

include single closer

theorem closing_solid : Solid close := by
  have solid : ∀ last ∈ ")]\x7d".toList, CharClass.skipped last = false := by decide
  simp [Solid, single, solid last closer]

theorem items_taken (construct : String) {first : List Char} {head : Expression}
    (closes : Closes caseSensitive first head) (others : CloseEach caseSensitive texts items)
    (read : List Expression) {depth : Nat}
    (enough : textWeight (listText (first :: texts) ++ last :: rest) < depth) :
    Recurs caseSensitive (listText (first :: texts) ++ last :: rest)
      (fun again items => do
        let item ← expressionTo which depth
        if ← literal "," then again (item :: items)
        else do
          expect close construct
          return (item :: items).reverse) read (read.reverse ++ head :: items) rest := by
  have isCloser : last ∈ closers.toList := List.mem_append_left "\x7b,;".toList closer
  have comma : ∀ last ∈ ")]\x7d".toList, some last ≠ ",".toList.head? ∧
      CharClass.skipped last = false := by
    decide
  induction others generalizing first head read with
  | nil =>
      intro fuel more
      obtain ⟨fuel, rfl⟩ : ∃ less, fuel = less + 1 := ⟨fuel - 1, by omega⟩
      refine (closes.nests.expressionTo enough (ends_closer isCloser rest)).bind ?_
      refine (literal_other "," (by decide) ?_).bind ?_
      · rw [head?_solid (comma last closer).2]
        exact (comma last closer).1
      have closing : last :: rest = close.toList ++ rest := by rw [single]; rfl
      rw [closing]
      refine (expect_taken close (closing_solid single closer) construct).bind ?_
      rw [← List.reverse_cons]
      exact .pure _
  | @cons next item texts items closesNext _ ih =>
      intro fuel more
      obtain ⟨fuel, rfl⟩ : ∃ less, fuel = less + 1 := ⟨fuel - 1, by omega⟩
      have text : listText (first :: next :: texts) ++ last :: rest =
          first ++ ',' :: ' ' :: (listText (next :: texts) ++ last :: rest) := by
        simp [listText]
      have whole : read.reverse ++ head :: item :: items =
          (head :: read).reverse ++ item :: items := by
        simp
      rw [text] at enough more ⊢
      rw [whole]
      have weight := textWeight_append first (',' :: ' ' :: (listText (next :: texts) ++ last :: rest))
      rw [textWeight_cons (by decide), textWeight_space] at weight
      refine (closes.nests.expressionTo enough (ends_closer (by decide) _)).bind ?_
      refine (literal_taken "," (by decide)).bind ?_
      exact (ih closesNext (head :: read) (by omega) fuel (by omega)).after_space

theorem expressionList_taken (construct : String) (closes : CloseEach caseSensitive texts items)
    {depth : Nat} (enough : textWeight (listText texts ++ last :: rest) < depth) :
    Takes caseSensitive (listText texts ++ last :: rest)
      (expressionList (expressionTo which depth) close construct) items rest := by
  have solid := closing_solid single closer
  cases closes with
  | nil =>
      have closing : listText [] ++ last :: rest = close.toList ++ rest := by rw [single]; rfl
      rw [closing]
      exact (literal_taken close solid).bind (.pure [])
  | @cons first head texts items closesFirst others =>
      have isCloser : last ∈ closers.toList := List.mem_append_left "\x7b,;".toList closer
      obtain ⟨after, text, ends⟩ : ∃ after, listText (first :: texts) ++ last :: rest = first ++ after ∧
          Ends after := by
        cases texts with
        | nil => exact ⟨last :: rest, rfl, ends_closer isCloser rest⟩
        | cons next texts =>
            refine ⟨',' :: ' ' :: (listText (next :: texts) ++ last :: rest), by simp [listText], ?_⟩
            exact ends_closer (by decide) _
      have missing : ((listText (first :: texts) ++ last :: rest).dropWhile CharClass.skipped).head? ≠
          some last := by
        intro begins
        rw [text] at begins
        refine closesFirst.not_barren ends (barren_closer ?_ begins)
        exact List.mem_append_left ",;".toList closer
      have symbolic : Symbolic close := by
        have symbols : ∀ last ∈ ")]\x7d".toList, (Scanner.isSymbol last &&
            !CharClass.skipped last) = true := by
          decide
        simpa [Symbolic, single] using symbols last closer
      refine (literal_other close symbolic (by rwa [single])).bind ?_
      exact (items_taken single closer construct closesFirst others [] enough).takes

end

theorem denotes_simple {operand : Expression}
    (takes : ∀ (which : Parser → Nat) (nested : Parse Expression) behind, Parted behind →
      Takes caseSensitive (text ++ behind) (simple which nested) operand behind) :
    Denotes caseSensitive text operand :=
  fun which _ behind _ _ _ parted repeats => (takes which _ behind parted).bind repeats.takes

theorem denotes_aggregate (closes : CloseEach caseSensitive texts items) :
    Denotes caseSensitive ('\x7b' :: (listText texts ++ ['\x7d'])) (.aggregate items) := by
  intro which depth behind last rest enough _ repeats
  simp only [List.cons_append, List.append_assoc, List.nil_append] at enough ⊢
  rw [textWeight_cons (by decide)] at enough
  have list : Takes caseSensitive (listText texts ++ '\x7d' :: behind)
      (expressionList (expressionTo which depth) "\x7d" "aggregate") items behind :=
    expressionList_taken rfl (by decide) _ closes enough
  exact (simple_aggregate list).bind repeats.takes

theorem denotes_suffix {operand longer : Expression} {first : Char} {tail : List Char}
    (denotes : Denotes caseSensitive text operand)
    (solid : CharClass.skipped first = false) (parted : ∀ behind, Parted (first :: (tail ++ behind)))
    (takes : ∀ (which : Parser → Nat) depth behind, textWeight (tail ++ behind) < depth →
      Takes caseSensitive (first :: (tail ++ behind))
        (functionalStep which (expressionTo which depth) operand) (some longer) behind) :
    Denotes caseSensitive (text ++ first :: tail) longer := by
  intro which depth behind last rest enough _ repeats
  rw [List.append_assoc, List.cons_append] at enough ⊢
  have weight := textWeight_append text (first :: (tail ++ behind))
  rw [textWeight_cons solid] at weight
  refine denotes which depth _ last rest enough (parted behind) ?_
  refine .next (takes which depth behind (by omega)) ?_ repeats
  rw [textWeight_cons solid, textWeight_append]
  omega

theorem parted_bracket {first : Char} (bracket : first ∈ "([".toList) (text : List Char) :
    Parted (first :: text) := by
  have all : ∀ first ∈ "([".toList, Scanner.isSymbol first = true ∧ CharClass.skipped first = false ∧
      CharClass.identifier first = false ∧ first ≠ '.' ∧ first ≠ '=' := by
    decide
  obtain ⟨symbol, solid, unnamed, noPoint, noEquals⟩ := all first bracket
  exact ⟨⟨severed_of_symbol symbol unnamed, by simpa using noPoint⟩,
    unselected_of_symbol solid unnamed noEquals⟩

theorem callNamed_taken {name : String} {call : Expression}
    (named : namedCall caseSensitive name items = .ok call) :
    Takes caseSensitive text (callNamed name items) call text := by
  intro parser facing
  refine ⟨parser, ?_, facing, rfl⟩
  simp only [callNamed, bind, EStateM.bind, scanner, facing.caseSensitive, named]
  rfl

theorem functionalStep_bracket {operand : Expression} {result : Option Expression} {first : Char}
    (bracket : first ∈ "([".toList)
    (takes : Takes caseSensitive (first :: text) (suffix? which nested operand) result rest) :
    Takes caseSensitive (first :: text) (functionalStep which nested operand) result rest := by
  have all : ∀ first ∈ "([".toList, CharClass.skipped first = false ∧ ":".toList.head? ≠ some first := by
    decide
  obtain ⟨solid, differs⟩ := all first bracket
  unfold functionalStep
  split
  · exact (selectorColon_missing (silent_other ":" (by decide) (head?_ne solid differs))).bind takes
  · exact takes

theorem denotes_keyPath {path : String} (written : KeyPath.Written path.toList) :
    Denotes caseSensitive (KeyPath.text path).toList (.keyPath path) := by
  obtain ⟨letters, rfl⟩ : ∃ letters, path = String.ofList letters :=
    ⟨path.toList, String.ofList_toList.symm⟩
  rw [String.toList_ofList] at written
  exact fun _ _ _ _ _ _ parted repeats =>
    keyPath_opens written parted.detached.1 parted.unselected repeats

theorem denotes_call {name : String} {call : Expression} (written : KeyPath.Written name.toList)
    (closes : CloseEach caseSensitive texts items)
    (named : namedCall caseSensitive name items = .ok call) :
    Denotes caseSensitive ((KeyPath.text name).toList ++ '(' :: (listText texts ++ [')'])) call := by
  refine denotes_suffix (denotes_keyPath written) (by decide) (fun behind => parted_bracket (by decide) _) ?_
  intro which depth behind enough
  simp only [List.append_assoc, List.cons_append, List.nil_append] at enough ⊢
  refine functionalStep_bracket (by decide) ?_
  refine (literal_taken "(" (by decide)).bind ?_
  have list : Takes caseSensitive (listText texts ++ ')' :: behind)
      (expressionList (expressionTo which depth) ")" "function call") items behind :=
    expressionList_taken rfl (by decide) _ closes enough
  have taken : Takes caseSensitive (listText texts ++ ')' :: behind)
      (arguments (expressionTo which depth) (some name)) call behind :=
    list.bind (callNamed_taken named)
  exact taken.bind (.pure _)

theorem denotes_subscript {target element : Expression} {tail : List Char}
    (denotes : Denotes caseSensitive text target)
    (takes : ∀ which depth behind, textWeight (tail ++ ']' :: behind) < depth →
      Takes caseSensitive (tail ++ ']' :: behind) (position (expressionTo which depth) target) element
        (']' :: behind)) :
    Denotes caseSensitive (text ++ '[' :: (tail ++ [']'])) element := by
  refine denotes_suffix denotes (by decide) (fun behind => parted_bracket (by decide) _) ?_
  intro which depth behind enough
  simp only [List.append_assoc, List.cons_append, List.nil_append] at enough ⊢
  refine functionalStep_bracket (by decide) ?_
  refine (literal_other "(" (by decide) (head?_ne (by decide) (by decide))).bind ?_
  refine (literal_taken "[" (by decide)).bind ?_
  have taken : Takes caseSensitive (tail ++ ']' :: behind)
      (subscript (expressionTo which depth) target) element behind :=
    (takes which depth behind enough).bind ((expect_taken "]" (by decide) _).bind (.pure _))
  exact taken.bind (.pure _)

end Parse

end PredicateRules