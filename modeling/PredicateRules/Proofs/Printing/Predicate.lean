import PredicateRules.Proofs.Printing.Comparison

namespace PredicateRules

open PredicateRules.Parser

namespace Parse

variable {caseSensitive : Bool} {text rest behind : List Char} {which : Parser → Nat}
  {term : Parse Predicate} {predicate : Predicate}

def termTo (which : Parser → Nat) (depth : Nat) : Parse Predicate :=
  recurseTo (fun again _ => termWith which (again ())) depth ()

theorem opened?_missing (unopened : (text.dropWhile CharClass.skipped).head? ≠ some '(') :
    Takes caseSensitive text (opened? which term) none text := by
  intro parser facing
  have moves := Scanner.skipIgnored_moves facing.skips
  refine ⟨parser.moved parser.scanner.skipIgnored, ?_, ⟨moves.skips.trans facing.skips,
    moves.caseSensitive.trans facing.caseSensitive, ?_⟩, moves.text⟩
  · rw [Setting.opened?_eq _ _ facing.skips, meets_eq (by decide), facing.ahead,
      startsWith_other "(" (by decide) unopened]
    rfl
  · exact (ahead_skipIgnored facing.skips).trans facing.ahead

section

variable {parser : Parser} (facing : parser.Facing caseSensitive ('(' :: text))

include facing

theorem meets_opening : parser.scanner.meets "(" = true := by
  rw [meets_eq (by decide), facing.ahead]
  exact Scanner.startsWith_self _ ['('] text

theorem facing_opened :
    (parser.moved (parser.scanner.skipIgnored.forward "(".toList.length)).Facing caseSensitive text ∧
      (parser.scanner.skipIgnored.forward "(".toList.length).text = parser.scanner.text := by
  have moves := Scanner.forward_skipIgnored_moves facing.skips "(".toList.length
  exact ⟨⟨moves.skips.trans facing.skips, moves.caseSensitive.trans facing.caseSensitive,
    ahead_forward facing.skips facing.ahead⟩, moves.text⟩

end

theorem opened?_taken (takes : Takes caseSensitive text (parenthesized term) predicate rest) :
    Takes caseSensitive ('(' :: text) (opened? which term) (some predicate) rest := by
  intro parser facing
  obtain ⟨inside, whole⟩ := facing_opened facing
  obtain ⟨stop, same, there, wholeStop⟩ := takes _ inside
  refine ⟨stop, ?_, there, wholeStop.trans whole⟩
  rw [Setting.opened?_eq _ _ facing.skips, meets_opening facing, same]
  rfl

theorem opened?_comparison (rejects : Rejects caseSensitive text (parenthesized term))
    (takes : Takes caseSensitive ('(' :: text) (comparison which) predicate rest) :
    Takes caseSensitive ('(' :: text) (opened? which term) (some predicate) rest := by
  intro parser facing
  obtain ⟨error, after, failed, skips, sensitive⟩ := rejects _ (facing_opened facing).1
  obtain ⟨stop, same, there, whole⟩ := takes (after.back parser) ⟨skips, sensitive, facing.ahead⟩
  refine ⟨stop, ?_, there, whole⟩
  rw [Setting.opened?_eq _ _ facing.skips, meets_opening facing, failed]
  simp only [if_true, same]

def leadingWords : List String := ["NOT", "!", "TRUEPREDICATE", "FALSEPREDICATE"]

theorem leadingWords_solid : ∀ word ∈ leadingWords, Solid word ∧ word ∈ termWords := by
  decide

section

variable (unopened : (text.dropWhile CharClass.skipped).head? ≠ some '(')
  (unmet : ∀ word ∈ leadingWords,
    meetsWord caseSensitive word.toList (text.dropWhile CharClass.skipped) = false)

include unopened unmet

theorem termWith_comparison (takes : Takes caseSensitive text (comparison which) predicate rest) :
    Takes caseSensitive text (termWith which term) predicate rest := by
  have missing : ∀ word ∈ leadingWords, Takes caseSensitive text (keyword word) false text :=
    fun word member => keyword_missing word (leadingWords_solid word member).1 (unmet word member)
  refine (opened?_missing unopened).bind ?_
  refine (missing "NOT" (by decide)).bind ?_
  refine (missing "!" (by decide)).bind ?_
  refine (missing "TRUEPREDICATE" (by decide)).bind ?_
  exact (missing "FALSEPREDICATE" (by decide)).bind takes

theorem termWith_rejected (rejects : Rejects caseSensitive text (comparison which)) :
    Rejects caseSensitive text (termWith which term) := by
  have missing : ∀ word ∈ leadingWords, Takes caseSensitive text (keyword word) false text :=
    fun word member => keyword_missing word (leadingWords_solid word member).1 (unmet word member)
  refine (opened?_missing unopened).rejects ?_
  refine (missing "NOT" (by decide)).rejects ?_
  refine (missing "!" (by decide)).rejects ?_
  refine (missing "TRUEPREDICATE" (by decide)).rejects ?_
  exact (missing "FALSEPREDICATE" (by decide)).rejects rejects

end

theorem Wordless.unled (wordless : Wordless caseSensitive text) : ∀ word ∈ leadingWords,
    meetsWord caseSensitive word.toList (text.dropWhile CharClass.skipped) = false := by
  intro word member
  rw [wordless.front]
  exact wordless.unmet word (leadingWords_solid word member).2

theorem operatorWords_kinds : ∀ entry ∈ operatorWords, Symbolic entry.1 ∧ entry.1.toList.head? ≠ some ')' ∨
    entry.1.toList.head?.any Char.isAlpha = true := by
  decide

/-- A negative number in parentheses is not a predicate in parentheses. -/
theorem negative_rejected {number : Nat} (within : (number : Int) ≤ Int64.maxValue.toInt) :
    Rejects caseSensitive ('-' :: (Nat.toDigits 10 number ++ ')' :: behind))
      (parenthesized (termWith which term)) := by
  have wordless : Wordless caseSensitive ('-' :: (Nat.toDigits 10 number ++ ')' :: behind)) :=
    wordless_symbol (by decide) (by decide) (by decide) _
  have digits : Denotes caseSensitive _ _ := denotes_digits within
  have operand : Takes caseSensitive ('-' :: (Nat.toDigits 10 number ++ ')' :: behind))
      (expressionWith which) _ (')' :: behind) :=
    (nests_negated digits.closes.nests).expression (ends_closer (by decide) behind)
  have unopened : (('-' :: (Nat.toDigits 10 number ++ ')' :: behind)).dropWhile CharClass.skipped).head? ≠
      some '(' :=
    head?_ne (by decide) (by decide)
  refine Rejects.bind (Rejects.bind (termWith_rejected unopened wordless.unled ?_))
  refine (modifierWords_missing wordless).rejects (operand.rejects ?_)
  refine (firstKeyword_missing (fun entry member => (operatorWords_solid entry member).1) ?_).rejects (.fail _)
  refine List.find?_eq_none.mpr fun entry member met => ?_
  have silent : Silent entry.1 ((')' :: behind).dropWhile CharClass.skipped) :=
    silent_of_symbol (by decide) (by decide) (operatorWords_kinds entry member)
  rw [meetsWord, silent caseSensitive] at met
  cases met

theorem keyPath_unopened {path : String}
    (each : ∀ component ∈ KeyPath.components path.toList, KeyPath.IsComponent component) :
    ((KeyPath.text path).toList ++ behind).head? ≠ some '(' := by
  obtain ⟨first, begins, kind⟩ := keyPath_begins each
  rw [begins]
  rintro ⟨⟩
  rcases kind with own | sign
  · exact absurd own (by decide)
  · exact absurd sign (by decide)

theorem operand_opens {operand : Expression} {describe : Object → String} (isOperand : operand.IsOperand)
    (opens : ((operand.text describe).toList ++ behind).head? = some '(') :
    ∃ number : Nat, (number : Int) ≤ Int64.maxValue.toInt ∧
      (operand.text describe).toList ++ behind =
        '(' :: '-' :: (Nat.toDigits 10 number ++ ')' :: behind) := by
  cases operand with
  | keyPath path =>
      have named : ∀ component ∈ KeyPath.components path.toList, KeyPath.IsComponent component :=
        fun component member => .inl (isOperand component member)
      exact absurd opens (keyPath_unopened named)
  | constant value =>
      cases value with
      | int number =>
          change ((Value.intText number).toList ++ behind).head? = some '(' at opens
          have within := Int64.natAbs_le isOperand
          refine ⟨number.toInt.natAbs, within, ?_⟩
          show (Value.intText number).toList ++ behind = _
          unfold Value.intText at opens ⊢
          by_cases signed : number.toInt < 0
          · simp [signed]
          · exfalso
            simp only [signed, if_false, String.toList_ofList] at opens
            obtain ⟨first, tail, digits⟩ := List.exists_cons_of_ne_nil
              (Nat.toDigits_ne_nil : Nat.toDigits 10 number.toInt.natAbs ≠ [])
            have isDigit : first.isDigit = true :=
              Nat.isDigit_of_mem_toDigits (by decide) (by decide) (digits ▸ List.mem_cons_self)
            rw [digits] at opens
            obtain rfl : first = '(' := by simpa using opens
            exact absurd isDigit (by decide)
      | string string =>
          exfalso
          change ((Value.quoted string).toList ++ behind).head? = some '(' at opens
          rw [toList_quoted] at opens
          dsimp only at opens
          split at opens <;> simp at opens
      | _ => exact isOperand.elim
  | _ => exact isOperand.elim

/-- The text is a term where the term ends behind it. -/
def IsTerm (caseSensitive : Bool) (text : List Char) (predicate : Predicate) : Prop :=
  ∀ which depth rest, textWeight (text ++ rest) ≤ depth → Ends rest →
    Takes caseSensitive (text ++ rest) (termWith which (termTo which depth)) predicate rest

/-- The step reads every term that is no longer than the bound, with what is behind it. -/
def Supplies (caseSensitive : Bool) (bound : Nat) (term : Parse Predicate) : Prop :=
  ∀ text predicate rest, IsTerm caseSensitive text predicate → textWeight (text ++ rest) ≤ bound →
    Ends rest → Takes caseSensitive (text ++ rest) term predicate rest

def joinWords : List String := conjunctionWords.map Prod.fst

theorem alone_closer {first : Char} (closer : first ∈ closers.toList) (text : List Char) :
    Behind joinWords (first :: text) := by
  have all : ∀ first ∈ closers.toList, Scanner.isSymbol first = true ∧
      CharClass.skipped first = false ∧ ∀ word ∈ joinWords,
        Symbolic word ∧ word.toList.head? ≠ some first ∨ word.toList.head?.any Char.isAlpha = true := by
    decide
  obtain ⟨symbol, solid, apart⟩ := all first closer
  exact fun word member => silent_of_symbol solid symbol (apart word member)

/-- The text is a predicate where no conjunction comes behind it. -/
def IsTerms (caseSensitive : Bool) (text : List Char) (predicate : Predicate) : Prop :=
  ∀ term rest, Supplies caseSensitive (textWeight (text ++ rest)) term → Ends rest →
    Behind joinWords rest → Takes caseSensitive (text ++ rest) (terms term) predicate rest

theorem supplies_termTo {bound depth : Nat} (enough : bound < depth) :
    Supplies caseSensitive bound (termTo which depth) := by
  obtain ⟨depth, rfl⟩ : ∃ less, depth = less + 1 := ⟨depth - 1, by omega⟩
  exact fun text predicate rest isTerm within ends => isTerm which depth rest (by omega) ends

theorem supplies_termOf {bound : Nat} : Supplies caseSensitive bound (termOf which) := by
  intro text predicate rest isTerm _ ends
  have recurs : Recurs caseSensitive (text ++ rest) (fun again _ => termWith which (again ())) ()
      predicate rest := fun depth enough => supplies_termTo enough text predicate rest isTerm (Nat.le_refl _) ends
  exact recurs.takes

theorem joinWords_solid : ∀ entry ∈ conjunctionWords, Solid entry.1 := by
  decide

theorem furtherTerm_missing (alone : Behind joinWords text) :
    Takes caseSensitive text (furtherTerm term) none text := by
  refine (firstKeyword_missing joinWords_solid ?_).bind (.pure none)
  refine List.find?_eq_none.mpr fun entry member met => ?_
  rw [meetsWord, alone entry.1 (List.mem_map_of_mem member) caseSensitive] at met
  cases met

theorem joinFrom_done (alone : Behind joinWords text) (left : Predicate) :
    Repeats caseSensitive text (joinStep Predicate.fold term) left left text :=
  .done ((furtherTerm_missing alone).bind (.pure none))

theorem IsTerm.terms (isTerm : IsTerm caseSensitive text predicate) :
    IsTerms caseSensitive text predicate :=
  fun _ rest supplies ends alone =>
    (supplies text predicate rest isTerm (Nat.le_refl _) ends).bind (joinFrom_done alone predicate).takes

theorem IsTerms.enclosed (isTerms : IsTerms caseSensitive text predicate) :
    IsTerm caseSensitive ('(' :: (text ++ [')'])) predicate := by
  intro which depth rest enough _
  simp only [List.cons_append, List.append_assoc, List.nil_append] at enough ⊢
  rw [textWeight_cons (by decide)] at enough
  have alone : Behind joinWords (')' :: rest) := alone_closer (by decide) rest
  have taken : Takes caseSensitive (text ++ ')' :: rest) (parenthesized (termTo which depth)) predicate
      rest := by
    refine (isTerms _ _ (supplies_termTo (by omega)) (ends_closer (by decide) rest) alone).bind ?_
    exact (expect_taken ")" (by decide) _).bind (.pure predicate)
  exact (opened?_taken taken).bind (.pure predicate)

end Parse

end PredicateRules
