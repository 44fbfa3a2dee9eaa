import PredicateRules.Proofs.Cutting.Step

namespace PredicateRules

open PredicateRules.Parser

namespace Scanner

variable {caseSensitive : Bool} {word text : List Char}

theorem startsWith_append_of_le (fits : word.length ≤ text.length) (back : List Char) :
    startsWith caseSensitive word (text ++ back) = startsWith caseSensitive word text := by
  induction word generalizing text with
  | nil => rfl
  | cons expected word ih =>
      cases text with
      | nil => cases fits
      | cons character text =>
          simp only [List.cons_append, startsWith]
          rw [ih (Nat.le_of_succ_le_succ fits)]

theorem startsWith_append_of_starts (starts : startsWith caseSensitive word text = true)
    (back : List Char) : startsWith caseSensitive word (text ++ back) = true :=
  (startsWith_append_of_le (startsWith_marks starts).1 back).trans starts

theorem startsWith_at (starts : startsWith caseSensitive word text = true) {place : Nat} {expected : Char}
    (there : word[place]? = some expected) :
    ∃ character, text[place]? = some character ∧ sameChar caseSensitive character expected = true := by
  induction word generalizing text place with
  | nil => cases there
  | cons first word ih =>
      cases text with
      | nil => cases starts
      | cons character text =>
          simp only [startsWith, Bool.and_eq_true] at starts
          cases place with
          | zero =>
              obtain rfl := Option.some.inj there
              exact ⟨character, rfl, starts.1⟩
          | succ place => exact ih starts.2 there

theorem startsWith_last (starts : startsWith caseSensitive word text = true) {last : Char}
    (found : (text.take word.length).getLast? = some last) :
    ∃ expected, word.getLast? = some expected ∧ sameChar caseSensitive last expected = true := by
  have fits := (startsWith_marks starts).1
  cases ending : word.getLast? with
  | none =>
      rw [List.getLast?_eq_none_iff] at ending
      subst ending
      cases found
  | some expected =>
      rw [List.getLast?_eq_getElem?] at ending
      obtain ⟨character, there, same⟩ := startsWith_at starts ending
      have some : 0 < word.length := by
        cases word with
        | nil => cases ending
        | cons first word => exact Nat.succ_pos _
      rw [List.getLast?_eq_getElem?, List.length_take, Nat.min_eq_left fits,
        List.getElem?_take_of_lt (by omega), there] at found
      obtain rfl := Option.some.inj found
      exact ⟨expected, rfl, same⟩

theorem startsWith_closing (closing : text.getLast? = some ')') {back : List Char}
    (starts : startsWith caseSensitive word (text ++ back) = true) (long : text.length ≤ word.length) :
    word[text.length - 1]? = some ')' := by
  have some : 0 < text.length := by
    cases text with
    | nil => cases closing
    | cons first text => exact Nat.succ_pos _
  have inside : text.length - 1 < word.length := by omega
  obtain ⟨character, there, same⟩ := startsWith_at starts (List.getElem?_eq_getElem inside)
  rw [List.getElem?_append_left (by omega), ← List.getLast?_eq_getElem?, closing] at there
  obtain rfl := Option.some.inj there
  rw [sameChar_symm] at same
  have symbol : isSymbol ')' = true := by decide
  rw [List.getElem?_eq_getElem inside, eq_of_sameChar symbol same]

theorem unlettered_of_skipped {character : Char} (skipped : CharClass.skipped character = true) :
    Unlettered character := by
  have listed : character ∈ CharClass.blanks := by
    simpa [CharClass.skipped, CharClass.blanks, or_assoc] using skipped
  have low : ∀ blank ∈ CharClass.blanks, blank.toNat < 128 → isSymbol blank = true := by decide
  by_cases ascii : character.toNat < 128
  · exact unlettered_of_symbol (low character listed ascii)
  · intro caseSensitive letter letters
    have all : ∀ letter : Char, letter.toNat < 128 → letter.isAlpha = true →
        ∀ blank ∈ CharClass.blanks, ¬blank.toNat < 128 → sameChar false blank letter = false :=
      forall_ascii (by decide +kernel)
    have differs := all letter (KeyPath.letter_low letters) letters character listed ascii
    simp only [sameChar, Bool.or_eq_false_iff, Bool.not_false, Bool.true_and] at differs
    simp [sameChar, differs.1, differs.2]

theorem solid_of_letter {character letter : Char} (letters : letter.isAlpha = true)
    (same : sameChar caseSensitive character letter = true) : CharClass.skipped character = false := by
  refine Bool.eq_false_iff.mpr fun skipped => ?_
  rw [unlettered_of_skipped skipped caseSensitive letter letters] at same
  cases same

theorem ne_colon_of_letter {character letter : Char} (letters : letter.isAlpha = true)
    (same : sameChar caseSensitive character letter = true) : character ≠ ':' := by
  rintro rfl
  rw [unlettered_of_symbol (by decide) caseSensitive letter letters] at same
  cases same

end Scanner

namespace Parse

open PredicateRules.Scanner

variable {room roomAgain : Nat}

/-- A symbol that ends a token whatever is behind it. -/
def endsToken (character : Char) : Bool :=
  isSymbol character && !CharClass.skipped character && character != ':'

theorem endsToken_facts {character : Char} (ends : endsToken character = true) :
    isSymbol character = true ∧ CharClass.skipped character = false ∧ character ≠ ':' := by
  simp only [endsToken, Bool.and_eq_true, Bool.not_eq_true', bne_iff_ne] at ends
  exact ⟨ends.1.1, ends.1.2, ends.2⟩

theorem closes_of_endsToken {last next : Char} (ends : endsToken last = true) :
    (CharClass.continuesKeyword next = true → Unlettered last) ∧ (next = '=' → last ≠ ':') := by
  obtain ⟨symbol, _, differs⟩ := endsToken_facts ends
  exact ⟨fun _ => unlettered_of_symbol symbol, fun _ => differs⟩

theorem settled_of_endsToken {taken rest : List Char}
    (ends : ∀ last ∈ taken.getLast?, endsToken last = true) :
    (∀ last ∈ taken.getLast?, CharClass.skipped last = false) ∧ Settled taken rest :=
  ⟨fun last found => (endsToken_facts (ends last found)).2.1,
    fun last found _ _ => closes_of_endsToken (ends last found)⟩

theorem Solid.length_pos {word : String} (solid : Solid word) : 0 < word.toList.length := by
  unfold Solid at solid
  cases letters : word.toList with
  | nil => simp [letters] at solid
  | cons first rest => exact Nat.succ_pos _

/-- A literal that ends in a symbol and has no closing parenthesis before its end. -/
def Bounded (word : String) : Prop :=
  word.toList.getLast?.any endsToken = true ∧ ')' ∉ word.toList.dropLast

instance (word : String) : Decidable (Bounded word) := inferInstanceAs (Decidable (_ ∧ _))

def lookLiteral (word : String) (caseSensitive : Bool) (text : List Char) : Option (Bool × Nat) :=
  if startsWith caseSensitive word.toList text then some (true, word.toList.length) else some (false, 0)

theorem looks_literal {word : String} (solid : Solid word) : Looks (literal word) (lookLiteral word) where
  found {parser result count} skips found := by
    unfold lookLiteral at found
    simp only [literal, scan, scanLiteral_eq skips, meets_eq solid]
    split at found <;> obtain ⟨rfl, rfl⟩ := Prod.mk.inj (Option.some.inj found)
    next starts =>
      rw [if_pos starts]
      exact ⟨_, rfl, ⟨_, forward_skipIgnored_moves skips _⟩, ahead_forward_drop skips _⟩
    next missing =>
      rw [if_neg missing]
      exact ⟨_, rfl, ⟨_, skipIgnored_moves skips⟩,
        (ahead_skipIgnored skips).trans (fronted_front _).symm⟩
  missed skips missed := by
    unfold lookLiteral at missed
    split at missed <;> cases missed

theorem steady_literal {word : String} (bounded : Bounded word) : Steady (lookLiteral word) where
  settled {caseSensitive text result count} found := by
    unfold lookLiteral at found
    split at found <;> obtain ⟨rfl, rfl⟩ := Prod.mk.inj (Option.some.inj found)
    next starts =>
      have last : ∀ last ∈ (text.take word.toList.length).getLast?, endsToken last = true := by
        intro last found
        obtain ⟨expected, ending, same⟩ := startsWith_last starts found
        have ends := bounded.1
        rw [ending, Option.any_some] at ends
        rwa [eq_of_sameChar (endsToken_facts ends).1 same]
      exact ⟨(startsWith_marks starts).1, settled_of_endsToken last⟩
    next => exact ⟨Nat.zero_le _, nofun, nofun⟩
  final {caseSensitive text back result count} _ found within := by
    unfold lookLiteral at found ⊢
    split at found <;> obtain ⟨rfl, rfl⟩ := Prod.mk.inj (Option.some.inj found)
    next starts => rw [if_pos ((startsWith_append_of_le within back).symm.trans starts)]
    next missing => rw [if_neg fun starts => missing (startsWith_append_of_starts starts back)]
  closing {caseSensitive text back other result count} closing found within := by
    unfold lookLiteral at found ⊢
    split at found <;> obtain ⟨rfl, rfl⟩ := Prod.mk.inj (Option.some.inj found)
    next starts =>
      have fits := Nat.le_of_lt within
      rw [if_pos]
      rw [startsWith_append_of_le fits] at starts ⊢
      exact starts
    next missing =>
      refine if_neg fun starts => missing ?_
      by_cases fits : word.toList.length ≤ text.length
      · rw [startsWith_append_of_le fits] at starts ⊢
        exact starts
      · exfalso
        -- A closer of the text would be a character of the word that is not its last one.
        have there := startsWith_closing closing starts (by omega)
        refine bounded.2 (List.mem_of_getElem? (i := text.length - 1) ?_)
        rw [List.getElem?_dropLast, if_pos (by omega)]
        exact there

theorem Draws.literal {word : String} (solid : Solid word) (bounded : Bounded word) :
    Draws room roomAgain (Parse.literal word) (Parse.literal word) id :=
  .look (looks_literal solid) (steady_literal bounded) fun found spent => by
    unfold lookLiteral at found
    split at found <;> obtain ⟨rfl, rfl⟩ := Prod.mk.inj (Option.some.inj found)
    · exact solid.length_pos
    · cases spent

/-- A word that ends in a letter or in a symbol that goes on with no word. -/
def Worded (word : String) : Prop :=
  word.toList.getLast?.any (fun character => character.isAlpha ||
    endsToken character && !CharClass.continuesKeyword character) = true ∧ ')' ∉ word.toList

instance (word : String) : Decidable (Worded word) := inferInstanceAs (Decidable (_ ∧ _))

def lookKeyword (word : String) (caseSensitive : Bool) (text : List Char) : Option (Bool × Nat) :=
  if meetsWord caseSensitive word.toList text then some (true, word.toList.length) else some (false, 0)

theorem looks_keyword {word : String} (solid : Solid word) : Looks (keyword word) (lookKeyword word) where
  found {parser result count} skips found := by
    unfold lookKeyword at found
    simp only [keyword, scan, scanKeyword_eq skips, meetsKeyword_eq solid]
    split at found <;> obtain ⟨rfl, rfl⟩ := Prod.mk.inj (Option.some.inj found)
    next met =>
      rw [if_pos met]
      exact ⟨_, rfl, ⟨_, forward_skipIgnored_moves skips _⟩, ahead_forward_drop skips _⟩
    next missing =>
      rw [if_neg missing]
      split
      · have moves := forward_skipIgnored_moves skips word.toList.length
        exact ⟨_, rfl, ⟨_, backTo_moves _ _ moves.skips moves.caseSensitive⟩,
          (fronted_front parser.scanner.remaining).symm⟩
      · exact ⟨_, rfl, ⟨_, skipIgnored_moves skips⟩,
          (ahead_skipIgnored skips).trans (fronted_front _).symm⟩
  missed skips missed := by
    unfold lookKeyword at missed
    split at missed <;> cases missed

theorem meetsWord_append {caseSensitive : Bool} {word text back : List Char}
    (within : word.length < text.length) :
    meetsWord caseSensitive word (text ++ back) = meetsWord caseSensitive word text := by
  unfold meetsWord
  rw [startsWith_append_of_le (Nat.le_of_lt within), List.drop_append_of_le_length (Nat.le_of_lt within)]
  cases behind : text.drop word.length with
  | nil => exact absurd (List.drop_eq_nil_iff.mp behind) (Nat.not_le.mpr within)
  | cons first rest => rfl

section

variable {word : String} (worded : Worded word) {caseSensitive : Bool} {text back : List Char}

include worded

theorem Worded.last (starts : startsWith caseSensitive word.toList text = true) {last : Char}
    (found : (text.take word.toList.length).getLast? = some last) :
    (∃ letter, word.toList.getLast? = some letter ∧ letter.isAlpha = true ∧
      sameChar caseSensitive last letter = true) ∨
      (endsToken last = true ∧ word.toList.getLast?.any CharClass.continuesKeyword = false) := by
  obtain ⟨expected, ending, same⟩ := startsWith_last starts found
  have ends := worded.1
  rw [ending, Option.any_some, Bool.or_eq_true, Bool.and_eq_true, Bool.not_eq_true'] at ends
  rcases ends with letters | ⟨symbol, closed⟩
  · exact .inl ⟨expected, ending, letters, same⟩
  · obtain rfl := eq_of_sameChar (endsToken_facts symbol).1 same
    exact .inr ⟨symbol, by rw [ending]; exact closed⟩

theorem Worded.settled (met : meetsWord caseSensitive word.toList text = true) :
    (∀ last ∈ (text.take word.toList.length).getLast?, CharClass.skipped last = false) ∧
      Settled (text.take word.toList.length) (text.drop word.toList.length) := by
  simp only [meetsWord, Bool.and_eq_true, Bool.not_eq_true', Bool.and_eq_false_imp] at met
  obtain ⟨starts, stops⟩ := met
  refine ⟨fun last found => ?_, fun last found next behind => ?_⟩
  · rcases worded.last starts found with ⟨letter, _, letters, same⟩ | ⟨symbol, _⟩
    · exact solid_of_letter letters same
    · exact (endsToken_facts symbol).2.1
  · rcases worded.last starts found with ⟨letter, ending, letters, same⟩ | ⟨symbol, _⟩
    · refine ⟨fun continues => ?_, fun _ => ne_colon_of_letter letters same⟩
      have wordy : CharClass.continuesKeyword letter = true := by
        simp [CharClass.continuesKeyword, Char.isAlphanum, letters]
      have outside := stops (by rw [ending]; exact wordy)
      rw [Option.mem_def.mp behind, Option.any_some, continues] at outside
      cases outside
    · exact closes_of_endsToken symbol

/-- A word that is met at the end is met in front of whatever does not go on with it. -/
theorem Worded.meetsWord_append (settled : Settled text back)
    (met : meetsWord caseSensitive word.toList text = true) :
    meetsWord caseSensitive word.toList (text ++ back) = true := by
  have starts : startsWith caseSensitive word.toList text = true := by
    simp only [meetsWord, Bool.and_eq_true] at met
    exact met.1
  rcases Nat.lt_or_eq_of_le (startsWith_marks starts).1 with less | whole
  · rwa [Parse.meetsWord_append less]
  · simp only [meetsWord, Bool.and_eq_true, Bool.not_eq_true', Bool.and_eq_false_imp]
    refine ⟨startsWith_append_of_starts starts back, fun wordy => ?_⟩
    -- The word is the whole text, so what comes behind it decides where it ends.
    rw [whole, List.drop_left]
    cases back with
    | nil => rfl
    | cons next back =>
        refine Bool.eq_false_iff.mpr fun continues => ?_
        cases found : text.getLast? with
        | none =>
            rw [List.getLast?_eq_none_iff] at found
            rw [found, List.length_nil] at whole
            rw [List.length_eq_zero_iff.mp whole] at wordy
            cases wordy
        | some last =>
            have all : (text.take word.toList.length).getLast? = some last := by
              rw [whole, List.take_length, found]
            rcases worded.last starts all with ⟨letter, _, letters, same⟩ | ⟨_, closed⟩
            · rw [(settled last found next rfl).1 continues caseSensitive letter letters] at same
              cases same
            · rw [wordy] at closed
              cases closed

theorem Worded.length_lt (closing : text.getLast? = some ')')
    (met : meetsWord caseSensitive word.toList (text ++ back) = true) :
    word.toList.length < text.length := by
  simp only [meetsWord, Bool.and_eq_true] at met
  by_contra long
  exact worded.2 (List.mem_of_getElem? (startsWith_closing closing met.1 (by omega)))

end

theorem meetsWord_of_append {caseSensitive : Bool} {word text back : List Char}
    (within : word.length ≤ text.length) (met : meetsWord caseSensitive word (text ++ back) = true) :
    meetsWord caseSensitive word text = true := by
  rcases Nat.lt_or_eq_of_le within with less | whole
  · rwa [meetsWord_append less] at met
  · simp only [meetsWord, Bool.and_eq_true] at met ⊢
    rw [startsWith_append_of_le within] at met
    rw [whole, List.drop_length]
    exact ⟨met.1, by simp⟩

theorem steady_keyword {word : String} (worded : Worded word) : Steady (lookKeyword word) where
  settled {caseSensitive text result count} found := by
    unfold lookKeyword at found
    split at found <;> obtain ⟨rfl, rfl⟩ := Prod.mk.inj (Option.some.inj found)
    next met =>
      have starts := met
      simp only [meetsWord, Bool.and_eq_true] at starts
      exact ⟨(startsWith_marks starts.1).1, worded.settled met⟩
    next =>
      refine ⟨Nat.zero_le _, fun last found => ?_, fun last found => ?_⟩ <;> cases found
  final {caseSensitive text back result count} settled found within := by
    unfold lookKeyword at found ⊢
    split at found <;> obtain ⟨rfl, rfl⟩ := Prod.mk.inj (Option.some.inj found)
    next met => exact if_pos (meetsWord_of_append within met)
    next missing => exact if_neg fun met => missing (worded.meetsWord_append settled met)
  closing {caseSensitive text back other result count} closing found within := by
    unfold lookKeyword at found ⊢
    split at found <;> obtain ⟨rfl, rfl⟩ := Prod.mk.inj (Option.some.inj found)
    next met =>
      rw [meetsWord_append within] at met
      exact if_pos ((meetsWord_append within).trans met)
    next missing =>
      refine if_neg fun met => missing ?_
      have less := worded.length_lt closing met
      rw [meetsWord_append less] at met ⊢
      exact met

theorem Draws.keyword {word : String} (solid : Solid word) (worded : Worded word) :
    Draws room roomAgain (Parse.keyword word) (Parse.keyword word) id :=
  .look (looks_keyword solid) (steady_keyword worded) fun found spent => by
    unfold lookKeyword at found
    split at found <;> obtain ⟨rfl, rfl⟩ := Prod.mk.inj (Option.some.inj found)
    · exact solid.length_pos
    · cases spent

theorem Draws.firstKeyword {words : List (String × α)}
    (worded : ∀ entry ∈ words, Solid entry.1 ∧ Worded entry.1) :
    Draws room roomAgain (Parse.firstKeyword words) (Parse.firstKeyword words) Option.isSome := by
  induction words with
  | nil => exact .pure rfl
  | cons entry words ih =>
      obtain ⟨word, meaning⟩ := entry
      obtain ⟨solid, ends⟩ := worded (word, meaning) (by simp)
      refine Draws.bind (.keyword solid ends) fun found => ?_
      cases found with
      | true => exact .pure rfl
      | false => exact (ih fun other member => worded other (by simp [member])).weaken (by simp)

theorem Draws.expect {word : String} (solid : Solid word) (bounded : Bounded word) (construct : String) :
    Draws room roomAgain (Parse.expect word construct) (Parse.expect word construct) fun _ => true := by
  refine Draws.bind (.literal solid bounded) fun found => ?_
  cases found with
  | true => exact .pure rfl
  | false => exact .fail

end Parse

end PredicateRules
