import PredicateRules.Proofs.Printing.Taking

namespace PredicateRules

namespace Scanner

variable {caseSensitive : Bool} {character expected : Char} {word text : List Char}

/-- Symbols of the first 128 characters, all of which but letters count as themselves alone. -/
def isSymbol (character : Char) : Bool :=
  character.toNat < 128 && !character.isAlpha && character != '\x00'

theorem toLower_symbol : ∀ character : Char, character.toNat < 128 → character.toLower.isAlpha = false →
    character.toLower = character :=
  forall_ascii (by decide +kernel)

theorem isAlpha_of_toLower : ∀ character : Char, character.toNat < 128 → character.toLower.isAlpha = true →
    character.isAlpha = true :=
  forall_ascii (by decide +kernel)

theorem eq_of_sameChar (symbol : isSymbol expected = true)
    (same : sameChar caseSensitive character expected = true) : character = expected := by
  simp only [isSymbol, Bool.and_eq_true, decide_eq_true_eq, Bool.not_eq_true', bne_iff_ne] at symbol
  obtain ⟨⟨low, noLetter⟩, printed⟩ := symbol
  have kept : expected.toLower = expected := by
    refine toLower_symbol expected low (Bool.eq_false_iff.mpr fun letter => ?_)
    rw [isAlpha_of_toLower expected low letter] at noLetter
    cases noLetter
  simp only [sameChar, Bool.or_eq_true, beq_iff_eq, Bool.and_eq_true] at same
  rcases same with rfl | ⟨_, same⟩
  · rfl
  have lower : Unicode.lowerChar expected = [expected] := by
    rw [Unicode.lowerChar, if_pos low, kept]
  rw [lower] at same
  unfold Unicode.lowerChar at same
  split at same
  next lowToo =>
    obtain rfl := List.cons.inj same |>.1
    exact (toLower_symbol character lowToo noLetter).symm
  next high =>
    split at same
    next => cases (List.cons.inj same).2
    next =>
      obtain rfl := (List.cons.inj same).1
      exfalso
      rcases Unicode.mapped_lowerRuns_beyond (by omega : 128 ≤ character.toNat) with beyond | kelvin
      · by_cases valid : (Unicode.mapped Unicode.lowerRuns character.toNat).isValidChar
        · rw [Char.ofNat, dif_pos valid] at low
          exact absurd low (Nat.not_lt.mpr beyond)
        · rw [Char.ofNat, dif_neg valid] at printed
          exact printed rfl
      · rw [kelvin] at noLetter
        exact absurd noLetter (by decide)

theorem sameChar_symm (left right : Char) :
    sameChar caseSensitive left right = sameChar caseSensitive right left := by
  simp only [sameChar, Bool.beq_comm]

theorem startsWith_symbol (symbol : isSymbol expected = true) (differs : text.head? ≠ some expected) :
    startsWith caseSensitive (expected :: word) text = false := by
  cases text with
  | nil => rfl
  | cons character text =>
      have other : sameChar caseSensitive character expected = false := by
        refine Bool.eq_false_iff.mpr fun same => differs ?_
        rw [List.head?_cons, eq_of_sameChar symbol same]
      simp [startsWith, other]

theorem startsWith_letter (letter : expected.isAlpha = true)
    (symbol : ∀ first ∈ text.head?, isSymbol first = true) :
    startsWith caseSensitive (expected :: word) text = false := by
  cases text with
  | nil => rfl
  | cons character text =>
      have begins := symbol character rfl
      have other : sameChar caseSensitive character expected = false := by
        refine Bool.eq_false_iff.mpr fun same => ?_
        obtain rfl := eq_of_sameChar begins (sameChar_symm .. ▸ same)
        simp [isSymbol, letter] at begins
      simp [startsWith, other]

end Scanner

namespace KeyPath

theorem foldRuns_beyond : ∀ run ∈ Unicode.foldRuns.tail, 128 ≤ run.first := by
  decide +kernel

theorem foldCode_low {character : Char} (low : character.toNat < 128) :
    Unicode.foldCode character.toNat = character.toLower.toNat := by
  have outside : Unicode.foldRuns.tail.find? (fun run => run.holds character.toNat) = none := by
    refine List.find?_eq_none.mpr fun run member holds => ?_
    have beyond := foldRuns_beyond run member
    simp only [Unicode.CaseRun.holds, Bool.and_eq_true, decide_eq_true_eq] at holds
    omega
  have runs : Unicode.foldRuns = ⟨0x41, 0x5A, 1, 32⟩ :: Unicode.foldRuns.tail := rfl
  have alone : Unicode.foldCode character.toNat =
      Unicode.mapped [⟨0x41, 0x5A, 1, 32⟩] character.toNat := by
    unfold Unicode.foldCode Unicode.mapped
    rw [runs, List.find?_cons, List.find?_cons, outside]
    rfl
  have all : ∀ character : Char, character.toNat < 128 →
      Unicode.mapped [⟨0x41, 0x5A, 1, 32⟩] character.toNat = character.toLower.toNat :=
    forall_ascii (by decide +kernel)
  rw [alone, all character low]

theorem sameFold_of_sameChar {caseSensitive : Bool} {character letter : Char}
    (low : character.toNat < 128) (lowLetter : letter.toNat < 128)
    (same : Scanner.sameChar caseSensitive character letter = true) :
    Unicode.sameFold letter character = true := by
  simp only [Unicode.sameFold, foldCode_low low, foldCode_low lowLetter, beq_iff_eq]
  simp only [Scanner.sameChar, Bool.or_eq_true, beq_iff_eq, Bool.and_eq_true] at same
  rcases same with rfl | ⟨_, same⟩
  · rfl
  · rw [Unicode.lowerChar, if_pos low, Unicode.lowerChar, if_pos lowLetter] at same
    rw [(List.cons.inj same).1]

/-- A name: some characters of names. -/
def IsName (name : List Char) : Prop :=
  name ≠ [] ∧ ∀ character ∈ name, CharClass.identifier character = true

instance (name : List Char) : Decidable (IsName name) :=
  inferInstanceAs (Decidable (name ≠ [] ∧ ∀ character ∈ name, CharClass.identifier character = true))

theorem identifier_low {character : Char} (named : CharClass.identifier character = true) :
    character.toNat < 128 := by
  delta CharClass.identifier Char.isAlphanum Char.isAlpha Char.isUpper Char.isLower Char.isDigit
    at named
  simp only [Bool.or_eq_true, Bool.and_eq_true, beq_iff_eq, decide_eq_true_eq, ge_iff_le,
    UInt32.le_iff_toNat_le] at named
  rcases named with (rfl | rfl) | (⟨_, upper⟩ | ⟨_, lower⟩) | ⟨_, digit⟩
  · decide
  · decide
  · exact Nat.lt_of_le_of_lt upper (by decide)
  · exact Nat.lt_of_le_of_lt lower (by decide)
  · exact Nat.lt_of_le_of_lt digit (by decide)

theorem letter_low {character : Char} (letter : character.isAlpha = true) : character.toNat < 128 :=
  identifier_low (by simp [CharClass.identifier, Char.isAlphanum, letter])

theorem digit_low {character : Char} (digit : character.isDigit = true) : character.toNat < 128 :=
  identifier_low (by simp [CharClass.identifier, Char.isAlphanum, digit])

/-- What follows a name does not go on with it. -/
def Severed (text : List Char) : Prop :=
  text.head?.all (fun character => Scanner.isSymbol character && !CharClass.identifier character) = true

theorem Severed.stops {text : List Char} (severed : Severed text) :
    text.head?.any CharClass.identifier = false := by
  unfold Severed at severed
  cases text with
  | nil => rfl
  | cons character text => simp_all

/-- Reading a word at the front of a name means that the name is escaped. -/
theorem startsWithWord_of_meets {caseSensitive : Bool} {word name behind : List Char}
    (letters : ∀ letter ∈ word, letter.isAlpha = true)
    (named : ∀ character ∈ name, CharClass.identifier character = true) (severed : Severed behind)
    (starts : Scanner.startsWith caseSensitive word (name ++ behind) = true)
    (ends : ((name ++ behind).drop word.length).head?.any CharClass.continuesKeyword = false) :
    startsWithWord word name = true := by
  induction word generalizing name with
  | nil =>
      cases name with
      | nil => rfl
      | cons character name =>
          have own := named character (by simp)
          have stops : CharClass.continuesKeyword character = false := by simpa using ends
          have dollar : character = '$' := by
            simp only [CharClass.identifier, CharClass.continuesKeyword, Bool.or_eq_true,
              Bool.or_eq_false_iff, beq_iff_eq, beq_eq_false_iff_ne] at own stops
            rcases own with (rfl | rfl) | other
            · exact absurd rfl stops.1
            · rfl
            · rw [other] at stops
              cases stops.2
          subst dollar
          show (!Unicode.isWord '$'.toNat) = true
          decide +kernel
  | cons letter word ih =>
      have isLetter := letters letter (by simp)
      cases name with
      | nil =>
          cases behind with
          | nil => cases starts
          | cons character behind =>
              simp only [List.nil_append, Scanner.startsWith, Bool.and_eq_true] at starts
              simp only [Severed, List.head?_cons, Option.all_some, Bool.and_eq_true] at severed
              obtain rfl := Scanner.eq_of_sameChar severed.1 (Scanner.sameChar_symm .. ▸ starts.1)
              simp [Scanner.isSymbol, isLetter] at severed
      | cons character name =>
          simp only [List.cons_append, Scanner.startsWith, Bool.and_eq_true] at starts
          have folds := sameFold_of_sameChar (identifier_low (named character (by simp)))
            (letter_low isLetter) starts.1
          simp only [startsWithWord, folds, Bool.true_and]
          exact ih (fun other member => letters other (by simp [member]))
            (fun other member => named other (by simp [member])) starts.2 ends

theorem reservedWords_letters : ∀ word ∈ reservedWords, ∀ letter ∈ word.toList,
    letter.isAlpha = true := by
  decide

/-- Where a name is not escaped, no word is read that it could be mistaken for. -/
theorem meetsWord_of_plain {caseSensitive : Bool} {name behind : List Char} (named : IsName name)
    (severed : Severed behind) (plain : needsEscape name = false) {word : String}
    (reserved : word ∈ reservedWords) :
    Parse.meetsWord caseSensitive word.toList (name ++ behind) = false := by
  refine Bool.eq_false_iff.mpr fun meets => ?_
  simp only [Parse.meetsWord, Bool.and_eq_true, Bool.not_eq_true', Bool.and_eq_false_imp] at meets
  have last : word.toList.getLast?.any CharClass.continuesKeyword = true := by
    have all : ∀ word ∈ reservedWords, word.toList.getLast?.any CharClass.continuesKeyword = true := by
      decide
    exact all word reserved
  have starts := startsWithWord_of_meets (reservedWords_letters word reserved) named.2 severed
    meets.1 (meets.2 last)
  have escapes : needsEscape name = true := by
    unfold needsEscape
    rw [Bool.or_eq_true]
    exact .inr (List.any_eq_true.mpr ⟨word, reserved, starts⟩)
  rw [plain] at escapes
  cases escapes

end KeyPath

end PredicateRules
