import PredicateRules.Scanner.Basic

namespace PredicateRules

/-- What all characters of a text have is decided by the characters of the text alone. -/
instance decidableAllCharacters (text : List Char) (property : Char → Prop)
    [DecidablePred property] : Decidable (∀ character ∈ text, property character) :=
  List.decidableBAll property text

theorem forall_ascii {property : Char → Prop} (all : ∀ code < 128, property (Char.ofNat code)) :
    ∀ character : Char, character.toNat < 128 → property character := by
  intro character low
  have this := all character.toNat low
  rwa [Char.ofNat_toNat] at this

/-- What does not begin in the set does not prolong a run of the set. -/
theorem takeWhile_append_of_stops {set : Char → Bool} {back : List Char} (stops : back.head?.any set = false)
    (text : List Char) :
    (text ++ back).takeWhile set = text.takeWhile set ∧
      (text ++ back).dropWhile set = text.dropWhile set ++ back := by
  induction text with
  | nil =>
      cases back with
      | nil => exact ⟨rfl, rfl⟩
      | cons character back =>
          have outside : set character = false := by simpa using stops
          simp [outside]
  | cons character text ih =>
      cases inside : set character with
      | false => simp [inside]
      | true => simp [inside, ih.1, ih.2]

theorem takeWhile_stop {set : Char → Bool} {run rest : List Char}
    (inside : ∀ character ∈ run, set character = true) (stops : rest.head?.any set = false) :
    (run ++ rest).takeWhile set = run ∧ (run ++ rest).dropWhile set = rest := by
  obtain ⟨taken, left⟩ := takeWhile_append_of_stops stops []
  rw [List.takeWhile_append_of_pos inside, List.dropWhile_append_of_pos inside]
  exact ⟨by simpa using taken, left⟩

theorem dropWhile_stops (set : Char → Bool) (text : List Char) :
    (text.dropWhile set).head?.any set = false := by
  have stops := List.head?_dropWhile_not set text
  cases first : (text.dropWhile set).head? with
  | none => rfl
  | some character =>
      rw [first] at stops
      exact stops

/-- What a character is good for outside of quotation marks. -/
inductive Mark where
  | quote (character : Char)
  | opening
  | closing
  | percent
  | colon
  | space
  | plain
  deriving DecidableEq

namespace Mark

def of (character : Char) : Mark :=
  if character ∈ "\"'".toList then quote character
  else if character ∈ "([\x7b".toList then opening
  else if character ∈ ")]\x7d".toList then closing
  else if character = '%' then percent
  else if character = ':' then colon
  else if character = ' ' then space
  else plain

def idle : Mark → Bool
  | colon | space | plain => true
  | _ => false

def isQuote : Mark → Bool
  | quote _ => true
  | _ => false

theorem of_beyond {character : Char} (beyond : 128 ≤ character.toNat) : of character = plain := by
  have other : ∀ special : Char, special.toNat < 128 → character ≠ special := by
    rintro special low rfl
    omega
  have quotes : character ∉ "\"'".toList := by
    simp [other]
  have openings : character ∉ "([\x7b".toList := by
    simp [other]
  have closings : character ∉ ")]\x7d".toList := by
    simp [other]
  simp only [of, quotes, openings, closings, if_false, other '%' (by decide), other ':' (by decide),
    other ' ' (by decide)]

def special : List Char :=
  "\"'".toList ++ ("([\x7b".toList ++ (")]\x7d".toList ++ ['%']))

theorem mem_special {character : Char} (busy : (of character).idle = false) :
    character ∈ special := by
  simp only [special, List.mem_append, List.mem_singleton]
  unfold of at busy
  split at busy
  next quotes => exact .inl quotes
  next =>
    split at busy
    next openings => exact .inr (.inl openings)
    next =>
      split at busy
      next closings => exact .inr (.inr (.inl closings))
      next =>
        split at busy
        next percent => exact .inr (.inr (.inr percent))
        next => repeat' first | split at busy | cases busy

theorem idle_of_class {set : CharClass} (excluded : ∀ character ∈ special, set character = false)
    {character : Char} (member : set character = true) : (of character).idle = true := by
  cases busy : (of character).idle with
  | true => rfl
  | false =>
      have outside := excluded character (mem_special busy)
      rw [member] at outside
      cases outside

theorem idle_of_skipped {character : Char} :
    CharClass.skipped character = true → (of character).idle = true :=
  idle_of_class (by decide)

theorem eq_of_of_eq_colon {character : Char} (same : of character = colon) : character = ':' := by
  unfold of at same
  repeat' split at same
  all_goals first | assumption | cases same

end Mark

namespace Unicode

theorem target_of_mem_lowerRuns : ∀ run ∈ lowerRuns, 128 ≤ run.last →
    128 ≤ run.first + run.offset ∨ run.first = run.last ∧ run.target run.first = 'k'.toNat := by
  decide +kernel

/-- In lower case no other character becomes one of the first 128, but for the sign for kelvin. -/
theorem mapped_lowerRuns_beyond {code : Nat} (beyond : 128 ≤ code) :
    128 ≤ mapped lowerRuns code ∨ mapped lowerRuns code = 'k'.toNat := by
  unfold mapped
  split
  next run found =>
    have holds := List.find?_some found
    simp only [CaseRun.holds, Bool.and_eq_true, decide_eq_true_eq] at holds
    obtain ⟨⟨first, last⟩, _⟩ := holds
    rcases target_of_mem_lowerRuns run (List.mem_of_find?_eq_some found) (by omega) with high | ⟨one, kelvin⟩
    · left
      unfold CaseRun.target
      omega
    · right
      obtain rfl : code = run.first := by omega
      exact kelvin
  next _ => exact .inl beyond

end Unicode

namespace Mark

theorem of_ofNat_beyond {code : Nat} (beyond : 128 ≤ code) : of (Char.ofNat code) = plain := by
  by_cases valid : code.isValidChar
  · refine of_beyond ?_
    rw [Char.ofNat, dif_pos valid]
    exact beyond
  · rw [Char.ofNat, dif_neg valid]
    decide

theorem of_toLower : ∀ character : Char, character.toNat < 128 →
    of character.toLower = of character :=
  forall_ascii (by decide +kernel)

theorem of_lowerChar (character : Char) :
    (∀ lower ∈ (Unicode.lowerChar character).head?, of lower = of character) := by
  intro lower found
  unfold Unicode.lowerChar at found
  split at found
  next low =>
    obtain rfl := Option.some.inj found
    exact of_toLower character low
  next high =>
    rw [of_beyond (by omega : 128 ≤ character.toNat)]
    split at found
    next _ =>
      obtain rfl := Option.some.inj found
      decide
    next _ =>
      obtain rfl := Option.some.inj found
      rcases Unicode.mapped_lowerRuns_beyond (by omega : 128 ≤ character.toNat) with beyond | kelvin
      · exact of_ofNat_beyond beyond
      · rw [kelvin]
        decide

theorem of_sameChar {caseSensitive : Bool} {left right : Char}
    (same : Scanner.sameChar caseSensitive left right = true) : of left = of right := by
  simp only [Scanner.sameChar, Bool.or_eq_true, beq_iff_eq, Bool.and_eq_true] at same
  rcases same with rfl | ⟨_, same⟩
  · rfl
  · have leftKept := of_lowerChar left
    have rightKept := of_lowerChar right
    rw [same] at leftKept
    cases found : (Unicode.lowerChar right).head? with
    | none =>
        unfold Unicode.lowerChar at found
        split at found
        · cases found
        · split at found <;> cases found
    | some lower => rw [← leftKept lower found, ← rightKept lower found]

end Mark

/-- Where a text has got to. -/
structure Lexis where
  quote : Option Char
  depth : Nat
  placeholders : Nat

namespace Lexis

def step (lexis : Lexis) (character : Char) : Lexis :=
  match lexis.quote with
  | some mark => if character = mark then { lexis with quote := none } else lexis
  | none =>
    match Mark.of character with
    | .quote mark => { lexis with quote := some mark }
    | .opening => { lexis with depth := lexis.depth + 1 }
    | .closing => { lexis with depth := lexis.depth - 1 }
    | .percent => { lexis with placeholders := lexis.placeholders + 1 }
    | _ => lexis

/-- What characters lead to, the nearest first. -/
def after : List Char → Lexis
  | [] => ⟨none, 0, 0⟩
  | character :: before => (after before).step character

theorem after_append (text passed : List Char) :
    after (text.reverse ++ passed) = text.foldl step (after passed) := by
  induction text generalizing passed with
  | nil => rfl
  | cons character text ih =>
      have moved := ih (character :: passed)
      simpa [after] using moved

theorem placeholders_step (lexis : Lexis) (character : Char) :
    lexis.placeholders ≤ (lexis.step character).placeholders := by
  unfold step
  cases lexis.quote with
  | some mark =>
      dsimp only
      split <;> exact Nat.le_refl _
  | none =>
      cases Mark.of character with
      | percent => exact Nat.le_succ _
      | _ => exact Nat.le_refl _

theorem placeholders_foldl (lexis : Lexis) (text : List Char) :
    lexis.placeholders ≤ (text.foldl step lexis).placeholders := by
  induction text generalizing lexis with
  | nil => exact Nat.le_refl _
  | cons character text ih => exact Nat.le_trans (placeholders_step lexis character) (ih _)

theorem step_idle {lexis : Lexis} (outside : lexis.quote = none) {character : Char}
    (idle : (Mark.of character).idle = true) : lexis.step character = lexis := by
  unfold step
  rw [outside]
  cases kind : Mark.of character <;> simp_all [Mark.idle]

theorem foldl_idle {lexis : Lexis} (outside : lexis.quote = none) {text : List Char}
    (idle : ∀ character ∈ text, (Mark.of character).idle = true) :
    text.foldl step lexis = lexis := by
  induction text with
  | nil => rfl
  | cons character text ih =>
      rw [List.foldl_cons, step_idle outside (idle character (by simp))]
      exact ih fun other member => idle other (by simp [member])

/-- Outside of quotation marks only the marks of characters count. -/
theorem step_of_same {lexis : Lexis} (outside : lexis.quote = none) {character other : Char}
    (same : Mark.of character = Mark.of other) : lexis.step character = lexis.step other := by
  unfold step
  rw [outside]
  dsimp only
  rw [same]

theorem foldl_of_same {lexis : Lexis} (outside : lexis.quote = none) {text word : List Char}
    (same : text.map Mark.of = word.map Mark.of)
    (unquoted : ∀ character ∈ word, (Mark.of character).isQuote = false) :
    text.foldl step lexis = word.foldl step lexis ∧ (word.foldl step lexis).quote = none := by
  induction word generalizing text lexis with
  | nil =>
      obtain rfl := List.map_eq_nil_iff.mp same
      exact ⟨rfl, outside⟩
  | cons expected word ih =>
      cases text with
      | nil => cases same
      | cons character text =>
          obtain ⟨sameFirst, sameRest⟩ := List.cons.inj same
          have stillOutside : (lexis.step expected).quote = none := by
            have first := unquoted expected (by simp)
            unfold step
            cases kind : Mark.of expected <;> simp_all [Mark.isQuote]
          rw [List.foldl_cons, List.foldl_cons, step_of_same outside sameFirst]
          exact ih stillOutside sameRest fun other member => unquoted other (by simp [member])

end Lexis

namespace Scanner

theorem startsWith_marks {caseSensitive : Bool} {word text : List Char}
    (starts : startsWith caseSensitive word text = true) :
    word.length ≤ text.length ∧ (text.take word.length).map Mark.of = word.map Mark.of := by
  induction word generalizing text with
  | nil => simp
  | cons expected word ih =>
      cases text with
      | nil => cases starts
      | cons character text =>
          simp only [startsWith, Bool.and_eq_true] at starts
          obtain ⟨length, marks⟩ := ih starts.2
          refine ⟨Nat.succ_le_succ length, ?_⟩
          simp [marks, Mark.of_sameChar starts.1]

theorem startsWith_append {caseSensitive : Bool} {word : List Char}
    (solid : ∀ character ∈ word, Mark.of character ≠ .space) {back : List Char}
    (spaced : ∀ character ∈ back.head?, character = ' ') (text : List Char) :
    startsWith caseSensitive word (text ++ back) = startsWith caseSensitive word text := by
  induction word generalizing text with
  | nil => simp [startsWith]
  | cons expected word ih =>
      cases text with
      | nil =>
          cases back with
          | nil => rfl
          | cons character back =>
              obtain rfl := spaced character (by simp)
              have differs : sameChar caseSensitive ' ' expected = false := by
                refine Bool.eq_false_iff.mpr fun same => ?_
                have marks : Mark.space = Mark.of expected := Mark.of_sameChar same
                exact solid expected (by simp) marks.symm
              simp [startsWith, differs]
      | cons character text =>
          have rest := ih (fun other member => solid other (by simp [member])) text
          simp [startsWith, rest]

theorem head?_append {back : List Char} (spaced : ∀ character ∈ back.head?, character = ' ')
    {wanted : Char} (solid : wanted ≠ ' ') (text : List Char) :
    (text ++ back).head? = some wanted ↔ text.head? = some wanted := by
  cases text with
  | cons character text => rfl
  | nil =>
      cases back with
      | nil => rfl
      | cons character back =>
          obtain rfl := spaced character rfl
          simp [solid.symm]

theorem takeWhile_append {back : List Char} (spaced : ∀ character ∈ back.head?, character = ' ')
    {set : CharClass} (excluded : set ' ' = false) (text : List Char) :
    (text ++ back).takeWhile set = text.takeWhile set ∧
      (text ++ back).dropWhile set = text.dropWhile set ++ back := by
  refine takeWhile_append_of_stops ?_ text
  cases back with
  | nil => rfl
  | cons character back =>
      obtain rfl := spaced character rfl
      exact excluded

end Scanner

end PredicateRules
