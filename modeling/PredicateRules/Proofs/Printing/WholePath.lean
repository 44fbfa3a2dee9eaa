import PredicateRules.Proofs.Printing.Compound
import PredicateRules.Proofs.Printing.ReadingBack

namespace PredicateRules

namespace Scanner

theorem sameChar_low {left right : Char} (low : left.toNat < 128) (lowRight : right.toNat < 128) :
    sameChar false left right = true ↔ left.toLower = right.toLower := by
  simp only [sameChar, Unicode.lowerChar, if_pos low, if_pos lowRight, Bool.or_eq_true, beq_iff_eq,
    Bool.not_false, Bool.true_and, List.cons.injEq, and_true, or_iff_right_iff_imp]
  exact congrArg Char.toLower

theorem startsWith_low {word text : List Char} (low : ∀ letter ∈ word, letter.toNat < 128)
    (lowText : ∀ character ∈ text, character.toNat < 128) :
    startsWith false word text = true ↔ ∃ front behind, text = front ++ behind ∧
      front.map Char.toLower = word.map Char.toLower := by
  induction word generalizing text with
  | nil => simp [startsWith]
  | cons letter word ih =>
      cases text with
      | nil => simp [startsWith]
      | cons character text =>
          have first := sameChar_low (lowText character (by simp)) (low letter (by simp))
          have others := ih (fun other member => low other (List.mem_cons_of_mem letter member))
            fun other member => lowText other (List.mem_cons_of_mem character member)
          rw [startsWith, Bool.and_eq_true, first, others]
          constructor
          · rintro ⟨same, front, behind, rfl, sameFront⟩
            exact ⟨character :: front, behind, rfl, by simp [same, sameFront]⟩
          · rintro ⟨front, behind, whole, same⟩
            obtain ⟨first, front, rfl, sameFirst, sameFront⟩ := List.map_eq_cons_iff.mp same
            obtain ⟨rfl, rfl⟩ := List.cons.inj whole
            exact ⟨sameFirst, front, behind, rfl, sameFront⟩

end Scanner

namespace Parse

variable {caseSensitive : Bool} {text rest behind word name : List Char}

theorem continuesKeyword_of_name {character : Char} (named : CharClass.identifier character = true) :
    CharClass.continuesKeyword character = false ↔ character = '$' := by
  simp only [CharClass.identifier, CharClass.continuesKeyword, Bool.or_eq_true, Bool.or_eq_false_iff,
    beq_iff_eq, beq_eq_false_iff_ne] at named ⊢
  constructor
  · rintro ⟨noLine, noLetter⟩
    rw [noLetter] at named
    simpa [noLine] using named
  · rintro rfl
    decide

theorem toLower_dollar {character : Char} (low : character.toNat < 128)
    (same : character.toLower = '$') : character = '$' :=
  Scanner.eq_of_sameChar (by decide) ((Scanner.sameChar_low low (by decide)).mpr same)

section

variable (named : ∀ character ∈ name, CharClass.identifier character = true)

include named

theorem meetsWord_name (letters : ∀ letter ∈ word, letter.isAlpha = true) (some : word ≠ []) :
    meetsWord false word name = true ↔ ∃ front behind, name = front ++ behind ∧
      front.map Char.toLower = word.map Char.toLower ∧ ∀ next ∈ behind.head?, next = '$' := by
  have low : ∀ letter ∈ word, letter.toNat < 128 := fun letter member =>
    KeyPath.letter_low (letters letter member)
  have last : word.getLast?.any CharClass.continuesKeyword = true := by
    rw [List.getLast?_eq_some_getLast some]
    simp [CharClass.continuesKeyword, Char.isAlphanum, letters _ (List.getLast_mem some)]
  have meets : meetsWord false word name = true ↔ Scanner.startsWith false word name = true ∧
      (name.drop word.length).head?.any CharClass.continuesKeyword = false := by
    simp [meetsWord, last]
  rw [meets, Scanner.startsWith_low low fun character member => KeyPath.identifier_low (named character member)]
  have ends : ∀ {front behind : List Char}, name = front ++ behind →
      front.map Char.toLower = word.map Char.toLower →
      ((name.drop word.length).head?.any CharClass.continuesKeyword = false ↔
        ∀ next ∈ behind.head?, next = '$') := by
    rintro front behind rfl same
    have length : front.length = word.length := by simpa using congrArg List.length same
    rw [← length, List.drop_left]
    cases behind with
    | nil => simp
    | cons next behind =>
        simpa using continuesKeyword_of_name (named next (by simp))
  constructor
  · rintro ⟨⟨front, behind, whole, same⟩, stops⟩
    exact ⟨front, behind, whole, same, (ends whole same).mp stops⟩
  · rintro ⟨front, behind, whole, same, dollar⟩
    exact ⟨⟨front, behind, whole, same⟩, (ends whole same).mpr dollar⟩

theorem prefix_dollar_iff : word.map Char.toLower ++ ['$'] <+: name.map Char.toLower ↔
    ∃ front behind, name = front ++ '$' :: behind ∧ front.map Char.toLower = word.map Char.toLower := by
  constructor
  · rintro ⟨tail, whole⟩
    rw [List.append_assoc, eq_comm, List.map_eq_append_iff] at whole
    obtain ⟨front, behind, rfl, same, sameBehind⟩ := whole
    obtain ⟨character, behind, rfl, dollar, _⟩ := List.map_eq_cons_iff.mp sameBehind
    have low := KeyPath.identifier_low (named character (by simp))
    obtain rfl := toLower_dollar low dollar
    exact ⟨front, behind, rfl, same⟩
  · rintro ⟨front, behind, rfl, same⟩
    exact ⟨behind.map Char.toLower, by simp [same]⟩

/-- A name other than the word meets it where it is the front of the name and a dollar sign is behind it. -/
theorem meetsWord_iff_prefix (letters : ∀ letter ∈ word, letter.isAlpha = true) (some : word ≠ [])
    (differs : name.map Char.toLower ≠ word.map Char.toLower) : meetsWord false word name = true ↔
      word.map Char.toLower ++ ['$'] <+: name.map Char.toLower := by
  rw [meetsWord_name named letters some, prefix_dollar_iff named]
  constructor
  · rintro ⟨front, behind, rfl, same, dollar⟩
    cases behind with
    | nil => exact absurd (by simpa using same) differs
    | cons next behind =>
        obtain rfl := dollar next rfl
        exact ⟨front, behind, rfl, same⟩
  · rintro ⟨front, behind, rfl, same⟩
    exact ⟨front, '$' :: behind, rfl, same, by simp⟩

end

theorem constantWords_letters : ∀ entry ∈ constantWords, entry.1.toList ≠ [] ∧
    ∀ letter ∈ entry.1.toList, letter.isAlpha = true := by
  decide

theorem meetsWord_severed (letters : ∀ letter ∈ word, letter.isAlpha = true)
    (severed : KeyPath.Severed behind) :
    meetsWord caseSensitive word (name ++ behind) = meetsWord caseSensitive word name := by
  cases behind with
  | nil => rw [List.append_nil]
  | cons symbol behind =>
      have apart : CharClass.continuesKeyword symbol = false := by
        simpa using Severed.stopsKeyword severed
      simp only [KeyPath.Severed, List.head?_cons, Option.all_some, Bool.and_eq_true] at severed
      exact meetsWord_before_symbol letters severed.1 apart

theorem firstMet_some {entry : String × Expression}
    (found : firstMet caseSensitive constantWords name = some entry) :
    entry ∈ constantWords ∧ meetsWord caseSensitive entry.1.toList name = true := by
  constructor
  · exact List.mem_of_find?_eq_some found
  · exact List.find?_some (p := fun other : String × Expression =>
      meetsWord caseSensitive other.1.toList name) found

theorem firstMet_name (unmet : ∀ entry ∈ constantWords, meetsWord caseSensitive entry.1.toList name = false)
    (severed : KeyPath.Severed behind) : firstMet caseSensitive constantWords (name ++ behind) = none := by
  refine List.find?_eq_none.mpr fun entry member => ?_
  rw [meetsWord_severed (constantWords_letters entry member).2 severed, unmet entry member]
  exact Bool.false_ne_true

theorem denotes_name (named : KeyPath.IsName name)
    (begins : ∀ first ∈ name.head?, first.isDigit = false ∧ first ≠ '$')
    (unmet : ∀ entry ∈ constantWords, meetsWord caseSensitive entry.1.toList name = false) :
    Denotes caseSensitive name (.keyPath (String.ofList name)) :=
  denotes_simple fun _ _ _ parted => simple_bare named begins (firstMet_name unmet parted.detached.1)
    parted.detached.1.stops

theorem dollar_apart : ∀ word ∈ suffixWords ++ joiningWords,
    Symbolic word ∧ word.toList.head? ≠ some '$' ∨ word.toList.head?.any Char.isAlpha = true := by
  decide

theorem behind_dollar {words : List String} (fewer : words ⊆ suffixWords ++ joiningWords) (text : List Char) :
    Behind words ('$' :: text) :=
  fun word member => silent_of_symbol (by decide) (by decide) (dollar_apart word (fewer member))

theorem constant_taken {which : Parser → Nat} {nested : Parse Expression} {first : Char}
    (begins : (text.dropWhile CharClass.skipped).head? = some first) (noDigit : first.isDigit = false)
    (differs : first ∉ ".-(\x7b".toList) {entry : String × Expression}
    (found : firstMet caseSensitive constantWords (text.dropWhile CharClass.skipped) = some entry)
    (dollar : (text.dropWhile CharClass.skipped).drop entry.1.toList.length = '$' :: rest) :
    Takes caseSensitive text (binary which nested) entry.2 ('$' :: rest) := by
  have word := firstKeyword_met constantWords_solid found
  rw [dollar] at word
  have constant : Takes caseSensitive text (simple which nested) entry.2 ('$' :: rest) :=
    simple_words begins noDigit differs (word.bind (.pure _))
  have operand : Takes caseSensitive text (functional which nested) entry.2 ('$' :: rest) :=
    constant.bind (Repeats.done (functionalStep_done (behind_dollar (by simp) rest) entry.2)).takes
  exact binary_of_functional operand (behind_dollar (by simp) rest)

theorem name_opens (named : KeyPath.IsName name) : ∃ first, name.head? = some first ∧
    name.dropWhile CharClass.skipped = name ∧ first ∉ ".-(\x7b".toList := by
  obtain ⟨first, tail, rfl⟩ := List.exists_cons_of_ne_nil named.1
  have own := named.2 first (by simp)
  have solid := CharClass.solid (by decide) own
  refine ⟨first, rfl, List.dropWhile_cons_of_neg (by simp [solid]), fun member => ?_⟩
  have symbols : ∀ symbol ∈ ".-(\x7b".toList, CharClass.identifier symbol = false := by decide
  rw [symbols first member] at own
  cases own

/-- A name that meets a word for a constant and goes on with a dollar sign is not read to its end. -/
theorem rejects_name (named : KeyPath.IsName name) (begins : ∀ first ∈ name.head?, first.isDigit = false)
    {entry : String × Expression} (found : firstMet false constantWords name = some entry)
    {front behind : List Char} (whole : name = front ++ '$' :: behind)
    (same : front.map Char.toLower = entry.1.toList.map Char.toLower) :
    Rejects false name (do
      let expression ← Parse.expression
      expectEnd
      return expression) := by
  obtain ⟨first, opens, solid, differs⟩ := name_opens named
  have length : front.length = entry.1.toList.length := by simpa using congrArg List.length same
  have dollar : name.drop entry.1.toList.length = '$' :: behind := by
    rw [whole, ← length, List.drop_left]
  have recurs : Recurs false name (fun again _ => binary Parser.nextArgument (again ())) () entry.2
      ('$' :: behind) := by
    intro depth enough
    obtain ⟨depth, rfl⟩ : ∃ less, depth = less + 1 := ⟨depth - 1, by omega⟩
    refine constant_taken ?_ (begins first opens) differs ?_ ?_ <;> rwa [solid]
  exact recurs.takes.rejects (expectEnd_rejected (by simp [CharClass.skipped])).bind

end Parse

namespace Expression

/-- A name is read as the key path that it is, unless a word for a constant and a dollar sign come first
in it. -/
theorem parse_name_iff {name : String} (named : KeyPath.IsName name.toList)
    (begins : ∀ first ∈ name.toList.head?, first.isDigit = false ∧ first ≠ '$')
    (unreserved : ∀ entry ∈ Parse.constantWords, Parse.lowerAscii name ≠ Parse.lowerAscii entry.1)
    (arguments : List Value) :
    parse name arguments false = .ok (.keyPath name) ↔
      ∀ entry ∈ Parse.constantWords, ¬ Parse.lowerAscii entry.1 ++ ['$'] <+: Parse.lowerAscii name := by
  have meets : ∀ entry ∈ Parse.constantWords, Parse.meetsWord false entry.1.toList name.toList = true ↔
      Parse.lowerAscii entry.1 ++ ['$'] <+: Parse.lowerAscii name := by
    intro entry member
    obtain ⟨some, letters⟩ := Parse.constantWords_letters entry member
    exact Parse.meetsWord_iff_prefix named.2 letters some (unreserved entry member)
  constructor
  · intro accepted entry member dollar
    obtain ⟨first, found⟩ : ∃ first, Parse.firstMet false Parse.constantWords name.toList = some first :=
      Option.isSome_iff_exists.mp
        (List.find?_isSome.mpr ⟨entry, member, (meets entry member).mpr dollar⟩)
    obtain ⟨among, met⟩ := Parse.firstMet_some found
    obtain ⟨front, behind, whole, same⟩ := (Parse.prefix_dollar_iff named.2).mp ((meets first among).mp met)
    have rejects := Parse.rejects_name named (fun first found => (begins first found).1) found whole same
    obtain ⟨error, stop, failed, _⟩ := rejects _ (Parser.facing_ofText name arguments false)
    unfold parse at accepted
    simp only [failed] at accepted
    cases accepted
  · intro apart
    have unmet : ∀ entry ∈ Parse.constantWords,
        Parse.meetsWord false entry.1.toList name.toList = false := by
      intro entry member
      rw [Bool.eq_false_iff, ne_eq, meets entry member]
      exact apart entry member
    have denotes := Parse.denotes_name named begins unmet
    rw [String.ofList_toList] at denotes
    exact parse_of_nests denotes.closes.nests

/-- A name that a word for a constant is the front of. -/
theorem parse_name_nullable : KeyPath.IsName "nullable".toList ∧
    parse "nullable" [] false = .ok (.keyPath "nullable") := by
  have named : KeyPath.IsName "nullable".toList := by decide
  refine ⟨named, (parse_name_iff named ?_ ?_ []).mpr ?_⟩
  · intro first begins
    obtain rfl : 'n' = first := Option.some.inj begins
    decide
  · decide
  · decide

/-- A dollar sign is of a name and ends a word, so that a name with both is no key path. -/
theorem parse_name_before_dollar : KeyPath.IsName "null$x".toList ∧
    (∀ entry ∈ Parse.constantWords, Parse.lowerAscii "null$x" ≠ Parse.lowerAscii entry.1) ∧
    ∀ path, parse "null$x" [] false ≠ .ok (.keyPath path) := by
  have rejected : (match parse "null$x" [] false with
      | .ok _ => false
      | .error _ => true) = true := by
    decide +kernel
  refine ⟨by decide, by decide, fun path accepted => ?_⟩
  rw [accepted] at rejected
  cases rejected

end Expression

namespace Parse

theorem isTerm_keyPaths {caseSensitive : Bool} {path other : String}
    (each : ∀ component ∈ KeyPath.components path.toList, KeyPath.IsComponent component)
    (eachOther : ∀ component ∈ KeyPath.components other.toList, KeyPath.IsComponent component)
    {operator : ComparisonOperator} (printed : operator ≠ .customSelector) :
    IsTerm caseSensitive ((KeyPath.text path).toList ++ spaced operator.symbol (KeyPath.text other).toList)
      (.direct (.keyPath path) operator (.keyPath other)) := by
  intro which depth rest _ ends
  have closes : Closes caseSensitive (KeyPath.text path).toList (.keyPath path) :=
    (denotes_keyPath (KeyPath.written_of_components each)).closes
  have closesOther : Closes caseSensitive (KeyPath.text other).toList (.keyPath other) :=
    (denotes_keyPath (KeyPath.written_of_components eachOther)).closes
  have plain : ComparisonOptions.none.normalized = false := rfl
  have taken : Takes caseSensitive _ (Parse.comparison which) _ rest :=
    comparison_between closes closesOther (wordless_keyPath each) printed plain .direct ends
  have word : operatorWord operator .none = operator.symbol := String.append_empty
  have whole : (KeyPath.text path).toList ++ spaced operator.symbol (KeyPath.text other).toList ++ rest =
      (KeyPath.text path).toList ++ spaced operator.symbol ((KeyPath.text other).toList ++ rest) := by
    simp [spaced]
  have severed := (detached_spaced operator.symbol ((KeyPath.text other).toList ++ rest)).1
  have wordless : Wordless caseSensitive _ := wordless_keyPath each severed
  rw [whole]
  refine termWith_comparison ?_ wordless.unled (word ▸ taken)
  rw [wordless.front]
  exact keyPath_unopened each

end Parse

namespace Expression

/-- The printed text of a key path is read as the path, by itself and on both sides of a comparison. -/
theorem parse_keyPath_text {path other : String}
    (each : ∀ component ∈ KeyPath.components path.toList, KeyPath.IsComponent component)
    (eachOther : ∀ component ∈ KeyPath.components other.toList, KeyPath.IsComponent component)
    (describe : Object → String) (arguments : List Value) (caseSensitive : Bool) :
    parse (text describe (.keyPath path)) arguments caseSensitive = .ok (.keyPath path) ∧
      Predicate.parse (text describe (.keyPath path) ++ " == " ++ text describe (.keyPath other)) arguments
        caseSensitive = .ok (.direct (.keyPath path) .equalTo (.keyPath other)) := by
  constructor
  · have denotes : Parse.Denotes caseSensitive (KeyPath.text path).toList (.keyPath path) :=
      Parse.denotes_keyPath (KeyPath.written_of_components each)
    exact parse_of_nests denotes.closes.nests
  · have isTerm : Parse.IsTerm caseSensitive _ _ :=
      Parse.isTerm_keyPaths each eachOther (by decide : ComparisonOperator.equalTo ≠ .customSelector)
    refine Predicate.parse_of_isTerms ?_ arguments
    have written : (KeyPath.text path ++ " == " ++ KeyPath.text other).toList =
        (KeyPath.text path).toList ++ Parse.spaced "==" (KeyPath.text other).toList := by
      simp [Parse.spaced]
    show Parse.IsTerms caseSensitive (KeyPath.text path ++ " == " ++ KeyPath.text other).toList _
    rw [written]
    exact isTerm.terms

/-- Words of both grammars, a number, a variable and an operator as components of key paths. -/
theorem parse_keyPath_text_words :
    (∀ component ∈ KeyPath.components "@count.self.2.$x.NOT".toList, KeyPath.IsComponent component) ∧
    (∀ component ∈ KeyPath.components "any.null$y".toList, KeyPath.IsComponent component) ∧
    parse (text (fun _ => "") (.keyPath "@count.self.2.$x.NOT")) [] true =
        .ok (.keyPath "@count.self.2.$x.NOT") ∧
      Predicate.parse (text (fun _ => "") (.keyPath "@count.self.2.$x.NOT") ++ " == " ++
        text (fun _ => "") (.keyPath "any.null$y")) [] true =
        .ok (.direct (.keyPath "@count.self.2.$x.NOT") .equalTo (.keyPath "any.null$y")) := by
  have each : ∀ component ∈ KeyPath.components "@count.self.2.$x.NOT".toList,
      KeyPath.IsComponent component := by
    decide
  have eachOther : ∀ component ∈ KeyPath.components "any.null$y".toList, KeyPath.IsComponent component := by
    decide
  exact ⟨each, eachOther, parse_keyPath_text each eachOther (fun _ => "") [] true⟩

end Expression

end PredicateRules
