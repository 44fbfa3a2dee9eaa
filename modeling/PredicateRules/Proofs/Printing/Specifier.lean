import Mathlib.Data.List.DropRight
import PredicateRules.Proofs.Printing.Compound
import PredicateRules.Proofs.Reading.Ruleset

namespace PredicateRules

open PredicateRules.Parser

/-- A predicate as it is written before a body, in parentheses of its own or without. -/
structure Specifier where
  predicate : Predicate
  enclosed : Bool

def Specifier.text (describe : Object → String) (specifier : Specifier) : String :=
  if specifier.enclosed then Expression.inParentheses (specifier.predicate.text describe)
  else specifier.predicate.text describe

/-- Declarations that can be written. -/
structure Declaration.IsPlain (declaration : Declaration) : Prop where
  keyed : declaration.key.toList ≠ []
  inside : ∀ character ∈ declaration.key.toList, CharClass.propertyKey character = true
  value : declaration.value.IsOperand

def Declaration.text (describe : Object → String) (declaration : Declaration) : String :=
  declaration.key ++ ": " ++ declaration.value.text describe ++ ";"

namespace Parse

variable {α : Type} {caseSensitive : Bool} {text rest behind : List Char} {describe : Object → String}
  {predicate : Predicate}

theorem Takes.tried {step : Parse α} {result : α} (takes : Takes caseSensitive text step result rest) :
    Takes caseSensitive text (Parse.tried step) (some result) rest := by
  intro parser facing
  obtain ⟨stop, same, there, whole⟩ := takes parser facing
  refine ⟨stop, ?_, there, whole⟩
  rw [Setting.tried_eq, same]

theorem Rejects.tried {step : Parse α} (rejects : Rejects caseSensitive text step) :
    Takes caseSensitive text (Parse.tried step) none text := by
  intro parser facing
  obtain ⟨error, stop, failed, skips, sensitive⟩ := rejects parser facing
  refine ⟨stop.back parser, ?_, ⟨skips, sensitive, facing.ahead⟩, rfl⟩
  rw [Setting.tried_eq, failed]

/-- Nothing at either end of the text is skipped. -/
structure Trimmed (text : List Char) : Prop where
  first : ∀ character ∈ text.head?, CharClass.skipped character = false
  last : ∀ character ∈ text.getLast?, CharClass.skipped character = false

theorem Trimmed.front (trimmed : Trimmed text) (some : text ≠ []) :
    (text ++ rest).dropWhile CharClass.skipped = text ++ rest := by
  cases text with
  | nil => exact absurd rfl some
  | cons first text => simp [trimmed.first first rfl]

theorem Trimmed.trimSkipped (trimmed : Trimmed text) : trimSkipped text = text := by
  have solid : ∀ {text : List Char}, (∀ character ∈ text.head?, CharClass.skipped character = false) →
      text.dropWhile CharClass.skipped = text := by
    intro text first
    cases text with
    | nil => rfl
    | cons character text => simp [first character rfl]
  have last : text.reverse.dropWhile CharClass.skipped = text.reverse :=
    solid (by rw [List.head?_reverse]; exact trimmed.last)
  unfold Parse.trimSkipped
  rw [solid trimmed.first, last, List.reverse_reverse]

theorem getLast?_enclosed (first last : Char) (text : List Char) :
    (first :: (text ++ [last])).getLast? = some last := by
  rw [← List.cons_append, List.getLast?_append]
  rfl

theorem trimmed_enclosed (text : List Char) : Trimmed ('(' :: (text ++ [')'])) := by
  refine ⟨fun _ found => Option.some.inj found ▸ by decide, ?_⟩
  rw [getLast?_enclosed]
  exact fun _ found => Option.some.inj found ▸ by decide

theorem componentText_solid {name : List Char} (named : KeyPath.IsName name) :
    ∀ character ∈ KeyPath.componentText name, CharClass.skipped character = false := by
  intro character member
  unfold KeyPath.componentText at member
  split at member
  · rcases List.mem_cons.mp member with rfl | member
    · decide
    · exact CharClass.solid (by decide) (named.2 character member)
  · exact CharClass.solid (by decide) (named.2 character member)

theorem components_solid {names : List (List Char)} (named : ∀ name ∈ names, KeyPath.IsName name) :
    ∀ character ∈ (".".intercalate (names.map fun name =>
        String.ofList (KeyPath.componentText name))).toList,
      CharClass.skipped character = false := by
  induction names with
  | nil => simp
  | cons first others ih =>
      have own := componentText_solid (named first (by simp))
      have further := ih fun other listed => named other (by simp [listed])
      cases others with
      | nil => simpa using own
      | cons next others =>
          simp only [List.map_cons, String.intercalate_cons_cons, String.toList_append,
            String.toList_ofList, List.append_assoc, List.forall_mem_append] at further ⊢
          exact ⟨own, by decide, further⟩

theorem operand_last {operand : Expression} (isOperand : operand.IsOperand) :
    ∀ character ∈ (operand.text describe).toList.getLast?, CharClass.skipped character = false := by
  intro character last
  cases operand with
  | keyPath path => exact components_solid isOperand character (List.mem_of_getLast? last)
  | constant value =>
      cases value with
      | int number =>
          change character ∈ (Value.intText number).toList.getLast? at last
          unfold Value.intText at last
          by_cases signed : number.toInt < 0
          · have letters : ("(-" ++ String.ofList (Nat.toDigits 10 number.toInt.natAbs) ++ ")").toList =
                '(' :: ('-' :: Nat.toDigits 10 number.toInt.natAbs ++ [')']) := by
              simp
            simp only [signed, if_true, letters, getLast?_enclosed] at last
            obtain rfl := Option.some.inj last
            decide
          · simp only [signed, if_false, String.toList_ofList] at last
            have isDigit : character.isDigit = true :=
              Nat.isDigit_of_mem_toDigits (by decide) (by decide) (List.mem_of_getLast? last)
            exact CharClass.solid (by decide) isDigit
      | string string =>
          change character ∈ (Value.quoted string).toList.getLast? at last
          rw [toList_quoted] at last
          dsimp only at last
          rw [getLast?_enclosed] at last
          obtain rfl := Option.some.inj last
          split <;> decide
      | _ => exact isOperand.elim
  | _ => exact isOperand.elim

theorem specifier_taken (takes : Takes caseSensitive (text ++ rest) Parse.predicate predicate rest)
    (some : text ≠ []) (trimmed : Trimmed text) :
    Takes caseSensitive (text ++ rest) Parse.specifier (String.ofList text) rest := by
  intro parser facing
  obtain ⟨stop, same, there, whole⟩ := takes parser facing
  refine ⟨stop, ?_, there, whole⟩
  have ahead : parser.scanner.ahead = text ++ rest := facing.ahead.trans (trimmed.front some)
  have split : rest.takeWhile CharClass.skipped ++ stop.scanner.ahead = rest := by
    rw [there.ahead, List.takeWhile_append_dropWhile]
  have lengths := congrArg List.length split
  have positive := List.length_pos_iff.mpr some
  rw [List.length_append] at lengths
  have crossed : parser.scanner.ahead.take (parser.scanner.ahead.length - stop.scanner.ahead.length) =
      text ++ rest.takeWhile CharClass.skipped := by
    have cut : text ++ rest = (text ++ rest.takeWhile CharClass.skipped) ++ stop.scanner.ahead := by
      rw [List.append_assoc, split]
    have length : (text ++ rest).length - stop.scanner.ahead.length =
        (text ++ rest.takeWhile CharClass.skipped).length := by
      rw [List.length_append, List.length_append]
      omega
    rw [ahead, length, cut, List.take_left]
  have shorter : stop.scanner.ahead.length < parser.scanner.ahead.length := by
    rw [ahead, List.length_append]
    omega
  rw [Setting.specifier_eq, same]
  simp only [Scanner.trimmed_slice whole shorter, crossed,
    trimSkipped_append_right (List.all_eq_true.mp List.all_takeWhile), trimmed.trimSkipped]

/-- No colon comes behind the characters of keys that the text begins with. -/
def Undeclared (text : List Char) : Prop :=
  (((text.dropWhile CharClass.skipped).dropWhile CharClass.propertyKey).dropWhile
    CharClass.skipped).head? ≠ some ':'

theorem undeclared_run (run : List Char) (front : (run ++ text).dropWhile CharClass.skipped = run ++ text)
    (inside : ∀ character ∈ run, CharClass.propertyKey character = true)
    (stops : text.head?.any CharClass.propertyKey = false)
    (other : (text.dropWhile CharClass.skipped).head? ≠ some ':') : Undeclared (run ++ text) := by
  unfold Undeclared
  rwa [front, (takeWhile_stop inside stops).2]

theorem undeclared_first {first : Char} (solid : CharClass.skipped first = false)
    (stops : CharClass.propertyKey first = false) (differs : first ≠ ':') :
    Undeclared (first :: text) := by
  refine undeclared_run [] (by simp [solid]) (by simp) (by simp [stops]) ?_
  simpa [solid] using differs

theorem declaration_rejected (undeclared : Undeclared text) :
    Rejects caseSensitive text declaration := by
  have front : Rejects caseSensitive (text.dropWhile CharClass.skipped) declaration := by
    unfold Undeclared at undeclared
    have inside : ∀ character ∈ (text.dropWhile CharClass.skipped).takeWhile CharClass.propertyKey,
        CharClass.propertyKey character = true := List.all_eq_true.mp List.all_takeWhile
    have stops := dropWhile_stops CharClass.propertyKey (text.dropWhile CharClass.skipped)
    have split := List.takeWhile_append_dropWhile (p := CharClass.propertyKey)
      (l := text.dropWhile CharClass.skipped)
    by_cases none : (text.dropWhile CharClass.skipped).takeWhile CharClass.propertyKey = []
    · refine Rejects.bind (characters_rejected _ ?_)
      rw [none, List.nil_append] at split
      rwa [List.dropWhile_idempotent, ← split]
    · have missing : Scanner.startsWith caseSensitive ":".toList _ = false :=
        startsWith_other ":" (by decide) undeclared
      rw [← split]
      refine (characters_taken (by decide) _ none inside stops).rejects ?_
      exact Rejects.bind (expect_rejected ":" (by decide) _ missing)
  intro parser facing
  refine front parser ⟨facing.skips, facing.caseSensitive, ?_⟩
  rw [facing.ahead, List.dropWhile_idempotent]

theorem declaration_taken {declaration : Declaration} (plain : declaration.IsPlain) :
    Takes caseSensitive (declaration.key.toList ++ ':' :: ' ' ::
        ((declaration.value.text describe).toList ++ ';' :: rest))
      Parse.declaration declaration (';' :: rest) := by
  have value : Denotes caseSensitive _ declaration.value := denotes_operand describe plain.value
  refine (characters_taken (by decide) _ plain.keyed plain.inside rfl).bind ?_
  refine (expect_taken ":" (by decide) _).bind (Takes.after_space ?_)
  refine (value.closes.nests.expression (ends_closer (by decide) rest)).bind ?_
  rw [String.ofList_toList]
  exact .pure declaration

theorem Silent.differs {word : String} {first : Char} (silent : Silent word text)
    (single : word.toList = [first]) : text.head? ≠ some first := by
  intro begins
  obtain ⟨tail, rfl⟩ := List.head?_eq_some_iff.mp begins
  have missing := silent true
  rw [single] at missing
  have met := Scanner.startsWith_self true [first] tail
  rw [List.singleton_append, missing] at met
  cases met

theorem Ends.uncolon (ends : Ends text) : (text.dropWhile CharClass.skipped).head? ≠ some ':' :=
  Silent.differs (ends.single ":" (by decide)) rfl

theorem Ends.unkeyed (ends : Ends text) : text.head?.any CharClass.propertyKey = false := by
  cases text with
  | nil => rfl
  | cons first text =>
      have unnamed : CharClass.identifier first = false := by
        simpa using KeyPath.Severed.stops ends.parted.detached.1
      have solid : CharClass.skipped '-' = false := by decide
      have differs : first ≠ '-' := by
        rintro rfl
        have missing : (('-' :: text).dropWhile CharClass.skipped).head? ≠ some '-' :=
          Silent.differs (ends.alone "-" (by decide)) rfl
        exact missing (by simp [solid])
      simp only [CharClass.identifier, Bool.or_eq_false_iff] at unnamed
      simp [CharClass.propertyKey, unnamed, differs]

theorem undeclared_name (name : List Char) (named : KeyPath.IsName name)
    (stops : text.head?.any CharClass.propertyKey = false)
    (other : (text.dropWhile CharClass.skipped).head? ≠ some ':') : Undeclared (name ++ text) := by
  have solid : ∀ character ∈ name, CharClass.skipped character = false :=
    fun character member => CharClass.solid (by decide) (named.2 character member)
  have front : (name ++ text).dropWhile CharClass.skipped = name ++ text := by
    obtain ⟨first, tail, rfl⟩ := List.exists_cons_of_ne_nil named.1
    simp [solid first]
  have split := List.takeWhile_append_dropWhile (p := CharClass.propertyKey) (l := name)
  have inside : ∀ character ∈ name.takeWhile CharClass.propertyKey,
      CharClass.propertyKey character = true := List.all_eq_true.mp List.all_takeWhile
  cases behind : name.dropWhile CharClass.propertyKey with
  | nil =>
      rw [behind, List.append_nil] at split
      exact undeclared_run _ front (split ▸ inside) stops other
  | cons first tail =>
      -- What is of names but not of keys is a dollar sign.
      have outside := dropWhile_stops CharClass.propertyKey name
      rw [behind] at split outside
      have member : first ∈ name := split ▸ List.mem_append_right _ List.mem_cons_self
      have differs : first ≠ ':' := by
        rintro rfl
        exact absurd (named.2 ':' member) (by decide)
      rw [← split, List.append_assoc] at front ⊢
      exact undeclared_run _ front inside outside (by simpa [solid first member] using differs)

/-- An operand of a predicate is no beginning of a declaration. -/
theorem undeclared_operand {operand : Expression} (isOperand : operand.IsOperand) (ends : Ends behind) :
    Undeclared ((operand.text describe).toList ++ behind) := by
  cases operand with
  | keyPath path =>
      show Undeclared ((KeyPath.text path).toList ++ behind)
      cases split : KeyPath.components path.toList with
      | nil => exact absurd split (KeyPath.components_ne_nil _)
      | cons first others =>
          obtain ⟨tail, whole, pointed⟩ := text_components split
          have named : KeyPath.IsName first := isOperand first (by simp [split])
          rw [whole, List.append_assoc]
          unfold KeyPath.componentText
          split
          · exact undeclared_first (by decide) (by decide) (by decide)
          · cases tail with
            | nil => exact undeclared_name _ named ends.unkeyed ends.uncolon
            | cons character tail =>
                obtain rfl := pointed character rfl
                exact undeclared_name _ named rfl (head?_ne (by decide) (by decide))
  | constant value =>
      cases value with
      | int number =>
          show Undeclared ((Value.intText number).toList ++ behind)
          unfold Value.intText
          by_cases signed : number.toInt < 0
          · simp only [signed, if_true, String.toList_append]
            exact undeclared_first (by decide) (by decide) (by decide)
          · simp only [signed, if_false, String.toList_ofList]
            refine undeclared_name _ ⟨Nat.toDigits_ne_nil, fun digit member => ?_⟩ ends.unkeyed ends.uncolon
            have isDigit : digit.isDigit = true :=
              Nat.isDigit_of_mem_toDigits (by decide) (by decide) member
            simp [CharClass.identifier, Char.isAlphanum, isDigit]
      | string string =>
          show Undeclared ((Value.quoted string).toList ++ behind)
          rw [toList_quoted]
          dsimp only
          split
          · exact undeclared_first (by decide) (by decide) (by decide)
          · exact undeclared_first (by decide) (by decide) (by decide)
      | _ => exact isOperand.elim
  | _ => exact isOperand.elim

/-- What there is to know of the text of a specifier where it stands. -/
structure Specifies (text : List Char) : Prop where
  some : text ≠ []
  trimmed : Trimmed text
  undeclared : ∀ rest, Ends rest → Undeclared (text ++ rest)

theorem specifies_enclosed (inner : String) : Specifies (Expression.inParentheses inner).toList := by
  rw [toList_inParentheses]
  exact ⟨List.cons_ne_nil _ _, trimmed_enclosed _,
    fun _ _ => undeclared_first (by decide) (by decide) (by decide)⟩

theorem specifies_name {name : List Char} (named : KeyPath.IsName name) : Specifies name := by
  have solid : ∀ character ∈ name, CharClass.skipped character = false :=
    fun character member => CharClass.solid (by decide) (named.2 character member)
  refine ⟨named.1, ⟨fun first begins => ?_, fun last ends => ?_⟩, fun rest ends => ?_⟩
  · exact solid first (List.mem_of_head? begins)
  · exact solid last (List.mem_of_getLast? ends)
  · exact undeclared_name _ named ends.unkeyed ends.uncolon

theorem getLast?_append_solid (front : List Char) (some : text ≠ [])
    (last : ∀ character ∈ text.getLast?, CharClass.skipped character = false) :
    ∀ character ∈ (front ++ text).getLast?, CharClass.skipped character = false := by
  intro character found
  obtain ⟨final, same⟩ := Option.ne_none_iff_exists'.mp (mt List.getLast?_eq_none_iff.mp some)
  rw [List.getLast?_append, same, Option.some_or] at found
  exact last character (same.trans found)

theorem specifies_comparison {inner : Comparison} (plain : inner.IsPlain) :
    Specifies (inner.text describe).toList := by
  have left : Closes true _ inner.left := (denotes_operand describe plain.left).closes
  have right : Closes true _ inner.right := (denotes_operand describe plain.right).closes
  have some : (inner.right.text describe).toList ≠ [] := by
    intro none
    -- No operand can be read from nothing.
    have fertile := right.not_barren ends_nil
    rw [none] at fertile
    exact fertile rfl
  have operator : ∀ {rest}, Ends rest → Ends (spaced (operatorWord inner.operator inner.options)
      ((inner.right.text describe).toList ++ rest)) :=
    fun ends => ends_operator plain.operator (right.begins ends) inner.options
  have whole := toList_comparison describe inner
  have text := whole []
  rw [List.append_nil, List.append_nil] at text
  refine ⟨?_, ⟨?_, ?_⟩, fun rest ends => ?_⟩
  · rw [text]
    simp [spaced]
  · have wordless : Wordless true _ := wordless_operand describe plain.left
      (operator ends_nil).parted.detached.1
    rw [List.append_nil] at wordless
    rw [text]
    cases inner.modifier with
    | direct => exact wordless.solid
    | any => exact fun _ found => Option.some.inj found ▸ by decide
    | all => exact fun _ found => Option.some.inj found ▸ by decide
  · have last := getLast?_append_solid (inner.modifier.text.toList ++
      ((inner.left.text describe).toList ++
        ' ' :: ((operatorWord inner.operator inner.options).toList ++ [' ']))) some
      (operand_last plain.right)
    rw [text]
    simpa [spaced] using last
  · have begins : ((' ' :: ((inner.left.text describe).toList ++ spaced (operatorWord inner.operator inner.options)
        ((inner.right.text describe).toList ++ rest))).dropWhile CharClass.skipped).head? ≠ Option.some ':' :=
      left.begins (operator ends)
    rw [whole]
    cases inner.modifier with
    | direct => exact undeclared_operand plain.left (operator ends)
    | any => exact undeclared_name "ANY".toList ⟨by decide, by decide⟩ rfl begins
    | all => exact undeclared_name "ALL".toList ⟨by decide, by decide⟩ rfl begins

theorem joinedText_last {word : String} {first : List Char} {texts : List (List Char)}
    (each : ∀ text ∈ first :: texts, text.getLast? = some ')') :
    (first ++ joinedText word texts []).getLast? = some ')' := by
  induction texts generalizing first with
  | nil => simpa [joinedText] using each first
  | cons next texts ih =>
      have tail := ih fun text member => each text (List.mem_cons_of_mem _ member)
      have whole : first ++ joinedText word (next :: texts) [] =
          (first ++ ' ' :: (word.toList ++ [' '])) ++ (next ++ joinedText word texts []) := by
        simp [joinedText, spaced]
      rw [whole, List.getLast?_append, tail, Option.some_or]

theorem specifies_printable (printable : predicate.IsPrintable) :
    Specifies (predicate.text describe).toList := by
  cases printable with
  | value holds =>
      cases holds with
      | true =>
          show Specifies "TRUEPREDICATE".toList
          exact specifies_name ⟨by decide, by decide⟩
      | false =>
          show Specifies "FALSEPREDICATE".toList
          exact specifies_name ⟨by decide, by decide⟩
  | comparison plain => exact specifies_comparison plain
  | @negation part _ =>
      have last := getLast?_append_solid ("NOT".toList ++ [' ']) (List.cons_ne_nil _ _)
        (trimmed_enclosed (part.text describe).toList).last
      rw [toList_negation, toList_inParentheses]
      refine ⟨by simp, ⟨fun _ found => Option.some.inj found ▸ by decide, by simpa using last⟩,
        fun rest _ => ?_⟩
      rw [List.append_assoc]
      refine undeclared_name _ ⟨by decide, by decide⟩ rfl ?_
      show (('(' :: _).dropWhile CharClass.skipped).head? ≠ _
      exact head?_ne (by decide) (by decide)
  | @compound kind joins first others _ =>
      obtain ⟨word, _, letters⟩ := toList_compound joins describe first others
      have each : ∀ text ∈ (Predicate.enclosedTexts describe (first :: others)).map String.toList,
          text.getLast? = some ')' := by
        intro text member
        rw [Predicate.enclosedTexts_eq, List.map_map] at member
        obtain ⟨part, _, rfl⟩ := List.mem_map.mp member
        rw [Function.comp_apply, toList_inParentheses, getLast?_enclosed]
      have last : ((Predicate.compound kind (first :: others)).text describe).toList.getLast? = some ')' :=
        letters ▸ joinedText_last each
      rw [toList_inParentheses] at letters
      refine ⟨by simp [letters], ⟨?_, ?_⟩, fun rest _ => ?_⟩
      · rw [letters]
        exact fun _ found => Option.some.inj found ▸ by decide
      · rw [last]
        exact fun _ found => Option.some.inj found ▸ by decide
      · rw [letters]
        exact undeclared_first (by decide) (by decide) (by decide)

theorem specifies_specifier {specifier : Specifier} (printable : specifier.predicate.IsPrintable) :
    Specifies (specifier.text describe).toList := by
  unfold Specifier.text
  split
  · exact specifies_enclosed _
  · exact specifies_printable printable

end Parse

end PredicateRules
