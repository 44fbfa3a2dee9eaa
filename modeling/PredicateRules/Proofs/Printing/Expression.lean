import PredicateRules.Proofs.Printing.KeyPath
import PredicateRules.Proofs.Reading.Beginning

namespace PredicateRules

namespace Parse

variable {α : Type} {caseSensitive : Bool} {text rest behind : List Char} {which : Parser → Nat}
  {nested : Parse Expression}

def expressionTo (which : Parser → Nat) (depth : Nat) : Parse Expression :=
  recurseTo (fun again _ => binary which (again ())) depth ()

/-- What stands behind an operand goes on neither with its last name or number nor with a selector. -/
structure Parted (text : List Char) : Prop where
  detached : Detached text
  unselected : Unselected text

def joiningWords : List String := ["**", "*", "/", "+", "-", ":=", "UNION", "INTERSECT", "MINUS"]

/-- Nothing goes on with an expression. -/
structure Ends (text : List Char) : Prop where
  parted : Parted text
  single : Behind suffixWords text
  alone : Behind joiningWords text

/-- The text is an operand, also of suffixes. -/
def Denotes (caseSensitive : Bool) (text : List Char) (operand : Expression) : Prop :=
  ∀ which depth behind last rest, textWeight (text ++ behind) ≤ depth → Parted behind →
    Repeats caseSensitive behind (functionalStep which (expressionTo which depth)) operand last rest →
    Takes caseSensitive (text ++ behind) (functional which (expressionTo which depth)) last rest

/-- The text is an operand where the expression ends behind it. -/
def Closes (caseSensitive : Bool) (text : List Char) (operand : Expression) : Prop :=
  ∀ which depth rest, textWeight (text ++ rest) ≤ depth → Ends rest →
    Takes caseSensitive (text ++ rest) (functional which (expressionTo which depth)) operand rest

/-- The text is a whole expression where the expression ends behind it. -/
def Nests (caseSensitive : Bool) (text : List Char) (expression : Expression) : Prop :=
  ∀ which depth rest, textWeight (text ++ rest) ≤ depth → Ends rest →
    Takes caseSensitive (text ++ rest) (binary which (expressionTo which depth)) expression rest

theorem Denotes.functional {operand : Expression} (denotes : Denotes caseSensitive text operand)
    {depth : Nat} (enough : textWeight (text ++ behind) ≤ depth) (parted : Parted behind)
    (single : Behind suffixWords behind) :
    Takes caseSensitive (text ++ behind) (functional which (expressionTo which depth)) operand behind :=
  denotes which depth behind operand behind enough parted (.done (functionalStep_done single operand))

theorem Denotes.closes {operand : Expression} (denotes : Denotes caseSensitive text operand) :
    Closes caseSensitive text operand :=
  fun _ _ _ enough ends => denotes.functional enough ends.parted ends.single

section

variable {signs : List (String × Builtin)} {operand : Parse Expression} {left right : Expression}
  {between further : List Char}

theorem sign_missing (solid : ∀ entry ∈ signs, Solid entry.1)
    (alone : ∀ entry ∈ signs, Silent entry.1 (text.dropWhile CharClass.skipped)) :
    Takes caseSensitive text (joined.sign signs) none text := by
  induction signs with
  | nil => exact .pure none
  | cons entry signs ih =>
      refine (literal_missing entry.1 (solid entry (by simp)) (alone entry (by simp) _)).bind ?_
      exact ih (fun other member => solid other (by simp [member]))
        fun other member => alone other (by simp [member])

theorem joined_alone (solid : ∀ entry ∈ signs, Solid entry.1)
    (takes : Takes caseSensitive text operand left rest)
    (alone : ∀ entry ∈ signs, Silent entry.1 (rest.dropWhile CharClass.skipped)) :
    Takes caseSensitive text (joined signs operand) left rest := by
  refine takes.bind (Repeats.done ?_).takes
  exact (sign_missing solid alone).bind (.pure none)

theorem joined_pair (solid : ∀ entry ∈ signs, Solid entry.1) {function : Builtin}
    (takesLeft : Takes caseSensitive text operand left between)
    (sign : Takes caseSensitive between (joined.sign signs) (some function) further)
    (takesRight : Takes caseSensitive further operand right rest)
    (less : textWeight rest < textWeight between)
    (alone : ∀ entry ∈ signs, Silent entry.1 (rest.dropWhile CharClass.skipped)) :
    Takes caseSensitive text (joined signs operand) (.call function [left, right]) rest := by
  refine takesLeft.bind (Repeats.next ?_ less (.done ?_)).takes
  · exact sign.bind (takesRight.bind (.pure _))
  · exact (sign_missing solid alone).bind (.pure none)

end

theorem Behind.mono {words more : List String} (quiet : Behind more text) (fewer : words ⊆ more) :
    Behind words text :=
  fun word member => quiet word (fewer member)

theorem power_of_functional {operand : Expression}
    (takes : Takes caseSensitive text (functional which nested) operand rest)
    (alone : Behind ["**"] rest) : Takes caseSensitive text (power which nested) operand rest :=
  joined_alone (by decide) takes (by simpa [Behind] using alone)

theorem multiplication_of_power {operand : Expression}
    (takes : Takes caseSensitive text (power which nested) operand rest)
    (alone : Behind ["*", "/"] rest) :
    Takes caseSensitive text (multiplication which nested) operand rest :=
  joined_alone (by decide) takes (by simpa [Behind] using alone)

theorem addition_of_multiplication {operand : Expression}
    (takes : Takes caseSensitive text (multiplication which nested) operand rest)
    (alone : Behind ["+", "-"] rest) :
    Takes caseSensitive text (addition which nested) operand rest :=
  joined_alone (by decide) takes (by simpa [Behind] using alone)

theorem multiplication_of_functional {operand : Expression}
    (takes : Takes caseSensitive text (functional which nested) operand rest)
    (alone : Behind ["**", "*", "/"] rest) :
    Takes caseSensitive text (multiplication which nested) operand rest :=
  multiplication_of_power (power_of_functional takes (alone.mono (by simp))) (alone.mono (by simp))

theorem addition_of_functional {operand : Expression}
    (takes : Takes caseSensitive text (functional which nested) operand rest)
    (alone : Behind ["**", "*", "/", "+", "-"] rest) :
    Takes caseSensitive text (addition which nested) operand rest :=
  addition_of_multiplication (multiplication_of_functional takes (alone.mono (by simp)))
    (alone.mono (by simp))

theorem setWords_solid : ∀ entry ∈ setWords, Solid entry.1 := by
  decide

theorem binaryStep_done (alone : Behind joiningWords text) (operand : Expression) :
    Takes caseSensitive text (binaryStep which nested operand) none text := by
  refine (literal_behind alone ":=" (by decide) (by decide)).bind ?_
  refine (firstKeyword_missing setWords_solid ?_).bind (.pure none)
  refine List.find?_eq_none.mpr fun entry member meets => ?_
  have listed : ∀ entry ∈ setWords, entry.1 ∈ joiningWords := by decide
  rw [meetsWord, alone entry.1 (listed entry member)] at meets
  cases meets

theorem binary_of_addition {operand : Expression}
    (takes : Takes caseSensitive text (addition which nested) operand rest)
    (alone : Behind joiningWords rest) : Takes caseSensitive text (binary which nested) operand rest :=
  takes.bind (Repeats.done (binaryStep_done alone operand)).takes

theorem binary_of_functional {operand : Expression}
    (takes : Takes caseSensitive text (functional which nested) operand rest)
    (alone : Behind joiningWords rest) : Takes caseSensitive text (binary which nested) operand rest :=
  binary_of_addition (addition_of_functional takes (alone.mono (by decide))) alone

theorem Closes.nests {operand : Expression} (closes : Closes caseSensitive text operand) :
    Nests caseSensitive text operand :=
  fun which depth rest enough ends => binary_of_functional (closes which depth rest enough ends) ends.alone

theorem Nests.expressionTo {operand : Expression} (nests : Nests caseSensitive text operand)
    {depth : Nat} (enough : textWeight (text ++ rest) < depth) (ends : Ends rest) :
    Takes caseSensitive (text ++ rest) (expressionTo which depth) operand rest := by
  obtain ⟨depth, rfl⟩ : ∃ less, depth = less + 1 := ⟨depth - 1, by omega⟩
  exact nests which depth rest (by omega) ends

theorem Nests.expression {operand : Expression} (nests : Nests caseSensitive text operand)
    (ends : Ends rest) :
    Takes caseSensitive (text ++ rest) (expressionWith which) operand rest := by
  have recurs : Recurs caseSensitive (text ++ rest) (fun again _ => binary which (again ())) ()
      operand rest := fun depth enough => nests.expressionTo enough ends
  exact recurs.takes

def spaced (word : String) (text : List Char) : List Char := ' ' :: (word.toList ++ ' ' :: text)

theorem spaced_front {word : String} (solid : Solid word) (text : List Char) :
    (spaced word text).dropWhile CharClass.skipped = word.toList ++ ' ' :: text := by
  show (word.toList ++ ' ' :: text).dropWhile CharClass.skipped = _
  exact solid.dropWhile _

theorem detached_spaced (word : String) (text : List Char) : Detached (spaced word text) :=
  ⟨severed_of_symbol (by decide) (by decide), by simp [spaced]⟩

/-- Behind its letters a word does not go on with a blank or a colon. -/
def Halts (word : String) : Prop :=
  (word.toList.dropWhile CharClass.identifier).head?.all
    (fun character => !CharClass.skipped character && character != ':') = true

instance (word : String) : Decidable (Halts word) :=
  inferInstanceAs (Decidable (_ = true))

/-- Behind an operand a word between spaces is no part of a selector if no colon comes after it. -/
theorem parted_spaced {word : String} (solid : Solid word) (halts : Halts word)
    (begins : (text.dropWhile CharClass.skipped).head? ≠ some ':') : Parted (spaced word text) := by
  refine ⟨detached_spaced word text, fun _ => ?_, by simp [spaced]⟩
  rw [spaced_front solid, List.dropWhile_append]
  cases behind : word.toList.dropWhile CharClass.identifier with
  | nil => exact silent_other ":" (by decide) begins
  | cons first tail =>
      simp only [Halts, behind, List.head?_cons, Option.all_some, Bool.and_eq_true, Bool.not_eq_true',
        bne_iff_ne] at halts
      exact silent_other ":" (by decide) (head?_ne halts.1 (by simpa using Ne.symm halts.2))

theorem Closes.begins {operand : Expression} (closes : Closes caseSensitive text operand)
    (ends : Ends rest) : ((text ++ rest).dropWhile CharClass.skipped).head? ≠ some ':' := by
  intro colon
  have barren : Barren (text ++ rest) := by
    unfold Barren
    rw [colon]
    decide
  exact (closes Parser.nextArgument _ rest (Nat.le_refl _) ends).not_rejects (functional_rejected barren)

theorem takes_spaced {step : Parse α} {result : α} {word : String}
    (takes : Takes caseSensitive (word.toList ++ ' ' :: text) step result (' ' :: text)) :
    Takes caseSensitive (spaced word text) step result text :=
  takes.before_space.after_space

theorem textWeight_spaced {word : String} (solid : Solid word) (text : List Char) :
    textWeight text < textWeight (spaced word text) := by
  have positive : 0 < textWeight word.toList := by
    cases letters : word.toList with
    | nil => simp [Solid, letters] at solid
    | cons first letters' =>
        have begins : CharClass.skipped first = false := by simpa [Solid, letters] using solid
        rw [textWeight_cons begins]
        exact Nat.succ_pos _
  rw [spaced, textWeight_space, textWeight_append, textWeight_space]
  omega

/-- No word of these is read where the other word stands before a space. -/
def Unlike (words : List String) (word : String) : Prop :=
  ∀ other ∈ words, Solid other ∧ (∀ character ∈ other.toList, Mark.of character ≠ .space) ∧
    Silent other word.toList

instance (words : List String) (word : String) : Decidable (Unlike words word) :=
  inferInstanceAs (Decidable (∀ other ∈ words, _))

theorem Unlike.mono {words more : List String} {word : String} (unlike : Unlike more word)
    (fewer : words ⊆ more) : Unlike words word :=
  fun other member => unlike other (fewer member)

theorem behind_spaced {words : List String} {word : String} (solid : Solid word)
    (unlike : Unlike words word) : Behind words (spaced word text) := by
  intro other member
  rw [spaced_front solid]
  exact silent_before_space (unlike other member).2.1 (unlike other member).2.2

theorem sign_taken {before after : List (String × Builtin)} {word : String} (solid : Solid word)
    (function : Builtin) (unlike : Unlike (before.map Prod.fst) word) :
    Takes caseSensitive (spaced word text) (joined.sign (before ++ (word, function) :: after))
      (some function) text := by
  refine takes_spaced ?_
  induction before with
  | nil => exact (literal_taken word solid).bind (.pure _)
  | cons entry before ih =>
      obtain ⟨solidOther, letters, silent⟩ := unlike entry.1 (by simp)
      refine (literal_missing entry.1 solidOther ?_).bind
        (ih fun other member => unlike other (List.mem_cons_of_mem _ member))
      rw [solid.dropWhile]
      exact silent_before_space letters silent caseSensitive

theorem setWord_met (operation : SetOperation) (text : List Char) :
    firstMet caseSensitive setWords (operation.keyword.toList ++ ' ' :: text) =
      some (operation.keyword, operation) := by
  have severed : KeyPath.Severed (' ' :: text) := severed_of_symbol (by decide) (by decide)
  unfold setWords
  cases operation with
  | union => exact firstMet_self _ severed
  | intersect =>
      rw [firstMet_unmet (by cases caseSensitive <;> rfl)]
      exact firstMet_self _ severed
  | minus =>
      iterate 2 rw [firstMet_unmet (by cases caseSensitive <;> rfl)]
      exact firstMet_self _ severed

section

variable {first second : List Char} {left right : Expression} {depth : Nat}
  (denotes : Denotes caseSensitive first left) (closes : Closes caseSensitive second right)
  (ends : Ends rest)

include closes ends

theorem right_taken {word : String}
    (enough : textWeight (first ++ spaced word (second ++ rest)) ≤ depth) (solid : Solid word) :
    Takes caseSensitive (second ++ rest) (functional which (expressionTo which depth)) right rest := by
  have less := textWeight_spaced solid (second ++ rest)
  rw [textWeight_append] at enough
  exact closes which depth rest (by omega) ends

include denotes

theorem left_taken {word : String}
    (enough : textWeight (first ++ spaced word (second ++ rest)) ≤ depth) (solid : Solid word)
    (halts : Halts word)
    (unlike : Unlike suffixWords word) :
    Takes caseSensitive (first ++ spaced word (second ++ rest))
      (functional which (expressionTo which depth)) left (spaced word (second ++ rest)) :=
  denotes.functional enough (parted_spaced solid halts (closes.begins ends)) (behind_spaced solid unlike)

theorem joined_spaced {operand : Parse Expression} {lower : List String}
    (level : ∀ {text rest operand'}, Takes caseSensitive text
        (functional which (expressionTo which depth)) operand' rest →
      Behind lower rest → Takes caseSensitive text operand operand' rest)
    (before after : List (String × Builtin)) {word : String} {function : Builtin}
    (enough : textWeight (first ++ spaced word (second ++ rest)) ≤ depth) (solid : Solid word)
    (halts : Halts word)
    (unlike : Unlike (suffixWords ++ lower ++ before.map Prod.fst) word)
    (listed : ∀ entry ∈ before ++ (word, function) :: after, Solid entry.1 ∧ entry.1 ∈ joiningWords)
    (lowerListed : lower ⊆ joiningWords) :
    Takes caseSensitive (first ++ spaced word (second ++ rest))
      (joined (before ++ (word, function) :: after) operand) (.call function [left, right]) rest := by
  have some : Unlike suffixWords word := unlike.mono (by simp)
  have someLower : Unlike lower word := unlike.mono (by simp)
  have someBefore : Unlike (before.map Prod.fst) word := unlike.mono (by simp)
  refine joined_pair (fun entry member => (listed entry member).1)
    (level (left_taken denotes closes ends enough solid halts some)
      (behind_spaced solid someLower))
    (sign_taken solid function someBefore)
    (level (right_taken closes ends enough solid) (ends.alone.mono lowerListed)) ?_
    fun entry member => ends.alone entry.1 (listed entry member).2
  have less := textWeight_spaced solid (second ++ rest)
  rw [textWeight_append] at less
  omega

theorem sum_taken {sign : String} {function : Builtin}
    (listed : (sign, function) ∈ [("+", Builtin.add), ("-", .subtract)])
    (enough : textWeight (first ++ spaced sign (second ++ rest)) ≤ depth) :
    Takes caseSensitive (first ++ spaced sign (second ++ rest)) (binary which (expressionTo which depth))
      (.call function [left, right]) rest := by
  refine binary_of_addition ?_ ends.alone
  simp only [List.mem_cons, Prod.mk.injEq, List.not_mem_nil, or_false] at listed
  rcases listed with ⟨rfl, rfl⟩ | ⟨rfl, rfl⟩
  · exact joined_spaced denotes closes ends multiplication_of_functional [] [("-", .subtract)] enough
      (by decide) (by decide) (by decide) (by decide) (by decide)
  · exact joined_spaced denotes closes ends multiplication_of_functional [("+", .add)] [] enough
      (by decide) (by decide) (by decide) (by decide) (by decide)

theorem product_taken {sign : String} {function : Builtin}
    (listed : (sign, function) ∈ [("*", Builtin.multiply), ("/", .divide)])
    (enough : textWeight (first ++ spaced sign (second ++ rest)) ≤ depth) :
    Takes caseSensitive (first ++ spaced sign (second ++ rest)) (binary which (expressionTo which depth))
      (.call function [left, right]) rest := by
  refine binary_of_addition (addition_of_multiplication ?_ (ends.alone.mono (by decide))) ends.alone
  simp only [List.mem_cons, Prod.mk.injEq, List.not_mem_nil, or_false] at listed
  rcases listed with ⟨rfl, rfl⟩ | ⟨rfl, rfl⟩
  · exact joined_spaced denotes closes ends power_of_functional [] [("/", .divide)] enough
      (by decide) (by decide) (by decide) (by decide) (by decide)
  · exact joined_spaced denotes closes ends power_of_functional [("*", .multiply)] [] enough
      (by decide) (by decide) (by decide) (by decide) (by decide)

theorem power_taken (enough : textWeight (first ++ spaced "**" (second ++ rest)) ≤ depth) :
    Takes caseSensitive (first ++ spaced "**" (second ++ rest)) (binary which (expressionTo which depth))
      (.call .raiseToPower [left, right]) rest := by
  refine binary_of_addition (addition_of_multiplication (multiplication_of_power ?_
    (ends.alone.mono (by decide))) (ends.alone.mono (by decide))) ends.alone
  have level : ∀ {text rest operand}, Takes caseSensitive text
      (functional which (expressionTo which depth)) operand rest → Behind [] rest →
      Takes caseSensitive text (functional which (expressionTo which depth)) operand rest :=
    fun takes _ => takes
  exact joined_spaced denotes closes ends level [] [] enough
    (by decide) (by decide) (by decide) (by decide) (by decide)

theorem set_taken (operation : SetOperation)
    (enough : textWeight (first ++ spaced operation.keyword (second ++ rest)) ≤ depth) :
    Takes caseSensitive (first ++ spaced operation.keyword (second ++ rest))
      (binary which (expressionTo which depth)) (.set operation left right) rest := by
  have words : ∀ operation : SetOperation, Solid operation.keyword ∧
      Halts operation.keyword ∧
      Unlike suffixWords operation.keyword ∧
      Unlike ["**", "*", "/", "+", "-", ":="] operation.keyword := by
    intro operation
    cases operation <;> decide
  obtain ⟨solid, halts, unlike, unlikeSigns⟩ := words operation
  have less := textWeight_spaced solid (second ++ rest)
  have front : Takes caseSensitive (first ++ spaced operation.keyword (second ++ rest))
      (functional which (expressionTo which depth)) left _ :=
    left_taken denotes closes ends enough solid halts unlike
  have back : Takes caseSensitive (second ++ rest) (functional which (expressionTo which depth)) right
      rest :=
    right_taken closes ends enough solid
  have step : Takes caseSensitive (spaced operation.keyword (second ++ rest))
      (binaryStep which (expressionTo which depth) left) (some (.set operation left right)) rest := by
    refine (literal_behind (behind_spaced solid unlikeSigns) ":=" (by decide) (by decide)).bind ?_
    refine (takes_spaced (firstKeyword_taken setWords_solid (setWord_met operation _))).bind ?_
    exact (addition_of_functional back (ends.alone.mono (by decide))).bind (.pure _)
  have alone : Behind ["**", "*", "/", "+", "-"] (spaced operation.keyword (second ++ rest)) :=
    behind_spaced solid (unlikeSigns.mono (by decide))
  refine (addition_of_functional front alone).bind
    (Repeats.next step ?_ (.done (binaryStep_done ends.alone _))).takes
  rw [textWeight_append] at less
  omega

end

end Parse

end PredicateRules