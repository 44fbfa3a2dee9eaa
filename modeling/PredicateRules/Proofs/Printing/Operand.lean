import PredicateRules.Proofs.Printing.Name

namespace PredicateRules

open PredicateRules.Parser

namespace Parse

variable {α : Type} {caseSensitive : Bool} {text rest behind : List Char}

def Symbolic (word : String) : Prop :=
  word.toList.head?.any (fun first => Scanner.isSymbol first && !CharClass.skipped first) = true

instance (word : String) : Decidable (Symbolic word) := inferInstanceAs (Decidable (_ = true))

theorem Symbolic.solid {word : String} (symbolic : Symbolic word) : Solid word := by
  unfold Symbolic at symbolic
  unfold Solid
  cases first : word.toList.head? with
  | none => simp [first] at symbolic
  | some first => simp_all

theorem startsWith_other (word : String) (symbolic : Symbolic word)
    (differs : (text.dropWhile CharClass.skipped).head? ≠ word.toList.head?) :
    Scanner.startsWith caseSensitive word.toList (text.dropWhile CharClass.skipped) = false := by
  unfold Symbolic at symbolic
  cases letters : word.toList with
  | nil => simp [letters] at symbolic
  | cons expected letters' =>
      have symbol : Scanner.isSymbol expected = true := by
        simp only [letters, List.head?_cons, Option.any_some, Bool.and_eq_true] at symbolic
        exact symbolic.1
      rw [letters] at differs
      exact Scanner.startsWith_symbol symbol differs

theorem literal_other (word : String) (symbolic : Symbolic word)
    (differs : (text.dropWhile CharClass.skipped).head? ≠ word.toList.head?) :
    Takes caseSensitive text (literal word) false text :=
  literal_missing word symbolic.solid (startsWith_other word symbolic differs)

theorem head?_solid {first : Char} (solid : CharClass.skipped first = false) :
    ((first :: text).dropWhile CharClass.skipped).head? = some first := by
  rw [List.dropWhile_cons_of_neg (by simp [solid]), List.head?_cons]

theorem head?_ne {first : Char} {other : Option Char} (solid : CharClass.skipped first = false)
    (differs : other ≠ some first) : ((first :: text).dropWhile CharClass.skipped).head? ≠ other := by
  rw [head?_solid solid]
  exact differs.symm

theorem begins_other {symbols : String} {first symbol : Char}
    (begins : (text.dropWhile CharClass.skipped).head? = some first) (differs : first ∉ symbols.toList)
    (member : symbol ∈ symbols.toList) : (text.dropWhile CharClass.skipped).head? ≠ some symbol :=
  fun same => differs (Option.some.inj (begins.symm.trans same) ▸ member)

theorem scan_missing (first : ∀ character ∈ text.head?, character.isDigit = false ∧ character ≠ '.') :
    Numeral.scan text = none := by
  cases text with
  | nil => rfl
  | cons character text =>
      obtain ⟨noDigit, noPoint⟩ := first character rfl
      simp [Numeral.scan, Numeral.scanFraction, noDigit, noPoint]

theorem numericLiteral?_missing
    (first : ∀ character ∈ (text.dropWhile CharClass.skipped).head?,
      character.isDigit = false ∧ character ≠ '.') :
    Takes caseSensitive text numericLiteral? none text := by
  rw [numericLiteral?_eq]
  exact (scanNumeral_missing (scan_missing first)).bind (.pure none)

/-- Neither a name nor a point goes on behind. -/
def Detached (text : List Char) : Prop :=
  KeyPath.Severed text ∧ text.head? ≠ some '.'

theorem Detached.noDigit (detached : Detached behind) : behind.head?.any Char.isDigit = false := by
  have stops := detached.1.stops
  cases behind with
  | nil => rfl
  | cons character behind =>
      have other : CharClass.identifier character = false := by simpa using stops
      simp only [CharClass.identifier, Char.isAlphanum, Bool.or_eq_false_iff] at other
      simpa using other.2.2

theorem scanExponent_detached (detached : Detached behind) :
    Numeral.scanExponent behind = (none, behind) := by
  have stops := detached.1.stops
  cases behind with
  | nil => rfl
  | cons marker behind =>
      have other : ¬ (marker = 'e' ∨ marker = 'E') := by
        rintro (rfl | rfl) <;> cases stops
      simp [Numeral.scanExponent, other]

theorem scan_digits {digits : List Char} (some : digits ≠ [])
    (all : ∀ digit ∈ digits, digit.isDigit = true) (detached : Detached behind) :
    Numeral.scan (digits ++ behind) = Option.some (⟨digits, none, none⟩, behind) := by
  obtain ⟨taken, left⟩ := takeWhile_stop all detached.noDigit
  have noPoint : Numeral.scanFraction behind = (none, behind) := by
    unfold Numeral.scanFraction
    split
    · exact absurd rfl detached.2
    · rfl
  simp only [Numeral.scan, taken, left, noPoint, scanExponent_detached detached]
  simp [some]

theorem digitsValue_toDigits (number : Nat) : Numeral.digitsValue (Nat.toDigits 10 number) = number := by
  have same : Numeral.digitsValue (Nat.toDigits 10 number) =
      Nat.ofDigitChars 10 (Nat.toDigits 10 number) 0 := by
    rw [Nat.ofDigitChars_eq_foldl]
    simp only [Numeral.digitsValue, Numeral.digitValue, Nat.mul_comm]
  rw [same, Nat.ofDigitChars_ten_toDigits]

theorem toInt64?_digits {number : Nat} (within : (number : Int) ≤ Int64.maxValue.toInt) :
    (⟨Nat.toDigits 10 number, none, none⟩ : Numeral).toInt64? = some (Int64.ofNat number) := by
  simp only [Numeral.toInt64?, Numeral.wholeNumber?, digitsValue_toDigits, if_pos within]

theorem digits_front (number : Nat) (behind : List Char) :
    (Nat.toDigits 10 number ++ behind).dropWhile CharClass.skipped =
      Nat.toDigits 10 number ++ behind := by
  have all := fun digit (member : digit ∈ Nat.toDigits 10 number) =>
    Nat.isDigit_of_mem_toDigits (by decide) (by decide) member
  cases digits : Nat.toDigits 10 number with
  | nil => exact absurd digits Nat.toDigits_ne_nil
  | cons digit digits' =>
      rw [digits] at all
      have solid := CharClass.solid (by decide) (all digit (by simp))
      simp [solid]

section

variable {which : Parser → Nat} {nested : Parse Expression}

theorem simple_digits {number : Nat} (within : (number : Int) ≤ Int64.maxValue.toInt) (detached : Detached behind) :
    Takes caseSensitive (Nat.toDigits 10 number ++ behind) (simple which nested)
      (.constant (.int (Int64.ofNat number))) behind := by
  have all := fun digit (member : digit ∈ Nat.toDigits 10 number) =>
    Nat.isDigit_of_mem_toDigits (by decide) (by decide) member
  have scanned := scan_digits Nat.toDigits_ne_nil all detached
  rw [← digits_front] at scanned
  have literal : Takes caseSensitive (Nat.toDigits 10 number ++ behind) numericLiteral?
      (some (.int (Int64.ofNat number))) behind := by
    have value : Numeral.value ⟨Nat.toDigits 10 number, none, none⟩ = .int (Int64.ofNat number) := by
      simp only [Numeral.value, toInt64?_digits within]
    rw [numericLiteral?_eq, ← value]
    exact (scanNumeral_taken scanned).bind (.pure _)
  exact literal.bind (.pure _)

theorem numericLiteral?_symbol {symbol : Char} (solid : CharClass.skipped symbol = false)
    (noDigit : symbol.isDigit = false) (noPoint : symbol ≠ '.') :
    Takes caseSensitive (symbol :: text) numericLiteral? none (symbol :: text) := by
  refine numericLiteral?_missing fun character first => ?_
  rw [List.dropWhile_cons_of_neg (by simp [solid])] at first
  obtain rfl := Option.some.inj first
  exact ⟨noDigit, noPoint⟩

theorem simple_negated {operand : Expression} (takes : Takes caseSensitive text nested operand rest) :
    Takes caseSensitive ('-' :: text) (simple which nested) (negated operand) rest := by
  refine (numericLiteral?_symbol (by decide) (by decide) (by decide)).bind ?_
  refine (literal_taken "-" (by decide)).bind ?_
  exact takes.bind (.pure _)

theorem simple_enclosed {inner : Expression}
    (takes : Takes caseSensitive text nested inner (')' :: rest)) :
    Takes caseSensitive ('(' :: text) (simple which nested) inner rest := by
  refine (numericLiteral?_symbol (by decide) (by decide) (by decide)).bind ?_
  refine (literal_other "-" (by decide) (head?_ne (by decide) (by decide))).bind ?_
  refine (literal_taken "(" (by decide)).bind ?_
  refine takes.bind ?_
  exact (expect_taken ")" (by decide) _).bind (.pure _)

theorem simple_aggregate {items : List Expression}
    (takes : Takes caseSensitive text (expressionList nested "\x7d" "aggregate") items rest) :
    Takes caseSensitive ('\x7b' :: text) (simple which nested) (.aggregate items) rest := by
  refine (numericLiteral?_symbol (by decide) (by decide) (by decide)).bind ?_
  refine (literal_other "-" (by decide) (head?_ne (by decide) (by decide))).bind ?_
  refine (literal_other "(" (by decide) (head?_ne (by decide) (by decide))).bind ?_
  refine (literal_taken "\x7b" (by decide)).bind ?_
  exact takes.bind (.pure _)

theorem simple_words {result : Expression} {first : Char}
    (begins : (text.dropWhile CharClass.skipped).head? = some first) (noDigit : first.isDigit = false)
    (differs : first ∉ ".-(\x7b".toList)
    (takes : Takes caseSensitive text (do
      if let some constant ← firstKeyword constantWords then return constant
      if ← literal "$" then return .variable (← identifier)
      if let some argument ← placeholder? which then return argument
      if let some string ← quoted? then return string
      if ← literal "@" then return .keyPath ("@" ++ (← identifier))
      let _ ← literal "#"
      return .keyPath (← identifier)) result rest) :
    Takes caseSensitive text (simple which nested) result rest := by
  have other := fun symbol (member : symbol ∈ _) => begins_other begins differs member
  refine (numericLiteral?_missing fun character found => ?_).bind ?_
  · obtain rfl : first = character := Option.some.inj (begins.symm.trans found)
    exact ⟨noDigit, fun same => other '.' (by decide) (same ▸ begins)⟩
  refine (literal_other "-" (by decide) (other '-' (by decide))).bind ?_
  refine (literal_other "(" (by decide) (other '(' (by decide))).bind ?_
  refine (literal_other "\x7b" (by decide) (other '\x7b' (by decide))).bind ?_
  exact takes

theorem constantWords_solid : ∀ entry ∈ constantWords, Solid entry.1 := by
  decide

theorem Severed.stopsKeyword (severed : KeyPath.Severed behind) :
    behind.head?.any CharClass.continuesKeyword = false := by
  have other := severed.stops
  cases behind with
  | nil => rfl
  | cons character behind =>
      have outside : CharClass.identifier character = false := by simpa using other
      simp only [CharClass.identifier, Bool.or_eq_false_iff] at outside
      simp only [List.head?_cons, Option.any_some, CharClass.continuesKeyword, outside, Bool.or_self]

theorem meetsWord_self (severed : KeyPath.Severed behind) (word : List Char) :
    meetsWord caseSensitive word (word ++ behind) = true := by
  simp only [meetsWord, Scanner.startsWith_self, List.drop_left, Severed.stopsKeyword severed,
    Bool.and_false, Bool.not_false, Bool.and_self]

theorem firstMet_unmet {words : List (String × α)} {word : String} {meaning : α}
    (unmet : meetsWord caseSensitive word.toList text = false) :
    firstMet caseSensitive ((word, meaning) :: words) text = firstMet caseSensitive words text := by
  simp only [firstMet, List.find?_cons, unmet]

theorem firstMet_self {words : List (String × α)} {word : String} (meaning : α)
    (severed : KeyPath.Severed behind) :
    firstMet caseSensitive ((word, meaning) :: words) (word.toList ++ behind) =
      some (word, meaning) := by
  simp only [firstMet, List.find?_cons, meetsWord_self severed]

def printedWords : List (String × Expression) :=
  [("NULL", .constant .null), ("TRUE", .constant (.bool true)), ("FALSE", .constant (.bool false)),
    ("SELF", .selfReference)]

theorem firstMet_printed {word : String} {meaning : Expression}
    (printed : (word, meaning) ∈ printedWords) (severed : KeyPath.Severed behind) :
    firstMet caseSensitive constantWords (word.toList ++ behind) = some (word, meaning) := by
  simp only [printedWords, List.mem_cons, Prod.mk.injEq, List.not_mem_nil, or_false] at printed
  unfold constantWords
  rcases printed with ⟨rfl, rfl⟩ | ⟨rfl, rfl⟩ | ⟨rfl, rfl⟩ | ⟨rfl, rfl⟩
  · exact firstMet_self _ severed
  · iterate 2 rw [firstMet_unmet (by cases caseSensitive <;> rfl)]
    exact firstMet_self _ severed
  · iterate 4 rw [firstMet_unmet (by cases caseSensitive <;> rfl)]
    exact firstMet_self _ severed
  · iterate 6 rw [firstMet_unmet (by cases caseSensitive <;> rfl)]
    exact firstMet_self _ severed

theorem printedWords_begin : ∀ entry ∈ printedWords, ∃ first ∈ entry.1.toList.head?,
    CharClass.skipped first = false ∧ first.isDigit = false ∧ first ∉ ".-(\x7b".toList := by
  simp only [printedWords, List.forall_mem_cons]
  exact ⟨⟨'N', rfl, by decide⟩, ⟨'T', rfl, by decide⟩, ⟨'F', rfl, by decide⟩, ⟨'S', rfl, by decide⟩,
    nofun⟩

theorem simple_printedWord {word : String} {meaning : Expression}
    (printed : (word, meaning) ∈ printedWords) (severed : KeyPath.Severed behind) :
    Takes caseSensitive (word.toList ++ behind) (simple which nested) meaning behind := by
  obtain ⟨first, begins, solid, noDigit, differs⟩ := printedWords_begin _ printed
  have front : ((word.toList ++ behind).dropWhile CharClass.skipped).head? = some first := by
    cases letters : word.toList with
    | nil => simp [letters] at begins
    | cons letter letters' =>
        obtain rfl : letter = first := by simpa [letters] using begins
        simp [solid]
  refine simple_words front noDigit differs ?_
  exact (firstKeyword_taken constantWords_solid (firstMet_printed printed severed)).bind (.pure _)

theorem meetsWord_symbol {word : String} (lettered : word.toList.head?.any Char.isAlpha = true)
    (symbol : ∀ first ∈ (text.dropWhile CharClass.skipped).head?, Scanner.isSymbol first = true) :
    meetsWord caseSensitive word.toList (text.dropWhile CharClass.skipped) = false := by
  cases letters : word.toList with
  | nil => simp [letters] at lettered
  | cons expected letters' =>
      rw [letters] at lettered
      rw [meetsWord, Scanner.startsWith_letter (by simpa using lettered) symbol, Bool.false_and]

theorem firstMet_symbol {words : List (String × α)}
    (lettered : ∀ entry ∈ words, entry.1.toList.head?.any Char.isAlpha = true)
    (symbol : ∀ first ∈ (text.dropWhile CharClass.skipped).head?, Scanner.isSymbol first = true) :
    firstMet caseSensitive words (text.dropWhile CharClass.skipped) = none := by
  refine List.find?_eq_none.mpr fun entry member meets => ?_
  rw [meetsWord_symbol (lettered entry member) symbol] at meets
  cases meets

theorem symbol_of_head {first : Char} (solid : CharClass.skipped first = false)
    (symbol : Scanner.isSymbol first = true) :
    ∀ other ∈ ((first :: text).dropWhile CharClass.skipped).head?, Scanner.isSymbol other = true := by
  intro other found
  rw [head?_solid solid] at found
  exact Option.some.inj found ▸ symbol

theorem placeholder?_other (differs : (text.dropWhile CharClass.skipped).head? ≠ some '%') :
    Takes caseSensitive text (placeholder? which) none text := by
  intro parser facing
  have moves := Scanner.skipIgnored_moves facing.skips
  have missing : Setting.scanPlaceholder parser.scanner = (none, parser.scanner.skipIgnored) := by
    unfold Setting.scanPlaceholder
    rw [Scanner.scanLiteral_eq facing.skips, meets_eq (by decide), facing.ahead,
      startsWith_other "%" (by decide) differs]
    rfl
  refine ⟨parser.moved parser.scanner.skipIgnored, by rw [Setting.placeholder?_eq, missing],
    ⟨moves.skips.trans facing.skips, moves.caseSensitive.trans facing.caseSensitive, ?_⟩, moves.text⟩
  exact (ahead_skipIgnored facing.skips).trans facing.ahead

theorem quoted?_other (double : (text.dropWhile CharClass.skipped).head? ≠ some '"')
    (single : (text.dropWhile CharClass.skipped).head? ≠ some '\'') :
    Takes caseSensitive text quoted? none text := by
  refine (quotedBy_missing (by decide) _ ?_).bind (quotedBy_missing (by decide) _ ?_)
  · exact startsWith_other "\"" (by decide) double
  · exact startsWith_other "'" (by decide) single

theorem identifier_taken {name : List Char} (named : KeyPath.IsName name)
    (stops : behind.head?.any CharClass.identifier = false) :
    Takes caseSensitive (name ++ behind) identifier (String.ofList name) behind :=
  (characters_taken (by decide) _ named.1 named.2 stops).bind (.pure _)

theorem constantWords_lettered : ∀ entry ∈ constantWords, entry.1.toList.head?.any Char.isAlpha = true := by
  decide

theorem simple_variable {name : String} (named : KeyPath.IsName name.toList)
    (stops : behind.head?.any CharClass.identifier = false) :
    Takes caseSensitive ('$' :: (name.toList ++ behind)) (simple which nested)
      (.variable name) behind := by
  refine simple_words (head?_solid (by decide)) (by decide) (by decide) ?_
  refine (firstKeyword_missing constantWords_solid (firstMet_symbol constantWords_lettered
    (symbol_of_head (by decide) (by decide)))).bind ?_
  refine (literal_taken "$" (by decide)).bind ?_
  refine (identifier_taken named stops).bind ?_
  rw [String.ofList_toList]
  exact .pure _

theorem simple_named {result : Expression} {first : Char}
    (begins : (text.dropWhile CharClass.skipped).head? = some first) (noDigit : first.isDigit = false)
    (differs : first ∉ ".-(\x7b$%\"'".toList)
    (missing : firstMet caseSensitive constantWords (text.dropWhile CharClass.skipped) = none)
    (takes : Takes caseSensitive text (do
      if ← literal "@" then return .keyPath ("@" ++ (← identifier))
      let _ ← literal "#"
      return .keyPath (← identifier)) result rest) :
    Takes caseSensitive text (simple which nested) result rest := by
  have other := fun symbol (member : symbol ∈ _) => begins_other begins differs member
  refine simple_words begins noDigit (fun member => differs ?_) ?_
  · exact List.mem_append_left "$%\"'".toList member
  refine (firstKeyword_missing constantWords_solid missing).bind ?_
  refine (literal_other "$" (by decide) (other '$' (by decide))).bind ?_
  refine (placeholder?_other (other '%' (by decide))).bind ?_
  exact (quoted?_other (other '"' (by decide)) (other '\'' (by decide))).bind takes

theorem simple_at {name : List Char} (named : KeyPath.IsName name)
    (stops : behind.head?.any CharClass.identifier = false) :
    Takes caseSensitive ('@' :: (name ++ behind)) (simple which nested)
      (.keyPath (String.ofList ('@' :: name))) behind := by
  refine simple_named (head?_solid (by decide)) (by decide) (by decide)
    (firstMet_symbol constantWords_lettered (symbol_of_head (by decide) (by decide))) ?_
  refine (literal_taken "@" (by decide)).bind ?_
  refine (identifier_taken named stops).bind ?_
  have same : "@" ++ String.ofList name = String.ofList ('@' :: name) := by
    rw [← List.singleton_append, String.ofList_append]
  exact same ▸ .pure _

theorem simple_escaped {name : List Char} (named : KeyPath.IsName name)
    (stops : behind.head?.any CharClass.identifier = false) :
    Takes caseSensitive ('#' :: (name ++ behind)) (simple which nested)
      (.keyPath (String.ofList name)) behind := by
  refine simple_named (head?_solid (by decide)) (by decide) (by decide)
    (firstMet_symbol constantWords_lettered (symbol_of_head (by decide) (by decide))) ?_
  refine (literal_other "@" (by decide) (head?_ne (by decide) (by decide))).bind ?_
  refine (literal_taken "#" (by decide)).bind ?_
  exact (identifier_taken named stops).bind (.pure _)

theorem constantWords_reserved : ∀ entry ∈ constantWords, entry.1 ∈ KeyPath.reservedWords := by
  decide

theorem simple_bare {name : List Char} (named : KeyPath.IsName name)
    (begins : ∀ first ∈ name.head?, first.isDigit = false ∧ first ≠ '$')
    (unmet : firstMet caseSensitive constantWords (name ++ behind) = none)
    (stops : behind.head?.any CharClass.identifier = false) :
    Takes caseSensitive (name ++ behind) (simple which nested)
      (.keyPath (String.ofList name)) behind := by
  obtain ⟨first, tail, rfl⟩ := List.exists_cons_of_ne_nil named.1
  have own := named.2 first (by simp)
  have solid := CharClass.solid (by decide) own
  have front : (first :: tail ++ behind).dropWhile CharClass.skipped = first :: tail ++ behind :=
    List.dropWhile_cons_of_neg (by simp [solid])
  obtain ⟨noDigit, noDollar⟩ := begins first rfl
  have differs : first ∉ ".-(\x7b$%\"'@#".toList := by
    intro member
    have symbols : ∀ symbol ∈ ".-(\x7b$%\"'@#".toList,
        CharClass.identifier symbol = true → symbol = '$' := by
      decide
    exact noDollar (symbols first member own)
  have opening : ((first :: tail ++ behind).dropWhile CharClass.skipped).head? = some first :=
    head?_solid solid
  have other := fun symbol (member : symbol ∈ _) => begins_other opening differs member
  refine simple_named opening noDigit (fun member => differs ?_) (front.symm ▸ unmet) ?_
  · exact List.mem_append_left "@#".toList member
  · refine (literal_other "@" (by decide) (other '@' (by decide))).bind ?_
    refine (literal_other "#" (by decide) (other '#' (by decide))).bind ?_
    exact (identifier_taken named stops).bind (.pure _)

theorem simple_plain {name : List Char} (named : KeyPath.IsName name)
    (plain : KeyPath.needsEscape name = false) (severed : KeyPath.Severed behind) :
    Takes caseSensitive (name ++ behind) (simple which nested)
      (.keyPath (String.ofList name)) behind := by
  refine simple_bare named (fun first begins => ?_) ?_ severed.stops
  · obtain ⟨tail, rfl⟩ := List.head?_eq_some_iff.mp begins
    unfold KeyPath.needsEscape at plain
    simp only [Bool.or_eq_false_iff, decide_eq_false_iff_not] at plain
    exact plain.1
  · refine List.find?_eq_none.mpr fun entry member => ?_
    rw [KeyPath.meetsWord_of_plain named severed plain (constantWords_reserved entry member)]
    exact Bool.false_ne_true

theorem quotes : Setting.Quote "\"" '"' ∧ Setting.Quote "'" '\'' :=
  ⟨⟨rfl, by decide⟩, ⟨rfl, by decide⟩⟩

theorem toList_quoted (text : String) :
    (Value.quoted text).toList =
      let mark := if '"' ∈ text.toList then '\'' else '"'
      mark :: (text.toList ++ [mark]) := by
  unfold Value.quoted
  split
  next => simp
  next => simp

theorem simple_quoted {text : List Char} {result : Expression} {mark : Char}
    (isMark : mark ∈ "\"'".toList)
    (takes : Takes caseSensitive (mark :: text) quoted? (some result) rest) :
    Takes caseSensitive (mark :: text) (simple which nested) result rest := by
  have symbols : ∀ mark ∈ "\"'".toList, CharClass.skipped mark = false ∧ mark.isDigit = false ∧
      mark ∉ ".-(\x7b$%".toList ∧ Scanner.isSymbol mark = true := by
    decide
  obtain ⟨solid, noDigit, differs, symbol⟩ := symbols mark isMark
  have begins : ((mark :: text).dropWhile CharClass.skipped).head? = some mark := head?_solid solid
  have other := fun symbol (member : symbol ∈ _) => begins_other begins differs member
  refine simple_words begins noDigit (fun member => differs ?_) ?_
  · exact List.mem_append_left "$%".toList member
  refine (firstKeyword_missing constantWords_solid
    (firstMet_symbol constantWords_lettered (symbol_of_head solid symbol))).bind ?_
  refine (literal_other "$" (by decide) (other '$' (by decide))).bind ?_
  refine (placeholder?_other (other '%' (by decide))).bind ?_
  exact takes.bind (.pure _)

/-- A string that lacks one of the quotation marks is read from between two of them. -/
theorem simple_string {text : String} (printable : '"' ∉ text.toList ∨ '\'' ∉ text.toList) :
    Takes caseSensitive ((Value.quoted text).toList ++ behind) (simple which nested)
      (.constant (.string text)) behind := by
  rw [toList_quoted]
  by_cases double : '"' ∈ text.toList
  · have single := printable.resolve_left fun missing => missing double
    simp only [double, if_true, List.cons_append, List.append_assoc, List.nil_append]
    refine simple_quoted (by decide) ?_
    refine (quotedBy_missing (by decide) _ ?_).bind ?_
    · exact startsWith_other "\"" (by decide) (head?_ne (by decide) (by decide))
    · exact quotedBy_taken quotes.2 _ single (by decide)
  · simp only [double, if_false, List.cons_append, List.append_assoc, List.nil_append]
    refine simple_quoted (by decide) ?_
    exact (quotedBy_taken quotes.1 _ double (by decide)).bind (.pure _)

def operandSymbols : String := ".-(\x7b$%\"'@#"

/-- No operand begins where the text ends or goes on with another symbol. -/
def Barren (text : List Char) : Prop :=
  (text.dropWhile CharClass.skipped).head?.all (fun first =>
    Scanner.isSymbol first && !CharClass.identifier first && !operandSymbols.toList.contains first) = true

instance (text : List Char) : Decidable (Barren text) := inferInstanceAs (Decidable (_ = true))

theorem Barren.differs (barren : Barren text) {symbol : Char} (member : symbol ∈ operandSymbols.toList) :
    (text.dropWhile CharClass.skipped).head? ≠ some symbol := by
  intro same
  unfold Barren at barren
  simp [same] at barren
  exact barren.2 member

theorem Barren.symbol (barren : Barren text) :
    ∀ first ∈ (text.dropWhile CharClass.skipped).head?, Scanner.isSymbol first = true := by
  intro first found
  unfold Barren at barren
  rw [found] at barren
  simp only [Option.all_some, Bool.and_eq_true] at barren
  exact barren.1.1

theorem Barren.unnamed (barren : Barren text) :
    (text.dropWhile CharClass.skipped).head?.any CharClass.identifier = false := by
  unfold Barren at barren
  cases first : (text.dropWhile CharClass.skipped).head? with
  | none => rfl
  | some first => simp_all

theorem simple_rejected (barren : Barren text) : Rejects caseSensitive text (simple which nested) := by
  have numeral : Takes caseSensitive text numericLiteral? none text := by
    refine numericLiteral?_missing fun first found => ⟨?_, ?_⟩
    · have unnamed := barren.unnamed
      rw [found] at unnamed
      simp only [Option.any_some, CharClass.identifier, Char.isAlphanum, Bool.or_eq_false_iff] at unnamed
      exact unnamed.2.2
    · rintro rfl
      exact barren.differs (by decide) found
  refine numeral.rejects ?_
  refine (literal_other "-" (by decide) (barren.differs (by decide))).rejects ?_
  refine (literal_other "(" (by decide) (barren.differs (by decide))).rejects ?_
  refine (literal_other "\x7b" (by decide) (barren.differs (by decide))).rejects ?_
  refine (firstKeyword_missing constantWords_solid
    (firstMet_symbol constantWords_lettered barren.symbol)).rejects ?_
  refine (literal_other "$" (by decide) (barren.differs (by decide))).rejects ?_
  refine (placeholder?_other (barren.differs (by decide))).rejects ?_
  refine (quoted?_other (barren.differs (by decide)) (barren.differs (by decide))).rejects ?_
  refine (literal_other "@" (by decide) (barren.differs (by decide))).rejects ?_
  refine (literal_other "#" (by decide) (barren.differs (by decide))).rejects ?_
  exact (characters_rejected _ barren.unnamed).bind.bind

theorem functional_rejected (barren : Barren text) :
    Rejects caseSensitive text (functional which nested) :=
  (simple_rejected barren).bind

theorem addition_rejected (barren : Barren text) :
    Rejects caseSensitive text (addition which nested) :=
  (functional_rejected barren).bind.bind.bind

theorem binary_rejected (barren : Barren text) : Rejects caseSensitive text (binary which nested) :=
  (addition_rejected barren).bind

end

theorem Takes.not_rejects {step : Parse α} {result : α} (takes : Takes caseSensitive text step result rest) :
    ¬ Rejects caseSensitive text step := by
  intro rejects
  have facing := Parser.facing_ofText (String.ofList text) [] caseSensitive
  rw [String.toList_ofList] at facing
  obtain ⟨stop, same, _⟩ := takes _ facing
  obtain ⟨error, after, failed, _⟩ := rejects _ facing
  rw [same] at failed
  cases failed

end Parse

end PredicateRules
