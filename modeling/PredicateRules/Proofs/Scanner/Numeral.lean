import PredicateRules.Grammar.Expression
import PredicateRules.Proofs.Number.Written
import PredicateRules.Proofs.Reading.Scan

namespace PredicateRules

namespace Scanner

variable {α : Type} {parse : List Char → Option α} {text front : List Char}

/-- A front of the text that is tried as a number. -/
structure Tried (text front : List Char) : Prop where
  isFront : front <+: text
  nonempty : front ≠ []
  numeric : ∀ character ∈ front, CharClass.number character = true

theorem tried_cons {character : Char} :
    Tried (character :: text) front ↔ CharClass.number character = true ∧
      ∃ more, front = character :: more ∧ (more = [] ∨ Tried text more) := by
  constructor
  · rintro ⟨isFront, nonempty, numeric⟩
    obtain ⟨more, rfl, within⟩ := (List.prefix_cons_iff.mp isFront).resolve_left nonempty
    refine ⟨numeric character List.mem_cons_self, more, rfl, ?_⟩
    by_cases empty : more = []
    · exact .inl empty
    · exact .inr ⟨within, empty, fun other member => numeric other (List.mem_cons_of_mem _ member)⟩
  · rintro ⟨number, more, rfl, rfl | tried⟩
    · exact ⟨⟨text, rfl⟩, nofun, by simpa using number⟩
    · exact ⟨List.cons_prefix_cons.mpr ⟨rfl, tried.isFront⟩, nofun,
        List.forall_mem_cons.mpr ⟨number, tried.numeric⟩⟩

/-- The longest of the fronts that are numbers counts, and without one what there was before. -/
theorem lastNumber_cases (parse : List Char → Option α) (taken : List Char) (best : Option (Nat × α))
    (text : List Char) :
    (∃ front number, Tried text front ∧ parse (taken ++ front) = some number ∧
      (∀ other, Tried text other → front.length < other.length → parse (taken ++ other) = none) ∧
      lastNumber parse taken best text = some ((taken ++ front).length, number)) ∨
    ((∀ other, Tried text other → parse (taken ++ other) = none) ∧ lastNumber parse taken best text = best) := by
  induction text generalizing taken best with
  | nil =>
      refine .inr ⟨fun other tried => absurd (List.prefix_nil.mp tried.isFront) tried.nonempty, rfl⟩
  | cons character text ih =>
      by_cases numeric : CharClass.number character = true
      case neg =>
        refine .inr ⟨fun other tried => absurd (tried_cons.mp tried).1 numeric, ?_⟩
        rw [lastNumber, if_neg numeric]
      rw [lastNumber, if_pos numeric]
      -- What is found further on counts before what is found here, and this before what there was.
      have onward : ∀ more, taken ++ character :: more = taken ++ [character] ++ more := by simp
      obtain ⟨front, number, tried, parsed, longest, same⟩ | ⟨others, same⟩ := ih (taken ++ [character]) _
      · refine .inl ⟨character :: front, number, tried_cons.mpr ⟨numeric, front, rfl, .inr tried⟩, ?_⟩
        rw [onward]
        refine ⟨parsed, fun other triedToo longer => ?_, same⟩
        obtain ⟨-, more, rfl, rfl | triedToo⟩ := tried_cons.mp triedToo
        · exact absurd (Nat.lt_of_succ_lt_succ longer) (Nat.not_lt_zero _)
        · rw [onward]
          exact longest more triedToo (Nat.lt_of_succ_lt_succ longer)
      · rw [same]
        cases parsed : parse (taken ++ [character]) with
        | none =>
            refine .inr ⟨fun other tried => ?_, rfl⟩
            obtain ⟨-, more, rfl, rfl | tried⟩ := tried_cons.mp tried
            · exact parsed
            · rw [onward]
              exact others more tried
        | some number =>
            refine .inl ⟨[character], number, tried_cons.mpr ⟨numeric, [], rfl, .inl rfl⟩, parsed, ?_, rfl⟩
            intro other tried longer
            obtain ⟨-, more, rfl, rfl | tried⟩ := tried_cons.mp tried
            · exact absurd longer (Nat.lt_irrefl _)
            · rw [onward]
              exact others more tried

end Scanner

namespace Numeral

variable {input literal rest : List Char} {numeral : Numeral}

theorem numeric_of_isDigit {digit : Char} (isDigit : digit.isDigit = true) : CharClass.number digit = true := by
  simp [CharClass.number, isDigit]

theorem IsMantissa.begins (isMantissa : IsMantissa literal) (behind : List Char) :
    (literal ++ behind).head?.any Numeral.begins = true := by
  cases isMantissa with
  | whole each nonempty => exact each.begins nonempty behind
  | point each nonempty =>
      rw [List.append_assoc]
      exact each.begins nonempty _
  | fraction => rfl

theorem IsMantissa.numeric (isMantissa : IsMantissa literal) :
    ∀ character ∈ literal, CharClass.number character = true := by
  cases isMantissa with
  | whole each => exact fun character member => numeric_of_isDigit (each character member)
  | point each nonempty eachBehind =>
      refine List.forall_mem_append.mpr ⟨fun character member => numeric_of_isDigit (each character member), ?_⟩
      exact List.forall_mem_cons.mpr ⟨rfl, fun character member =>
        numeric_of_isDigit (eachBehind character member)⟩
  | fraction eachBehind =>
      exact List.forall_mem_cons.mpr ⟨rfl, fun character member =>
        numeric_of_isDigit (eachBehind character member)⟩

theorem IsScale.numeric (isScale : IsScale literal) :
    ∀ character ∈ literal, CharClass.number character = true := by
  cases isScale with
  | none => exact fun _ member => absurd member List.not_mem_nil
  | power marks signs each =>
      refine List.forall_mem_cons.mpr ⟨?_, List.forall_mem_append.mpr ⟨?_, ?_⟩⟩
      · rcases marks with rfl | rfl <;> rfl
      · rcases signs with rfl | rfl | rfl <;> decide
      · exact fun character member => numeric_of_isDigit (each character member)

theorem IsWritten.begins (isWritten : IsWritten literal) : literal.head?.any Numeral.begins = true := by
  obtain ⟨isMantissa, isScale⟩ := isWritten
  exact isMantissa.begins _

theorem IsWritten.tried (isWritten : IsWritten literal) (front : literal <+: input) :
    Scanner.Tried input literal where
  isFront := front
  nonempty := by
    rintro rfl
    cases isWritten.begins
  numeric := by
    obtain ⟨isMantissa, isScale⟩ := isWritten
    exact List.forall_mem_append.mpr ⟨isMantissa.numeric, isScale.numeric⟩

theorem begins_toLower {character : Char} (first : begins character = true) :
    character.toLower ≠ 'i' ∧ character.toLower ≠ 'n' := by
  have low : ∀ code < 58, (Char.ofNat code).toLower ≠ 'i' ∧ (Char.ofNat code).toLower ≠ 'n' := by decide
  have least : character.toNat < 58 := by
    simp only [begins, Char.isDigit, Bool.or_eq_true, Bool.and_eq_true, decide_eq_true_eq, beq_iff_eq] at first
    rcases first with ⟨-, digit⟩ | rfl
    · exact Nat.lt_succ_of_le digit
    · decide
  have kept := low character.toNat least
  rwa [Char.ofNat_toNat] at kept

theorem parseFloat?_unsigned (first : literal.head?.any begins = true) :
    Float64.parse? literal = (parse? literal).map toFloat := by
  have named : Float64.named? literal = none := by
    cases literal with
    | nil => rfl
    | cons character literal =>
        have begins : begins character = true := by simpa using first
        obtain ⟨infinity, nan⟩ := begins_toLower begins
        simp [Float64.named?, infinity, nan]
  simp only [Float64.parse?, scanSign_unsigned first, named]
  cases parse? literal <;> rfl

theorem IsLongest.unique {other : List Char} (left : IsLongest input literal) (right : IsLongest input other) :
    literal = other := by
  have length := Nat.le_antisymm (right.longest literal left.front left.isWritten)
    (left.longest other right.front right.isWritten)
  exact (List.prefix_of_prefix_length_le left.front right.front (Nat.le_of_eq length)).eq_of_length length

/-- The loop finds what one pass over the text finds. -/
theorem lastNumber_eq_scan (first : input.head?.any begins = true) :
    Scanner.lastNumber Float64.parse? [] none input =
      (scan input).map fun (numeral, _) => (numeral.text.length, numeral.toFloat) := by
  have parse : ∀ front, Scanner.Tried input front → Float64.parse? front = (parse? front).map toFloat := by
    intro front tried
    obtain ⟨character, front, rfl⟩ := List.exists_cons_of_ne_nil tried.nonempty
    obtain ⟨behind, rfl⟩ := tried.isFront
    exact parseFloat?_unsigned first
  -- So the loop passes over no numeral, and what it stops at last is the longest one.
  have reads : ∀ front, front <+: input → IsWritten front → Float64.parse? ([] ++ front) ≠ none := by
    intro front isFront isWritten missed
    obtain ⟨numeral, parsed⟩ := isWritten.parse?
    rw [List.nil_append, parse front (isWritten.tried isFront), parsed] at missed
    cases missed
  obtain ⟨front, number, tried, parsed, longest, same⟩ | ⟨others, same⟩ :=
    Scanner.lastNumber_cases Float64.parse? [] none input
  · rw [same]
    rw [List.nil_append, parse front tried] at parsed
    obtain ⟨own, ownText, rfl⟩ := Option.map_eq_some_iff.mp parsed
    have isLongest : IsLongest input front := by
      refine ⟨tried.isFront, (isWritten_of_parse ownText).2, fun other front isWritten => ?_⟩
      exact Nat.le_of_not_lt fun longer =>
        reads other front isWritten (longest other (isWritten.tried front) longer)
    cases scanned : scan input with
    | none => exact absurd isLongest.isWritten (scan_eq_none_iff.mp scanned front tried.isFront)
    | some found =>
        obtain ⟨numeral, rest⟩ := found
        obtain rfl := isLongest.unique (isLongest_of_scan scanned)
        obtain rfl := Option.some.inj ((parse?_of_scan scanned).symm.trans ownText)
        rfl
  · rw [same]
    have missing : scan input = none := scan_eq_none_iff.mpr fun front isFront isWritten =>
      reads front isFront isWritten (others front (isWritten.tried isFront))
    rw [missing]
    rfl

theorem scan_begins (scanned : scan input = some (numeral, rest)) : input.head?.any begins = true := by
  have first := (isWritten_of_scan scanned).begins
  rw [← text_append_of_scan scanned]
  cases text : numeral.text with
  | nil => rw [text] at first; cases first
  | cons character behind => rwa [text] at first

theorem parseInt64?_of_scan (scanned : scan input = some (numeral, rest)) :
    parseInt64? numeral.text = numeral.toInt64? := by
  have wellFormed := wellFormed_of_scan scanned
  obtain ⟨digits, others⟩ := wellFormed.toInt64?_eq
  have first := (isWritten_of_scan scanned).begins
  have nonempty : numeral.text.isEmpty = false := by
    cases text : numeral.text with
    | nil => rw [text] at first; cases first
    | cons => rfl
  simp only [parseInt64?, scanSign_unsigned first, nonempty]
  by_cases each : AllDigits numeral.text
  · simp [digits each, List.all_eq_true.mpr each, Int64.ofInt_eq_ofNat]
  · have mixed : numeral.text.all Char.isDigit = false :=
      Bool.eq_false_iff.mpr fun all => each (List.all_eq_true.mp all)
    simp [others each, mixed]

def value (numeral : Numeral) : Value :=
  match numeral.toInt64? with
  | some number => .int number
  | none => .float numeral.toFloat

end Numeral

namespace Scanner

variable {scanner : Scanner}

/-- The longest numeral that comes next, found in one pass. -/
def scanNumeral (scanner : Scanner) : Option Numeral × Scanner :=
  let ahead := scanner.skipIgnored
  match Numeral.scan ahead.remaining with
  | some (numeral, _) => (some numeral, ahead.forward numeral.text.length)
  | none => (none, ahead)

theorem scanFloat_eq (scanner : Scanner) :
    scanner.scanFloat = (scanner.scanNumeral.1.map Numeral.toFloat, scanner.scanNumeral.2) := by
  unfold scanFloat scanNumber scanNumeral
  cases first : scanner.skipIgnored.remaining.head?.any Numeral.begins with
  | false =>
      have missing : Numeral.scan scanner.skipIgnored.remaining = none := by
        cases scanned : Numeral.scan scanner.skipIgnored.remaining with
        | none => rfl
        | some found =>
            rw [Numeral.scan_begins scanned] at first
            cases first
      unfold Numeral.begins at first
      simp [first, missing]
  | true =>
      have found := Numeral.lastNumber_eq_scan first
      unfold Numeral.begins at first
      simp only [first, found, if_true]
      cases Numeral.scan scanner.skipIgnored.remaining <;> rfl

theorem scanNumeral_skipIgnored (scanner : Scanner) : scanner.skipIgnored.scanNumeral = scanner.scanNumeral := by
  simp only [scanNumeral, skipIgnored_skipIgnored]

theorem scanNumeral_eq (skips : scanner.skips = some CharClass.skipped) :
    scanner.scanNumeral =
      match Numeral.scan scanner.ahead with
      | some (numeral, _) => (some numeral, scanner.skipIgnored.forward numeral.text.length)
      | none => (none, scanner.skipIgnored) := by
  rw [← remaining_skipIgnored skips]
  rfl

theorem scanNumeral_none (missing : Numeral.scan scanner.skipIgnored.remaining = none) :
    scanner.scanNumeral = (none, scanner.skipIgnored) := by
  simp only [scanNumeral, missing]

theorem scanNumeral_some {numeral : Numeral} {rest : List Char}
    (scanned : Numeral.scan scanner.skipIgnored.remaining = some (numeral, rest)) :
    ∃ stop, scanner.scanNumeral = (some numeral, stop) ∧ scanner.skipIgnored.Moves stop numeral.text := by
  have moves := scanner.skipIgnored.forward_moves numeral.text.length
  rw [← Numeral.text_append_of_scan scanned, List.take_left] at moves
  refine ⟨_, ?_, moves⟩
  simp only [scanNumeral, scanned]

end Scanner

/-- What is read of a number is the value of the longest numeral. -/
theorem Parse.numericLiteral?_eq :
    numericLiteral? = do return (← scan Scanner.scanNumeral).map Numeral.value := by
  funext parser
  have float := Scanner.scanFloat_eq parser.scanner.skipIgnored
  rw [Scanner.scanNumeral_skipIgnored] at float
  simp only [numericLiteral?, bind, EStateM.bind, scan, move, Parse.scanner, pure, EStateM.pure, float]
  cases scanned : Numeral.scan parser.scanner.skipIgnored.remaining with
  | none =>
      rw [Scanner.scanNumeral_none scanned]
      rfl
  | some found =>
      obtain ⟨numeral, rest⟩ := found
      obtain ⟨stop, found, moves⟩ := Scanner.scanNumeral_some scanned
      have whole := Numeral.parseInt64?_of_scan scanned
      rw [← moves.slice] at whole
      simp only [found, Option.map_some, EStateM.bind, Parse.scanner, whole, Numeral.value]
      cases numeral.toInt64? <;> rfl

end PredicateRules
