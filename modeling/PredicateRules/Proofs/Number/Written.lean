import PredicateRules.Number.Literal
import PredicateRules.Proofs.Cutting.Numeral

namespace PredicateRules.Numeral

def AllDigits (text : List Char) : Prop := ∀ character ∈ text, character.isDigit = true

/-- Digits, digits with a point in them or behind them, or a point with digits behind it. -/
inductive IsMantissa : List Char → Prop where
  | whole {digits : List Char} (each : AllDigits digits) (nonempty : digits ≠ []) : IsMantissa digits
  | point {digits behind : List Char} (each : AllDigits digits) (nonempty : digits ≠ [])
      (eachBehind : AllDigits behind) : IsMantissa (digits ++ '.' :: behind)
  | fraction {behind : List Char} (eachBehind : AllDigits behind) (nonempty : behind ≠ []) :
      IsMantissa ('.' :: behind)

/-- Nothing, or a power of ten: `e` or `E`, a sign if there is one, and digits. -/
inductive IsScale : List Char → Prop where
  | none : IsScale []
  | power {marker : Char} {sign digits : List Char} (marks : marker = 'e' ∨ marker = 'E')
      (signs : sign = [] ∨ sign = ['+'] ∨ sign = ['-']) (each : AllDigits digits) (nonempty : digits ≠ []) :
      IsScale (marker :: (sign ++ digits))

inductive IsWritten : List Char → Prop where
  | scaled {mantissa scale : List Char} (isMantissa : IsMantissa mantissa) (isScale : IsScale scale) :
      IsWritten (mantissa ++ scale)

/-- The longest numeral at the front of a text. -/
structure IsLongest (input literal : List Char) : Prop where
  front : literal <+: input
  isWritten : IsWritten literal
  longest : ∀ other, other <+: input → IsWritten other → other.length ≤ literal.length

variable {digits scale input rest : List Char} {numeral : Numeral}

theorem allDigits_nil : AllDigits [] := fun _ member => absurd member List.not_mem_nil

theorem allDigits_takeWhile (text : List Char) : AllDigits (text.takeWhile Char.isDigit) :=
  List.all_eq_true.mp List.all_takeWhile

/-- A numeral begins with a digit or a point. -/
def begins (character : Char) : Bool := character.isDigit || character == '.'

theorem AllDigits.begins (each : AllDigits digits) (nonempty : digits ≠ []) (behind : List Char) :
    (digits ++ behind).head?.any begins = true := by
  obtain ⟨digit, digits, rfl⟩ := List.exists_cons_of_ne_nil nonempty
  simp [Numeral.begins, each digit List.mem_cons_self]

theorem scanSign_unsigned (first : input.head?.any begins = true) : scanSign input = (none, input) := by
  cases input with
  | nil => rfl
  | cons character input =>
      have plus : character ≠ '+' := by rintro rfl; cases first
      have minus : character ≠ '-' := by rintro rfl; cases first
      simp [scanSign, plus, minus]

theorem AllDigits.scanSign (each : AllDigits digits) (nonempty : digits ≠ []) :
    scanSign digits = (none, digits) := by
  have first := each.begins nonempty []
  rw [List.append_nil] at first
  exact scanSign_unsigned first

theorem sign_cases (input : List Char) :
    (scanSign input).1 = none ∨ (scanSign input).1 = some '+' ∨ (scanSign input).1 = some '-' := by
  unfold scanSign
  split <;> simp

theorem sign_toList_cases (input : List Char) :
    (scanSign input).1.toList = [] ∨ (scanSign input).1.toList = ['+'] ∨
      (scanSign input).1.toList = ['-'] := by
  rcases sign_cases input with sign | sign | sign <;> simp [sign]

theorem isScale_scanExponent (input : List Char) : IsScale (exponentText (scanExponent input).1) := by
  cases input with
  | nil => exact .none
  | cons marker rest =>
      simp only [scanExponent]
      split
      next marks =>
        have each := allDigits_takeWhile (scanSign rest).2
        split
        · exact .none
        next nonempty => exact .power marks (sign_toList_cases rest) each nonempty
      next => exact .none

theorem allDigits_scanFraction (input : List Char) : AllDigits ((scanFraction input).1.getD []) := by
  unfold scanFraction
  split
  · exact allDigits_takeWhile _
  · exact allDigits_nil

theorem isMantissa_of_parts {fraction : Option (List Char)} (each : AllDigits digits)
    (eachBehind : AllDigits (fraction.getD []))
    (found : (digits.isEmpty && (fraction.getD []).isEmpty) = false) :
    IsMantissa (digits ++ fractionText fraction) := by
  cases fraction with
  | none =>
      simp only [fractionText, List.append_nil]
      exact .whole each (by simpa using found)
  | some behind =>
      cases digits with
      | nil => exact .fraction eachBehind (by simpa using found)
      | cons digit digits => exact .point each (List.cons_ne_nil _ _) eachBehind

theorem isWritten_of_scan (scanned : scan input = some (numeral, rest)) : IsWritten numeral.text := by
  simp only [scan] at scanned
  split at scanned
  · contradiction
  next found =>
    obtain ⟨rfl, rfl⟩ := Prod.mk.inj (Option.some.inj scanned)
    have mantissa := isMantissa_of_parts (allDigits_takeWhile input) (allDigits_scanFraction _)
      (Bool.not_eq_true _ ▸ found)
    exact .scaled mantissa (isScale_scanExponent _)

theorem scanSign_signed (signs : rest = [] ∨ rest = ['+'] ∨ rest = ['-']) (each : AllDigits digits)
    (nonempty : digits ≠ []) : (scanSign (rest ++ digits)).2 = digits := by
  rcases signs with rfl | rfl | rfl
  · rw [List.nil_append, each.scanSign nonempty]
  · rfl
  · rfl

theorem IsScale.stops (isScale : IsScale scale) :
    scale.head?.any Char.isDigit = false ∧ scanFraction scale = (Option.none, scale) := by
  cases isScale with
  | none => exact ⟨rfl, rfl⟩
  | power marks => rcases marks with rfl | rfl <;> exact ⟨rfl, rfl⟩

theorem IsScale.scanExponent_rest (isScale : IsScale scale) : (scanExponent scale).2 = [] := by
  cases isScale with
  | none => rfl
  | @power marker sign digits marks signs each nonempty =>
      have ends : ([] : List Char).head?.any Char.isDigit = false := rfl
      obtain ⟨whole, behind⟩ := takeWhile_stop each ends
      rw [List.append_nil] at whole behind
      simp only [scanExponent, if_pos marks, scanSign_signed signs each nonempty, whole, behind]

theorem IsMantissa.scan_parts {mantissa : List Char} (isMantissa : IsMantissa mantissa)
    (isScale : IsScale scale) :
    let text := mantissa ++ scale
    let fraction := scanFraction (text.dropWhile Char.isDigit)
    fraction.2 = scale ∧ ((text.takeWhile Char.isDigit).isEmpty && (fraction.1.getD []).isEmpty) = false := by
  obtain ⟨stops, unpointed⟩ := isScale.stops
  cases isMantissa with
  | whole each nonempty =>
      obtain ⟨whole, behind⟩ := takeWhile_stop each stops
      simp only [whole, behind, unpointed, true_and]
      simp [nonempty]
  | @point digits behind each nonempty eachBehind =>
      have point : ('.' :: (behind ++ scale)).head?.any Char.isDigit = false := rfl
      obtain ⟨whole, rest⟩ := takeWhile_stop each point
      obtain ⟨-, scaled⟩ := takeWhile_stop eachBehind stops
      simp only [List.append_assoc, List.cons_append, whole, rest, scanFraction, scaled, true_and]
      simp [nonempty]
  | @fraction behind eachBehind nonempty =>
      obtain ⟨digits, scaled⟩ := takeWhile_stop eachBehind stops
      have point : ('.' :: (behind ++ scale)).dropWhile Char.isDigit = '.' :: (behind ++ scale) := rfl
      simp only [List.cons_append, point, scanFraction, digits, scaled, true_and]
      simp [nonempty]

theorem IsWritten.scan_whole {text : List Char} (isWritten : IsWritten text) :
    ∃ numeral, scan text = some (numeral, []) := by
  obtain ⟨isMantissa, isScale⟩ := isWritten
  obtain ⟨rest, digits⟩ := isMantissa.scan_parts isScale
  simp only [scan, digits, rest, Bool.false_eq_true, if_false, isScale.scanExponent_rest]
  exact ⟨_, rfl⟩

theorem isLongest_of_scan (scanned : scan input = some (numeral, rest)) : IsLongest input numeral.text where
  front := ⟨rest, text_append_of_scan scanned⟩
  isWritten := isWritten_of_scan scanned
  longest := by
    rintro other ⟨behind, rfl⟩ isWritten
    obtain ⟨own, whole⟩ := isWritten.scan_whole
    refine Nat.le_of_not_lt fun shorter => ?_
    -- A shorter numeral would be what is scanned of the other one by itself.
    obtain ⟨left, again, -⟩ := scan_within scanned (by omega)
    rw [whole] at again
    obtain ⟨rfl, rfl⟩ := Prod.mk.inj (Option.some.inj again)
    have length := congrArg List.length (text_append_of_scan whole)
    rw [List.append_nil] at length
    omega

theorem scan_eq_none_iff : scan input = none ↔ ∀ front, front <+: input → ¬ IsWritten front := by
  constructor
  · rintro missing front ⟨behind, rfl⟩ isWritten
    obtain ⟨numeral, whole⟩ := isWritten.scan_whole
    rw [scan_none missing] at whole
    cases whole
  · intro missing
    cases scanned : scan input with
    | none => rfl
    | some found =>
        have isLongest := isLongest_of_scan scanned
        exact absurd isLongest.isWritten (missing _ isLongest.front)

/-- What scanning finds of a numeral: digits on a side of the point, and a whole power of ten if any. -/
structure WellFormed (numeral : Numeral) : Prop where
  whole : AllDigits numeral.whole
  fraction : AllDigits (numeral.fraction.getD [])
  digits : (numeral.whole.isEmpty && (numeral.fraction.getD []).isEmpty) = false
  exponent : ∀ exponent ∈ numeral.exponent, marksPower exponent.marker = true ∧
    scanSign (exponent.sign.toList ++ exponent.digits) = (exponent.sign, exponent.digits) ∧
    AllDigits exponent.digits ∧ exponent.digits ≠ []

theorem scanSign_scanned {digits : List Char} (each : AllDigits digits) (nonempty : digits ≠ []) :
    scanSign ((scanSign input).1.toList ++ digits) = ((scanSign input).1, digits) := by
  rcases sign_cases input with sign | sign | sign
  · rw [sign, Option.toList_none, List.nil_append, each.scanSign nonempty]
  · rw [sign]
    rfl
  · rw [sign]
    rfl

theorem wellFormed_of_scan (scanned : scan input = some (numeral, rest)) : numeral.WellFormed := by
  simp only [scan] at scanned
  split at scanned
  · contradiction
  next found =>
    obtain ⟨rfl, rfl⟩ := Prod.mk.inj (Option.some.inj scanned)
    constructor
    case whole => exact allDigits_takeWhile input
    case fraction => exact allDigits_scanFraction _
    case digits => exact Bool.not_eq_true _ ▸ found
    case exponent =>
      intro exponent member
      have found := Option.mem_def.mp member
      dsimp only at found
      cases scale : (scanFraction (input.dropWhile Char.isDigit)).2 with
      | nil => rw [scale] at found; cases found
      | cons marker rest =>
          rw [scale] at found
          simp only [scanExponent] at found
          split at found
          next marks =>
            have each := allDigits_takeWhile (scanSign rest).2
            split at found
            · cases found
            next nonempty =>
              obtain rfl := Option.some.inj found
              have marked : marksPower marker = true := by simpa [marksPower] using marks
              exact ⟨marked, scanSign_scanned each nonempty, each, nonempty⟩
          next => cases found

theorem digit_unmarked {digit : Char} (isDigit : digit.isDigit = true) :
    marksPower digit = false ∧ (digit != '.') = true := by
  constructor
  · have lower : digit ≠ 'e' := by rintro rfl; cases isDigit
    have upper : digit ≠ 'E' := by rintro rfl; cases isDigit
    simp [marksPower, lower, upper]
  · have point : digit ≠ '.' := by rintro rfl; cases isDigit
    simp [point]

/-- Scanned by itself or as a whole, the text of a numeral has the same parts. -/
theorem WellFormed.parse?_text (wellFormed : numeral.WellFormed) : parse? numeral.text = some numeral := by
  obtain ⟨whole, fraction, exponent⟩ := numeral
  obtain ⟨wholeDigits, fractionDigits, digits, power⟩ := wellFormed
  dsimp only at wholeDigits fractionDigits digits power
  have unmarked : ∀ character ∈ whole ++ fractionText fraction, (!marksPower character) = true := by
    intro character member
    rcases List.mem_append.mp member with member | member
    · simp [(digit_unmarked (wholeDigits character member)).1]
    · cases fraction with
      | none => cases member
      | some behind =>
          rcases List.mem_cons.mp member with rfl | member
          · rfl
          · simp [(digit_unmarked (fractionDigits character member)).1]
  have marked : (exponentText exponent).head?.any (fun character => !marksPower character) = false := by
    cases exponent with
    | none => rfl
    | some exponent => simp [exponentText, Exponent.text, (power exponent rfl).1]
  have pointless : ∀ character ∈ whole, (character != '.') = true :=
    fun character member => (digit_unmarked (wholeDigits character member)).2
  have point : (fractionText fraction).head?.any (· != '.') = false := by
    cases fraction <;> rfl
  have behind : parseFraction? (fractionText fraction) = some fraction := by
    cases fraction with
    | none => rfl
    | some behind => exact if_pos (List.all_eq_true.mpr fractionDigits)
  have scale : parseExponent? (exponentText exponent) = some exponent := by
    cases exponent with
    | none => rfl
    | some exponent =>
        obtain ⟨-, sign, each, nonempty⟩ := power exponent rfl
        simp only [exponentText, Exponent.text, parseExponent?, sign, List.all_eq_true.mpr each]
        simp [nonempty]
  obtain ⟨mantissaFront, scaleBehind⟩ := takeWhile_stop unmarked marked
  obtain ⟨wholeFront, fractionBehind⟩ := takeWhile_stop pointless point
  simp only [parse?, text, mantissaFront, scaleBehind, wholeFront, fractionBehind, behind, scale,
    List.all_eq_true.mpr wholeDigits, bind, Option.bind_some, digits]
  rfl

theorem parse?_of_scan (scanned : scan input = some (numeral, rest)) : parse? numeral.text = some numeral :=
  (wellFormed_of_scan scanned).parse?_text

theorem IsWritten.parse? {text : List Char} (isWritten : IsWritten text) :
    ∃ numeral, Numeral.parse? text = some numeral := by
  obtain ⟨numeral, scanned⟩ := isWritten.scan_whole
  have parsed := parse?_of_scan scanned
  have whole := text_append_of_scan scanned
  rw [List.append_nil] at whole
  exact ⟨numeral, whole ▸ parsed⟩

theorem WellFormed.allDigits_text_iff (wellFormed : numeral.WellFormed) :
    AllDigits numeral.text ↔ numeral.fraction = none ∧ numeral.exponent = none := by
  obtain ⟨whole, fraction, exponent⟩ := numeral
  simp only [AllDigits, text, List.forall_mem_append]
  constructor
  · rintro ⟨⟨-, behind⟩, power⟩
    constructor
    · cases fraction with
      | none => rfl
      | some fraction => cases behind '.' List.mem_cons_self
    · cases exponent with
      | none => rfl
      | some exponent =>
          have digit := power exponent.marker List.mem_cons_self
          have marked := (wellFormed.exponent exponent rfl).1
          rw [(digit_unmarked digit).1] at marked
          cases marked
  · rintro ⟨rfl, rfl⟩
    exact ⟨⟨wellFormed.whole, allDigits_nil⟩, allDigits_nil⟩

theorem WellFormed.toInt64?_eq (wellFormed : numeral.WellFormed) :
    (AllDigits numeral.text → numeral.toInt64? =
      if (digitsValue numeral.text : Int) ≤ Int64.maxValue.toInt then
        some (Int64.ofNat (digitsValue numeral.text)) else none) ∧
    (¬ AllDigits numeral.text → numeral.toInt64? = none) := by
  rw [wellFormed.allDigits_text_iff]
  obtain ⟨whole, fraction, exponent⟩ := numeral
  constructor
  · rintro ⟨rfl, rfl⟩
    have text : Numeral.text ⟨whole, none, none⟩ = whole := by
      simp [Numeral.text, fractionText, exponentText]
    rw [text]
    rfl
  · intro other
    cases fraction with
    | some => rfl
    | none =>
        cases exponent with
        | some => rfl
        | none => exact absurd ⟨rfl, rfl⟩ other

theorem fractionText_of_parse {tail : List Char} {fraction : Option (List Char)}
    (point : tail.head?.any (· != '.') = false) (parsed : parseFraction? tail = some fraction) :
    fractionText fraction = tail ∧ AllDigits (fraction.getD []) := by
  cases tail with
  | nil =>
      cases parsed
      exact ⟨rfl, allDigits_nil⟩
  | cons first behind =>
      obtain rfl : first = '.' := by simpa using point
      simp only [parseFraction?] at parsed
      split at parsed
      next each =>
        cases parsed
        exact ⟨rfl, List.all_eq_true.mp each⟩
      next => cases parsed

theorem isScale_of_parse {tail : List Char} {exponent : Option Exponent}
    (marked : tail.head?.any (fun character => !marksPower character) = false)
    (parsed : parseExponent? tail = some exponent) : exponentText exponent = tail ∧ IsScale tail := by
  cases tail with
  | nil =>
      cases parsed
      exact ⟨rfl, .none⟩
  | cons marker behind =>
      have marks : marker = 'e' ∨ marker = 'E' :=
        Decidable.or_iff_not_imp_left.mpr (by simpa [marksPower] using marked)
      have whole := scanSign_append behind
      simp only [parseExponent?] at parsed
      split at parsed
      next found =>
        cases parsed
        simp only [Bool.and_eq_true, Bool.not_eq_true', List.isEmpty_eq_false_iff] at found
        refine ⟨congrArg (marker :: ·) whole, ?_⟩
        rw [← whole]
        exact .power marks (sign_toList_cases behind) (List.all_eq_true.mp found.2) found.1
      next => cases parsed

theorem isWritten_of_parse {text : List Char} (parsed : parse? text = some numeral) :
    numeral.text = text ∧ IsWritten text := by
  simp only [parse?, bind, Option.bind_eq_some_iff] at parsed
  obtain ⟨fraction, behind, exponent, scale, found⟩ := parsed
  split at found
  next digits =>
    cases found
    simp only [Bool.and_eq_true, Bool.not_eq_true'] at digits
    obtain ⟨fractionBehind, fractionDigits⟩ := fractionText_of_parse (dropWhile_stops _ _) behind
    obtain ⟨scaleBehind, isScale⟩ := isScale_of_parse (dropWhile_stops _ _) scale
    have isMantissa := isMantissa_of_parts (List.all_eq_true.mp digits.1) fractionDigits digits.2
    have isWritten := IsWritten.scaled isMantissa isScale
    rw [fractionBehind, List.takeWhile_append_dropWhile, List.takeWhile_append_dropWhile] at isWritten
    refine ⟨?_, isWritten⟩
    rw [Numeral.text, fractionBehind, scaleBehind, List.takeWhile_append_dropWhile,
      List.takeWhile_append_dropWhile]
  next => cases found

end PredicateRules.Numeral
