import Mathlib.Data.List.DropRight
import PredicateRules.Proofs.Number.Shortest
import PredicateRules.Proofs.Printing.Constant

namespace PredicateRules

def Float64.isFinite (number : Float) : Bool :=
  match Binary64.ofFloat number with
  | .finite .. => true
  | _ => false

def Float64.isNegativeZero (number : Float) : Bool :=
  match Binary64.ofFloat number with
  | .finite negative significand _ => negative && significand == 0
  | _ => false

namespace Numeral

theorem digitsValue_append (digits zeros : List Char) :
    digitsValue (digits ++ zeros) = digitsValue digits * 10 ^ zeros.length + digitsValue zeros := by
  have general : ∀ (zeros : List Char) (value : Nat),
      zeros.foldl (fun value digit => value * 10 + digitValue digit) value =
        value * 10 ^ zeros.length + digitsValue zeros := by
    intro zeros
    induction zeros with
    | nil => simp [digitsValue]
    | cons digit zeros ih =>
        intro value
        rw [digitsValue, List.foldl_cons, List.foldl_cons, ih, ih, List.length_cons, Nat.pow_succ]
        ring
  rw [digitsValue, List.foldl_append]
  exact general zeros _

theorem digitsValue_zeros (count : Nat) : digitsValue (List.replicate count '0') = 0 := by
  induction count with
  | zero => rfl
  | succ count ih =>
      rw [List.replicate_succ, ← List.singleton_append, digitsValue_append, ih]
      simp [digitsValue, digitValue]

def amount (numeral : Numeral) : ℚ :=
  digitsValue (numeral.whole ++ numeral.fraction.getD []) * 10 ^ (-((numeral.fraction.getD []).length : Int))

/-- Digits, and perhaps a point and more digits. -/
structure IsPlain (numeral : Numeral) : Prop where
  some : numeral.whole ≠ []
  whole : ∀ digit ∈ numeral.whole, digit.isDigit = true
  fraction : ∀ digit ∈ numeral.fraction.getD [], digit.isDigit = true
  exponent : numeral.exponent = none

end Numeral

namespace Parse

variable {behind : List Char}

theorem scan_plain {numeral : Numeral} (plain : numeral.IsPlain) (detached : Detached behind) :
    Numeral.scan (numeral.text ++ behind) = some (numeral, behind) := by
  obtain ⟨whole, fraction, exponent⟩ := numeral
  obtain ⟨some, allWhole, allFraction, none⟩ := plain
  dsimp only at some allWhole allFraction none
  subst none
  cases fraction with
  | none =>
      rw [Numeral.text, Numeral.fractionText, Numeral.exponentText, List.append_nil, List.append_nil]
      exact scan_digits some allWhole detached
  | some fraction =>
      have point : ∀ fraction, ('.' :: (fraction ++ behind)).head?.any Char.isDigit = false := fun _ => rfl
      obtain ⟨taken, left⟩ := takeWhile_stop allWhole (point fraction)
      have allFraction : ∀ digit ∈ fraction, digit.isDigit = true := allFraction
      obtain ⟨takenFraction, leftFraction⟩ := takeWhile_stop allFraction detached.noDigit
      have text : (⟨whole, Option.some fraction, Option.none⟩ : Numeral).text ++ behind =
          whole ++ '.' :: (fraction ++ behind) := by
        simp [Numeral.text, Numeral.fractionText, Numeral.exponentText]
      simp only [text, Numeral.scan, taken, left, Numeral.scanFraction, takenFraction, leftFraction,
        scanExponent_detached detached]
      simp [some]

end Parse

namespace Decimal

open Numeral

theorem dropTrailingZeros_append (digits : List Char) :
    ∃ count, digits = dropTrailingZeros digits ++ List.replicate count '0' := by
  have zeros : digits.rtakeWhile (· == '0') =
      List.replicate (digits.rtakeWhile (· == '0')).length '0' :=
    List.eq_replicate_iff.mpr ⟨rfl, fun digit member => by simpa using List.mem_rtakeWhile_imp member⟩
  have whole : digits.rdropWhile (· == '0') ++ digits.rtakeWhile (· == '0') = digits :=
    List.rdropWhile_append_rtakeWhile
  rw [zeros] at whole
  exact ⟨_, whole.symm⟩

theorem isDigit_toDigits (number : Nat) : ∀ digit ∈ Nat.toDigits 10 number, digit.isDigit = true :=
  fun _ => Nat.isDigit_of_mem_toDigits (by decide) (by decide)

theorem isDigit_zeros (count : Nat) : ∀ digit ∈ List.replicate count '0', digit.isDigit = true := by
  intro digit member
  rw [List.eq_of_mem_replicate member]
  rfl

theorem exists_sides {digits : List Char} {places : Nat} (long : places < digits.length) :
    ∃ whole fraction count, digits.take (digits.length - places) = whole ∧
      dropTrailingZeros (digits.drop (digits.length - places)) = fraction ∧ whole ≠ [] ∧
      digits = whole ++ fraction ++ List.replicate count '0' ∧ fraction.length + count = places := by
  obtain ⟨count, split⟩ := dropTrailingZeros_append (digits.drop (digits.length - places))
  refine ⟨_, _, count, rfl, rfl, ?_, ?_, ?_⟩
  · intro none
    have length := congrArg List.length none
    rw [List.length_take, List.length_nil] at length
    omega
  · rw [List.append_assoc, ← split, List.take_append_drop]
  · have length := congrArg List.length split
    simp only [List.length_drop, List.length_append, List.length_replicate] at length
    omega

theorem digitsValue_sides {whole fraction : List Char} {count places : Nat}
    (length : fraction.length + count = places) :
    (digitsValue (whole ++ fraction) : ℚ) * 10 ^ (-fraction.length : Int) =
      digitsValue (whole ++ fraction ++ List.replicate count '0') * 10 ^ (-places : Int) := by
  rw [digitsValue_append (whole ++ fraction), digitsValue_zeros, List.length_replicate, Nat.add_zero, ← length]
  push_cast
  rw [mul_assoc, ← zpow_natCast, ← zpow_add₀ (by norm_num)]
  congr 2
  omega

theorem exists_numeral_fraction (coefficient places : Nat) (positive : 0 < places) :
    ∃ numeral : Numeral, numeral.IsPlain ∧ numeral.text = text ⟨coefficient, -places⟩ ∧
      numeral.amount = coefficient * 10 ^ (-places : Int) := by
  generalize padding : List.replicate (places + 1 - (Nat.toDigits 10 coefficient).length) '0' ++
    Nat.toDigits 10 coefficient = padded
  have allPadded : ∀ digit ∈ padded, digit.isDigit = true := by
    rw [← padding]
    intro digit member
    exact (List.mem_append.mp member).elim (isDigit_zeros _ digit) (isDigit_toDigits _ digit)
  have value : digitsValue padded = coefficient := by
    rw [← padding, digitsValue_append, digitsValue_zeros, Nat.zero_mul, Nat.zero_add,
      Parse.digitsValue_toDigits]
  have long : places < padded.length := by
    rw [← padding, List.length_append, List.length_replicate]
    omega
  obtain ⟨whole, fraction, count, front, last, some, parts, length⟩ := exists_sides long
  have written : text ⟨coefficient, -places⟩ =
      whole ++ fractionText (if fraction = [] then none else Option.some fraction) := by
    have count : (- -(places : Int)).toNat = places := by omega
    unfold text
    dsimp only
    rw [if_neg (by omega), count, padding, last, front]
    cases fraction with
    | nil => exact (List.append_nil _).symm
    | cons digit fraction => rfl
  have sameFraction : (if fraction = [] then none else Option.some fraction).getD [] = fraction := by
    split
    next none => exact none.symm
    next => rfl
  refine ⟨⟨whole, if fraction = [] then none else Option.some fraction, none⟩, ⟨some, ?_, ?_, rfl⟩, ?_, ?_⟩
  · exact fun digit member => allPadded digit (by simp [parts, member])
  · exact fun digit member => allPadded digit (by rw [sameFraction] at member; simp [parts, member])
  · rw [written, Numeral.text, exponentText, List.append_nil]
  · simp only [amount, sameFraction]
    rw [← value, parts, ← digitsValue_sides length]

/-- The text of a decimal is that of a plain numeral for the same number. -/
theorem exists_numeral (number : Decimal) : ∃ numeral : Numeral, numeral.IsPlain ∧
    numeral.text = number.text ∧ numeral.amount = number.coefficient * 10 ^ number.exponent := by
  obtain ⟨coefficient, exponent⟩ := number
  by_cases whole : 0 ≤ exponent
  · refine ⟨⟨Nat.toDigits 10 coefficient ++ List.replicate exponent.toNat '0', none, none⟩, ⟨?_, ?_, ?_, rfl⟩,
      ?_, ?_⟩
    · simp [Nat.toDigits_ne_nil]
    · intro digit member
      exact (List.mem_append.mp member).elim (isDigit_toDigits _ digit) (isDigit_zeros _ digit)
    · simp
    · simp [Numeral.text, fractionText, exponentText, text, whole]
    · simp only [amount, Option.getD_none, List.append_nil, digitsValue_append, digitsValue_zeros,
        List.length_replicate, Parse.digitsValue_toDigits]
      push_cast
      rw [List.length_nil, Nat.cast_zero, neg_zero, zpow_zero, mul_one, add_zero, ← zpow_natCast,
        Int.toNat_of_nonneg whole]
  · obtain ⟨places, rfl⟩ : ∃ places : Nat, exponent = -places := ⟨(-exponent).toNat, by omega⟩
    exact exists_numeral_fraction coefficient places (by omega)

end Decimal

/-- A value is a positive number: an integer or a double. -/
inductive IsNumber : Value → Float → Prop where
  | int {whole : Nat} (some : 0 < whole) (within : (whole : Int) ≤ Int64.maxValue.toInt) :
      IsNumber (.int (Int64.ofNat whole)) (Float.ofNat whole)
  | float (number : Float) : IsNumber (.float number) number

section

open Binary64

variable {significand : Nat} {exponent : Int} (canonical : Canonical significand exponent)

theorem IsNumber.beq {value : Value} (isNumber : IsNumber value (toFloat canonical false)) :
    (value == .float (toFloat canonical false)) = true := by
  generalize same : toFloat canonical false = number at isNumber
  cases isNumber with
  | float => exact same ▸ beq_toFloat canonical false
  | @int whole some within =>
      show (Float.ofInt (Int64.ofNat whole).toInt == Float.ofNat whole) = true
      rw [Int64.toInt_ofNat_of_le within]
      show (Float.ofNat whole == Float.ofNat whole) = true
      rw [← same]
      exact beq_toFloat canonical false

theorem IsNumber.negated {value : Value} (isNumber : IsNumber value (toFloat canonical false)) :
    ∃ again : Value, Parse.negated (.constant value) = .constant again ∧
      (again == .float (toFloat canonical true)) = true := by
  have sign : -toFloat canonical false = toFloat canonical true := neg_toFloat canonical false
  rw [← sign]
  have equal := beq_toFloat canonical true
  rw [← sign] at equal
  generalize toFloat canonical false = number at isNumber equal
  cases isNumber with
  | float => exact ⟨.float (-number), rfl, equal⟩
  | @int whole some within =>
      have value : (-Int64.ofNat whole).toInt = -(whole : Int) := by
        have most := Int64.toInt_lt Int64.maxValue
        exact Int64.toInt_neg_ofNat_of_le (by omega)
      refine ⟨.int (-Int64.ofNat whole), by rw [Parse.negated, if_neg (Int64.ofNat_ne_minValue within)], ?_⟩
      show (Float.ofInt (-Int64.ofNat whole).toInt == -Float.ofNat whole) = true
      rw [value]
      obtain ⟨less, rfl⟩ : ∃ less, whole = less + 1 := ⟨whole - 1, by omega⟩
      exact equal

end

namespace Parse

open Binary64

variable {caseSensitive : Bool} {behind : List Char} {significand : Nat} {exponent : Int}
  (canonical : Canonical significand exponent)

theorem front_plain {numeral : Numeral} (plain : numeral.IsPlain) (behind : List Char) :
    (numeral.text ++ behind).dropWhile CharClass.skipped = numeral.text ++ behind := by
  obtain ⟨whole, fraction, exponent⟩ := numeral
  obtain ⟨first, tail, rfl⟩ := List.exists_cons_of_ne_nil plain.some
  have solid := CharClass.solid (by decide) (plain.whole first (by simp))
  exact List.dropWhile_cons_of_neg (by simp [solid])

theorem isNumber_value {numeral : Numeral} (plain : numeral.IsPlain)
    (rounds : Rounds significand exponent numeral.amount) : IsNumber numeral.value (toFloat canonical false) := by
  unfold Numeral.value
  have read : numeral.toFloat = toFloat canonical false := by
    simp only [Numeral.toFloat, plain.exponent, Int.zero_sub]
    exact nearest_eq canonical rounds
  cases whole : numeral.toInt64? with
  | none => exact read ▸ .float _
  | some number =>
      obtain ⟨digits, fraction, power⟩ := numeral
      obtain rfl : power = none := plain.exponent
      cases fraction with
      | some fraction => cases whole
      | none =>
          have rounds : Rounds significand exponent (Numeral.digitsValue digits * 10 ^ (0 : Int)) := by
            simpa [Numeral.amount] using rounds
          unfold Numeral.toInt64? Numeral.wholeNumber? at whole
          dsimp only at whole
          split at whole
          next within =>
            obtain rfl := Option.some.inj whole
            have same : Float.ofNat (Numeral.digitsValue digits) = toFloat canonical false :=
              float_ofScientific_eq canonical rounds
            exact same ▸ .int (coefficient_pos canonical rounds) within
          next => cases whole

theorem denotes_plain {numeral : Numeral} (plain : numeral.IsPlain)
    (rounds : Rounds significand exponent numeral.amount) :
    ∃ value, IsNumber value (toFloat canonical false) ∧
      ∀ caseSensitive, Denotes caseSensitive numeral.text (.constant value) := by
  refine ⟨numeral.value, isNumber_value canonical plain rounds, fun caseSensitive =>
    denotes_simple fun which nested behind parted => ?_⟩
  have scanned := scan_plain plain parted.detached
  rw [← front_plain plain] at scanned
  have literal : Takes caseSensitive (numeral.text ++ behind) numericLiteral? (some numeral.value) behind := by
    rw [numericLiteral?_eq]
    exact (scanNumeral_taken scanned).bind (.pure _)
  exact literal.bind (.pure _)

theorem text_toFloat : Float64.text (toFloat canonical false) = (Decimal.shortest significand exponent).text := by
  have some := canonical.positive.ne'
  simp only [Float64.text, ofFloat_toFloat, if_neg some, Bool.false_eq_true, if_false]

theorem denotes_positive : ∃ value, IsNumber value (toFloat canonical false) ∧
    ∀ caseSensitive, Denotes caseSensitive (Float64.text (toFloat canonical false)) (.constant value) := by
  obtain ⟨numeral, plain, text, amount⟩ := Decimal.exists_numeral (Decimal.shortest significand exponent)
  have rounds := Decimal.shortest_rounds canonical
  rw [← amount] at rounds
  rw [text_toFloat, ← text]
  exact denotes_plain canonical plain rounds

theorem denotes_toFloat (negative : Bool) : ∃ again : Value,
    (again == .float (toFloat canonical negative)) = true ∧ ∀ caseSensitive,
      Denotes caseSensitive (Value.floatText (toFloat canonical negative)).toList (.constant again) := by
  obtain ⟨value, isNumber, denotes⟩ := denotes_positive canonical
  cases negative with
  | false =>
      have unsigned : ¬ toFloat canonical false < 0 := by simp [toFloat_lt_zero]
      refine ⟨value, isNumber.beq canonical, fun caseSensitive => ?_⟩
      rw [Value.floatText, if_neg unsigned, String.toList_ofList]
      exact denotes caseSensitive
  | true =>
      obtain ⟨again, negative, equal⟩ := isNumber.negated canonical
      have signed : toFloat canonical true < 0 := by simp [toFloat_lt_zero]
      refine ⟨again, equal, fun caseSensitive => ?_⟩
      have brackets := denotes_enclosed (nests_negated (denotes caseSensitive).closes.nests)
      rw [negative] at brackets
      rw [Value.floatText, if_pos signed, neg_toFloat]
      simpa using brackets

theorem denotes_zero : Denotes caseSensitive (Value.floatText 0).toList (.constant (.int 0)) := by
  have text : (Value.floatText 0).toList = Nat.toDigits 10 0 := by decide +kernel
  have within : ((0 : Nat) : Int) ≤ Int64.maxValue.toInt := by decide
  rw [text]
  exact denotes_digits within

theorem closes_negative_zero : Closes caseSensitive (Value.floatText (-0)).toList (.constant (.int 0)) := by
  have text : (Value.floatText (-0)).toList = '-' :: Nat.toDigits 10 0 := by decide +kernel
  have within : ((0 : Nat) : Int) ≤ Int64.maxValue.toInt := by decide
  have digits : Denotes caseSensitive _ _ := denotes_digits within
  rw [text]
  exact closes_negated digits.closes.nests

/-- What the text of a finite double is read as is the same number. -/
theorem exists_read_float {number : Float} (finite : Float64.isFinite number = true) :
    ∃ again : Value, (again == .float number) = true ∧ ∀ caseSensitive,
      Closes caseSensitive (Value.floatText number).toList (.constant again) ∧
        (Float64.isNegativeZero number = false →
          Denotes caseSensitive (Value.floatText number).toList (.constant again)) := by
  unfold Float64.isFinite at finite
  unfold Float64.isNegativeZero
  cases parts : ofFloat number with
  | nan => simp [parts] at finite
  | infinite => simp [parts] at finite
  | finite negative significand exponent =>
      by_cases zero : significand = 0
      · subst zero
        obtain rfl := eq_zero parts
        cases negative with
        | false =>
            refine ⟨.int 0, ?_, fun caseSensitive => ⟨denotes_zero.closes, fun _ => denotes_zero⟩⟩
            show (Float.ofInt 0 == 0) = true
            decide +kernel
        | true =>
            refine ⟨.int 0, ?_, fun caseSensitive => ⟨closes_negative_zero, nofun⟩⟩
            show (Float.ofInt 0 == -0) = true
            decide +kernel
      · obtain ⟨canonical, rfl⟩ := eq_toFloat parts zero
        obtain ⟨again, equal, denotes⟩ := denotes_toFloat canonical negative
        exact ⟨again, equal, fun caseSensitive =>
          ⟨(denotes caseSensitive).closes, fun _ => denotes caseSensitive⟩⟩

end Parse

end PredicateRules
