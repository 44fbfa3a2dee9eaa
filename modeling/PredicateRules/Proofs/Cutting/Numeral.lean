import PredicateRules.Proofs.Reading.Lexis

namespace PredicateRules

theorem takeWhile_within {set : Char → Bool} {text back : List Char}
    (within : ((text ++ back).takeWhile set).length ≤ text.length) :
    (text ++ back).takeWhile set = text.takeWhile set ∧
      (text ++ back).dropWhile set = text.dropWhile set ++ back := by
  induction text with
  | nil =>
      cases back with
      | nil => exact ⟨rfl, rfl⟩
      | cons character back =>
          cases inside : set character with
          | false => simp [inside]
          | true => simp [inside] at within
  | cons character text ih =>
      cases inside : set character with
      | false => simp [inside]
      | true =>
          have tail := ih (by simpa [inside] using within)
          simp [inside, tail.1, tail.2]

namespace Numeral

variable {text back rest : List Char} {numeral : Numeral}

theorem scanFraction_within
    (within : (fractionText (scanFraction (text ++ back)).1).length ≤ text.length) :
    scanFraction (text ++ back) = ((scanFraction text).1, (scanFraction text).2 ++ back) := by
  cases text with
  | nil =>
      cases back with
      | nil => rfl
      | cons character back =>
          by_cases point : character = '.'
          · subst point
            simp [scanFraction, fractionText] at within
          · simp [scanFraction, point]
  | cons character text =>
      by_cases point : character = '.'
      · subst point
        simp only [List.cons_append, scanFraction, fractionText, List.length_cons] at within ⊢
        obtain ⟨digits, rest⟩ := takeWhile_within (Nat.le_of_succ_le_succ within)
        rw [digits, rest]
      · simp [scanFraction, point]

theorem scanSign_append_cons (character : Char) (text back : List Char) :
    scanSign (character :: text ++ back) =
      ((scanSign (character :: text)).1, (scanSign (character :: text)).2 ++ back) := by
  by_cases plus : character = '+'
  · subst plus
    rfl
  · by_cases minus : character = '-'
    · subst minus
      rfl
    · simp [scanSign, plus, minus]

theorem scanExponent_none (none : (scanExponent text).1 = none) : (scanExponent text).2 = text := by
  have whole := scanExponent_append text
  rwa [none] at whole

theorem scanExponent_within
    (within : (exponentText (scanExponent (text ++ back)).1).length ≤ text.length) :
    scanExponent (text ++ back) = ((scanExponent text).1, (scanExponent text).2 ++ back) := by
  cases text with
  | nil =>
      have none : (scanExponent back).1 = none := by
        cases found : (scanExponent back).1 with
        | none => rfl
        | some exponent => simp [found, exponentText, Exponent.text] at within
      rw [List.nil_append]
      exact Prod.ext none (scanExponent_none none)
  | cons marker text =>
      by_cases marks : marker = 'e' ∨ marker = 'E'
      · simp only [List.cons_append, scanExponent, marks, if_true] at within ⊢
        cases text with
        | nil =>
            rw [List.nil_append] at within ⊢
            -- Digits behind a marker that ends the text would make the exponent longer than the text.
            cases digits : (scanSign back).2.takeWhile Char.isDigit with
            | nil => rfl
            | cons digit more =>
                rw [digits] at within
                simp [exponentText, Exponent.text] at within
        | cons character text =>
            have sign := scanSign_append_cons character text back
            have whole := congrArg List.length (scanSign_append (character :: text))
            rw [List.length_append] at whole
            rw [sign] at within ⊢
            dsimp only at within ⊢
            have digitsWithin : (((scanSign (character :: text)).2 ++ back).takeWhile Char.isDigit).length ≤
                (scanSign (character :: text)).2.length := by
              cases digits : ((scanSign (character :: text)).2 ++ back).takeWhile Char.isDigit with
              | nil => exact Nat.zero_le _
              | cons digit more =>
                  rw [digits] at within
                  simp only [exponentText, Exponent.text, List.length_cons, List.length_append] at within whole ⊢
                  omega
            obtain ⟨digits, rest⟩ := takeWhile_within digitsWithin
            rw [digits, rest]
            split <;> rfl
      · simp only [List.cons_append, scanExponent, marks, if_false]

theorem scan_within (scanned : scan (text ++ back) = some (numeral, rest))
    (within : numeral.text.length ≤ text.length) :
    ∃ behind, scan text = some (numeral, behind) ∧ rest = behind ++ back := by
  simp only [scan] at scanned ⊢
  split at scanned
  · contradiction
  next digits =>
    obtain ⟨rfl, rfl⟩ := Prod.mk.inj (Option.some.inj scanned)
    simp only [Numeral.text, List.length_append] at within
    obtain ⟨whole, behind⟩ := takeWhile_within (by omega :
      ((text ++ back).takeWhile Char.isDigit).length ≤ text.length)
    have lengths := congrArg List.length (List.takeWhile_append_dropWhile (p := Char.isDigit) (l := text))
    rw [List.length_append] at lengths
    rw [whole, behind] at within digits
    have fraction := scanFraction_within (by omega :
      (fractionText (scanFraction (text.dropWhile Char.isDigit ++ back)).1).length ≤
        (text.dropWhile Char.isDigit).length)
    rw [fraction] at within digits
    have fractionLengths := congrArg List.length (scanFraction_append (text.dropWhile Char.isDigit))
    rw [List.length_append] at fractionLengths
    have exponent := scanExponent_within (by dsimp only at within; omega :
      (exponentText (scanExponent ((scanFraction (text.dropWhile Char.isDigit)).2 ++ back)).1).length ≤
        (scanFraction (text.dropWhile Char.isDigit)).2.length)
    rw [if_neg digits, whole, behind, fraction, exponent]
    exact ⟨_, rfl, rfl⟩

theorem scan_none (missing : scan (text ++ back) = none) : scan text = none := by
  simp only [scan] at missing ⊢
  split at missing
  next digits =>
    simp only [Bool.and_eq_true, List.isEmpty_iff] at digits
    obtain ⟨whole, fraction⟩ := digits
    obtain ⟨same, behind⟩ := takeWhile_within (by rw [whole]; exact Nat.zero_le _ :
      ((text ++ back).takeWhile Char.isDigit).length ≤ text.length)
    rw [behind] at fraction
    rw [whole] at same
    refine if_pos ?_
    simp only [Bool.and_eq_true, List.isEmpty_iff]
    refine ⟨same.symm, ?_⟩
    cases tail : text.dropWhile Char.isDigit with
    | nil => rfl
    | cons character tail =>
        rw [tail] at fraction
        by_cases point : character = '.'
        · subst point
          simp only [List.cons_append, scanFraction, Option.getD_some] at fraction ⊢
          exact (takeWhile_within (by rw [fraction]; exact Nat.zero_le _)).1.symm.trans fraction
        · simp [scanFraction, point]
  next => cases missing

end Numeral

end PredicateRules
