import PredicateRules.Proofs.Reading.Lexis

namespace PredicateRules.Numeral

section

variable {back : List Char} (stops : ∀ character ∈ back.head?, character = ' ' ∨ character = ')')

include stops

theorem noDigit_of_stop : back.head?.any Char.isDigit = false := by
  cases back with
  | nil => rfl
  | cons character back => rcases stops character rfl with rfl | rfl <;> rfl

theorem scanFraction_append_stop (text : List Char) :
    scanFraction (text ++ back) = ((scanFraction text).1, (scanFraction text).2 ++ back) := by
  cases text with
  | nil =>
      cases back with
      | nil => rfl
      | cons character back => rcases stops character rfl with rfl | rfl <;> rfl
  | cons character text =>
      by_cases point : character = '.'
      · subst point
        obtain ⟨digits, rest⟩ := takeWhile_append_of_stops (noDigit_of_stop stops) text
        simp only [List.cons_append, scanFraction, digits, rest]
      · simp [scanFraction, point]

theorem scanSign_append_stop (text : List Char) :
    scanSign (text ++ back) = ((scanSign text).1, (scanSign text).2 ++ back) := by
  cases text with
  | nil =>
      cases back with
      | nil => rfl
      | cons character back => rcases stops character rfl with rfl | rfl <;> rfl
  | cons character text =>
      by_cases plus : character = '+'
      · subst plus
        rfl
      · by_cases minus : character = '-'
        · subst minus
          rfl
        · simp [scanSign, plus, minus]

theorem scanExponent_append_stop (text : List Char) :
    scanExponent (text ++ back) = ((scanExponent text).1, (scanExponent text).2 ++ back) := by
  cases text with
  | nil =>
      cases back with
      | nil => rfl
      | cons character back => rcases stops character rfl with rfl | rfl <;> rfl
  | cons marker text =>
      by_cases marks : marker = 'e' ∨ marker = 'E'
      · obtain ⟨digits, rest⟩ := takeWhile_append_of_stops (noDigit_of_stop stops) (scanSign text).2
        simp only [List.cons_append, scanExponent, marks, if_true, scanSign_append_stop stops,
          digits, rest]
        split <;> rfl
      · simp only [List.cons_append, scanExponent, marks, if_false]

/-- What is behind a space or a parenthesis does not change the numeral before it. -/
theorem scan_append_stop (text : List Char) :
    scan (text ++ back) = (scan text).map fun scanned => (scanned.1, scanned.2 ++ back) := by
  obtain ⟨digits, rest⟩ := takeWhile_append_of_stops (noDigit_of_stop stops) text
  simp only [scan, digits, rest, scanFraction_append_stop stops, scanExponent_append_stop stops]
  split <;> rfl

end

theorem idle_takeWhile_isDigit {text : List Char} :
    ∀ character ∈ text.takeWhile Char.isDigit, (Mark.of character).idle = true := by
  intro character member
  have digit := List.all_eq_true.mp List.all_takeWhile character member
  exact Mark.idle_of_class (by decide) digit

theorem idle_fractionText (text : List Char) :
    ∀ character ∈ fractionText (scanFraction text).1, (Mark.of character).idle = true := by
  unfold scanFraction
  split
  · intro character member
    rcases List.mem_cons.mp member with rfl | member
    · decide
    · exact idle_takeWhile_isDigit character member
  · intro character member
    cases member

theorem idle_scanSign (text : List Char) :
    ∀ character ∈ (scanSign text).1, (Mark.of character).idle = true := by
  unfold scanSign
  split <;> intro character found
  · obtain rfl := Option.some.inj found
    decide
  · obtain rfl := Option.some.inj found
    decide
  · cases found

theorem idle_exponentText (text : List Char) :
    ∀ character ∈ exponentText (scanExponent text).1, (Mark.of character).idle = true := by
  intro character member
  cases text with
  | nil => cases member
  | cons marker text =>
      simp only [scanExponent] at member
      split at member
      next marks =>
        split at member
        · cases member
        · simp only [exponentText, Exponent.text, List.mem_cons, List.mem_append,
            Option.mem_toList] at member
          rcases member with rfl | sign | digit
          · rcases marks with rfl | rfl <;> decide
          · exact idle_scanSign text character sign
          · exact idle_takeWhile_isDigit character digit
      next => cases member

theorem idle_text {text rest : List Char} {numeral : Numeral}
    (scanned : scan text = some (numeral, rest)) :
    ∀ character ∈ numeral.text, (Mark.of character).idle = true := by
  simp only [scan] at scanned
  split at scanned
  · contradiction
  · obtain ⟨rfl, rfl⟩ := Prod.mk.inj (Option.some.inj scanned)
    intro character member
    simp only [Numeral.text, List.mem_append] at member
    rcases member with (whole | fraction) | exponent
    · exact idle_takeWhile_isDigit character whole
    · exact idle_fractionText _ character fraction
    · exact idle_exponentText _ character exponent

theorem text_ne_nil {text rest : List Char} {numeral : Numeral}
    (scanned : scan text = some (numeral, rest)) : numeral.text ≠ [] := by
  simp only [scan] at scanned
  split at scanned
  · contradiction
  next digits =>
    obtain ⟨rfl, rfl⟩ := Prod.mk.inj (Option.some.inj scanned)
    intro empty
    simp only [Numeral.text, List.append_eq_nil_iff] at empty
    obtain ⟨⟨whole, fraction⟩, _⟩ := empty
    cases point : (scanFraction (text.dropWhile Char.isDigit)).1 with
    | none => simp [whole, point] at digits
    | some behind => simp [point, fractionText] at fraction

end PredicateRules.Numeral
