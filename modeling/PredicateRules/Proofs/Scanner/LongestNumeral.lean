import PredicateRules.Proofs.Reading.Token
import PredicateRules.Proofs.Scanner.Numeral

namespace PredicateRules

namespace Numeral

variable {input rest : List Char} {numeral : Numeral}

/-- What a numeral is read as: an integer just if it is all digits and within 64 bits, namely their
value, and else a float. -/
structure ReadAs (literal : List Char) (value : Value) : Prop where
  integer_iff : (∃ number, value = .int number) ↔
    AllDigits literal ∧ (digitsValue literal : Int) ≤ Int64.maxValue.toInt
  exact : ∀ number, value = .int number → number.toInt = digitsValue literal
  otherwise : (∃ number, value = .int number) ∨
    ∃ numeral, parse? literal = some numeral ∧ numeral.text = literal ∧ value = .float numeral.toFloat

theorem readAs_float (scanned : scan input = some (numeral, rest)) (outside : ¬ (AllDigits numeral.text ∧
    (digitsValue numeral.text : Int) ≤ Int64.maxValue.toInt)) :
    ReadAs numeral.text (.float numeral.toFloat) where
  integer_iff := ⟨nofun, fun inside => absurd inside outside⟩
  exact := nofun
  otherwise := .inr ⟨numeral, parse?_of_scan scanned, rfl, rfl⟩

theorem readAs_value (scanned : scan input = some (numeral, rest)) : ReadAs numeral.text numeral.value := by
  obtain ⟨digits, others⟩ := (wellFormed_of_scan scanned).toInt64?_eq
  unfold value
  by_cases each : AllDigits numeral.text
  · rw [digits each]
    by_cases within : (digitsValue numeral.text : Int) ≤ Int64.maxValue.toInt
    · have bound : Int64.maxValue.toInt = 9223372036854775807 := by decide
      have kept : (Int64.ofNat (digitsValue numeral.text)).toInt = digitsValue numeral.text :=
        Int64.toInt_ofNat_of_lt (by omega)
      simp only [if_pos within]
      constructor
      case integer_iff => exact ⟨fun _ => ⟨each, within⟩, fun _ => ⟨_, rfl⟩⟩
      case exact =>
        intro number same
        cases same
        exact kept
      case otherwise => exact .inl ⟨_, rfl⟩
    · simp only [if_neg within]
      exact readAs_float scanned fun inside => within inside.2
  · rw [others each]
    exact readAs_float scanned fun inside => each inside.1

end Numeral

namespace Parse

open Numeral

/-- A number is read wherever a numeral comes next behind what is skipped, and then the longest one is
taken and no more; where there is none, only what is skipped is passed over. -/
theorem number_is_longest (parser : Parser) :
    let gap := parser.scanner.remaining.takeWhile parser.scanner.isSkipped
    let ahead := parser.scanner.remaining.dropWhile parser.scanner.isSkipped
    ∃ found scanner, numericLiteral? parser = .ok found (parser.moved scanner) ∧
      match found with
      | some value => ∃ literal, IsLongest ahead literal ∧ ReadAs literal value ∧
          parser.scanner.Moves scanner (gap ++ literal)
      | none => (∀ front, front <+: ahead → ¬ IsWritten front) ∧ parser.scanner.Moves scanner gap := by
  intro gap ahead
  have skipped := parser.scanner.skipIgnored_crosses
  have same : ahead = parser.scanner.skipIgnored.remaining := parser.scanner.skipIgnored_remaining.symm
  rw [same, numericLiteral?_eq]
  cases scanned : Numeral.scan parser.scanner.skipIgnored.remaining with
  | none =>
      refine ⟨none, parser.scanner.skipIgnored, ?_, scan_eq_none_iff.mp scanned, skipped⟩
      simp only [bind, EStateM.bind, scan, Scanner.scanNumeral_none scanned]
      rfl
  | some found =>
      obtain ⟨numeral, behind⟩ := found
      obtain ⟨stop, found, moves⟩ := Scanner.scanNumeral_some scanned
      refine ⟨some numeral.value, stop, ?_, numeral.text, isLongest_of_scan scanned, readAs_value scanned,
        skipped.trans moves⟩
      simp only [bind, EStateM.bind, scan, found]
      rfl

end Parse

end PredicateRules
