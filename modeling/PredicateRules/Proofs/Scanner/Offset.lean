import PredicateRules.Proofs.Scanner.Numeral
import PredicateRules.Scanner.Bytes

namespace PredicateRules.ByteScanner

open Scanner

variable {text front inside behind : List Char} {offset : Nat}

theorem cut?_append (front behind : List Char) :
    cut? (byteLength front) (front ++ behind) = some (front, behind) := by
  induction front with
  | nil => cases behind <;> rfl
  | cons character front ih =>
      obtain ⟨size, same⟩ := Nat.exists_eq_succ_of_ne_zero (Nat.ne_of_gt character.utf8Size_pos)
      have total : byteLength (character :: front) = size + byteLength front + 1 := by
        rw [byteLength, same]
        omega
      have rest : size + byteLength front + 1 - character.utf8Size = byteLength front := by omega
      rw [total, List.cons_append, cut?, if_pos (by omega), rest, ih]
      rfl

theorem append_of_cut? (cut : cut? offset text = some (front, behind)) :
    front ++ behind = text ∧ byteLength front = offset := by
  fun_induction cut? generalizing front with
  | case1 =>
      cases cut
      exact ⟨rfl, rfl⟩
  | case2 => cases cut
  | case3 offset character text fits ih =>
      obtain ⟨⟨front, behind⟩, cut, same⟩ := Option.map_eq_some_iff.mp cut
      cases same
      obtain ⟨whole, size⟩ := ih cut
      refine ⟨congrArg (character :: ·) whole, ?_⟩
      rw [byteLength]
      omega
  | case4 => cases cut

theorem isSome_cut?_iff :
    (cut? offset text).isSome = true ↔ ∃ front, front <+: text ∧ byteLength front = offset := by
  constructor
  · intro some
    obtain ⟨⟨front, behind⟩, cut⟩ := Option.isSome_iff_exists.mp some
    obtain ⟨whole, size⟩ := append_of_cut? cut
    exact ⟨front, ⟨behind, whole⟩, size⟩
  · rintro ⟨front, ⟨behind, rfl⟩, rfl⟩
    rw [cut?_append]
    rfl

theorem between?_append (front inside behind : List Char) :
    between? (byteLength front) (byteLength front + byteLength inside) (front ++ (inside ++ behind)) =
      some inside := by
  simp only [between?, bind, Option.bind, cut?_append, Nat.le_add_right, if_true, Nat.add_sub_cancel_left]
  rfl

/-- Going back byte by byte ends at the last offset that is inside of no character. -/
theorem lastBoundary_spec (text : List Char) (offset : Nat) :
    (∃ front, front <+: text ∧ byteLength front = lastBoundary text offset) ∧
      lastBoundary text offset ≤ offset ∧
      ∀ front, front <+: text → byteLength front ≤ offset → byteLength front ≤ lastBoundary text offset := by
  induction offset with
  | zero => exact ⟨⟨[], List.nil_prefix, rfl⟩, Nat.le_refl 0, fun _ _ within => within⟩
  | succ offset ih =>
      rw [lastBoundary]
      split
      next boundary => exact ⟨isSome_cut?_iff.mp boundary, Nat.le_refl _, fun _ _ within => within⟩
      next interior =>
        obtain ⟨boundary, within, most⟩ := ih
        refine ⟨boundary, Nat.le_succ_of_le within, fun front isFront bound => ?_⟩
        refine most front isFront (Nat.le_of_lt_succ (Nat.lt_of_le_of_ne bound fun same => interior ?_))
        exact isSome_cut?_iff.mpr ⟨front, isFront, same⟩

theorem find?_indexed (set : CharClass) (start : Nat) (text : List Char) :
    (match (indexed start text).find? fun (_, character) => !set character with
      | some (index, _) => index
      | none => start + byteLength text) = start + byteLength (text.takeWhile set) := by
  induction text generalizing start with
  | nil => rfl
  | cons character text ih =>
      rw [indexed]
      cases inside : set character with
      | false =>
          rw [List.find?_cons_of_pos (by simp [inside]), List.takeWhile_cons_of_neg (by simp [inside])]
          rfl
      | true =>
          rw [List.find?_cons_of_neg (by simp [inside]), List.takeWhile_cons_of_pos inside, byteLength, byteLength,
            ← Nat.add_assoc, ← Nat.add_assoc]
          exact ih _

theorem runLength_eq (set : CharClass) (text : List Char) :
    runLength set text = byteLength (text.takeWhile set) := by
  have found := find?_indexed set 0 text
  rwa [Nat.zero_add, Nat.zero_add] at found

theorem collect_indexed (ends skipped : CharClass) (start offset : Nat) (text kept : List Char) :
    collect ends skipped start (indexed offset text) kept (start + offset) =
      (kept ++ (text.takeWhile fun character => !ends character).filter fun character => !skipped character,
        start + offset + byteLength (text.takeWhile fun character => !ends character)) := by
  induction text generalizing offset kept with
  | nil => simp [indexed, collect, byteLength]
  | cons character text ih =>
      rw [indexed, collect]
      cases last : ends character with
      | true => simp [last, byteLength]
      | false =>
          have onward := ih (offset + character.utf8Size)
          rw [← Nat.add_assoc] at onward
          simp only [Bool.false_eq_true, if_false, onward]
          cases skip : skipped character <;> simp [last, skip, byteLength, Nat.add_assoc]

theorem matchLength?_indexed (caseSensitive : Bool) (offset : Nat) (literal text : List Char) :
    matchLength? caseSensitive offset literal (indexed offset text) =
      if startsWith caseSensitive literal text then some (offset + byteLength (text.take literal.length))
      else none := by
  induction literal generalizing offset text with
  | nil => simp [matchLength?, startsWith, byteLength]
  | cons expected literal ih =>
      cases text with
      | nil => rfl
      | cons character text =>
          rw [indexed, matchLength?, startsWith]
          cases same : sameChar caseSensitive character expected with
          | false => rfl
          | true => simp [ih, byteLength, Nat.add_assoc]

variable {α : Type}

theorem utf8Size_of_number {character : Char} (number : CharClass.number character = true) :
    character.utf8Size = 1 := by
  rw [Char.utf8Size_eq_one_iff]
  simp only [CharClass.number, Char.isDigit, Bool.or_eq_true, Bool.and_eq_true, decide_eq_true_eq,
    beq_iff_eq] at number
  rcases number with ((((⟨-, digit⟩ | rfl) | rfl) | rfl) | rfl) | rfl
  · exact UInt32.le_trans digit (by decide)
  all_goals decide

theorem byteLength_of_numeric (numeric : ∀ character ∈ text, CharClass.number character = true) :
    byteLength text = text.length := by
  induction text with
  | nil => rfl
  | cons character text ih =>
      obtain ⟨number, others⟩ := List.forall_mem_cons.mp numeric
      rw [byteLength, utf8Size_of_number number, ih others, List.length_cons, Nat.add_comm]

theorem lastNumber?_indexed (parse : List Char → Option α) (taken text : List Char) (best : Option (Nat × α))
    (numeric : ∀ character ∈ taken, CharClass.number character = true) :
    lastNumber? parse (taken ++ text) (indexed taken.length text) best =
      some (lastNumber parse taken best text) := by
  induction text generalizing taken best with
  | nil => rfl
  | cons character text ih =>
      rw [indexed, lastNumber?, lastNumber]
      by_cases number : CharClass.number character = true
      · -- Up to here each character is one byte, so the front that is tried ends between two characters.
        have all : ∀ other ∈ taken ++ [character], CharClass.number other = true :=
          List.forall_mem_append.mpr ⟨numeric, by simpa using number⟩
        have bytes := byteLength_of_numeric all
        have candidate : between? 0 (taken.length + 1) (taken ++ character :: text) = some (taken ++ [character]) := by
          have cut := between?_append [] (taken ++ [character]) text
          rw [bytes, List.length_append] at cut
          simpa [byteLength] using cut
        have onward := ih (taken ++ [character])
          (((parse (taken ++ [character])).map fun number => (taken.length + 1, number)) <|> best) all
        rw [List.length_append, List.append_assoc] at onward
        rw [if_pos number, if_pos number, candidate, utf8Size_of_number number]
        simpa using onward
      · rw [if_neg number, if_neg number]

end PredicateRules.ByteScanner
