import PredicateRules.Proofs.Cutting.Word
import PredicateRules.Proofs.Reading.Constant

namespace PredicateRules

open PredicateRules.Parser PredicateRules.Scanner

namespace Numeral

theorem getLast?_digits {text : List Char} {last : Char}
    (found : (text.takeWhile Char.isDigit).getLast? = some last) : last.isDigit = true :=
  List.all_eq_true.mp List.all_takeWhile last (List.mem_of_getLast? found)

theorem getLast?_fractionText {text : List Char} {last : Char}
    (found : (fractionText (scanFraction text).1).getLast? = some last) : last.isDigit = true ∨ last = '.' := by
  unfold scanFraction at found
  split at found
  next _ digits =>
    simp only [fractionText, List.getLast?_cons] at found
    cases behind : (digits.takeWhile Char.isDigit).getLast? with
    | none =>
        rw [behind] at found
        exact .inr (Option.some.inj found).symm
    | some digit =>
        rw [behind] at found
        obtain rfl := Option.some.inj found
        exact .inl (getLast?_digits behind)
  next => cases found

theorem getLast?_exponentText {text : List Char} {last : Char}
    (found : (exponentText (scanExponent text).1).getLast? = some last) : last.isDigit = true := by
  cases text with
  | nil => cases found
  | cons marker text =>
      simp only [scanExponent] at found
      split at found
      next =>
        cases digits : (scanSign text).2.takeWhile Char.isDigit with
        | nil =>
            rw [digits] at found
            cases found
        | cons digit more =>
            rw [digits] at found
            have some : digit :: more ≠ [] := List.cons_ne_nil _ _
            have behind : digit :: more <:+ marker :: ((scanSign text).1.toList ++ digit :: more) :=
              ⟨marker :: (scanSign text).1.toList, by simp⟩
            simp only [exponentText, Exponent.text] at found
            rw [getLast?_suffix behind some, ← digits] at found
            exact getLast?_digits found
      next => cases found

theorem getLast?_text {text rest : List Char} {numeral : Numeral} (scanned : scan text = some (numeral, rest))
    {last : Char} (found : numeral.text.getLast? = some last) : last.isDigit = true ∨ last = '.' := by
  simp only [scan] at scanned
  split at scanned
  · contradiction
  · obtain ⟨rfl, rfl⟩ := Prod.mk.inj (Option.some.inj scanned)
    simp only [Numeral.text, List.getLast?_append, Option.or_eq_some_iff] at found
    rcases found with exponent | ⟨_, fraction | ⟨_, whole⟩⟩
    · exact .inl (getLast?_exponentText exponent)
    · exact getLast?_fractionText fraction
    · exact .inl (getLast?_digits whole)

end Numeral

namespace Parse

variable {room roomAgain : Nat}

theorem dropWhile_eq_drop {set : CharClass} (text : List Char) :
    text.dropWhile set = text.drop (text.takeWhile set).length := by
  have whole := List.takeWhile_append_dropWhile (p := set) (l := text)
  calc text.dropWhile set
      = (text.takeWhile set ++ text.dropWhile set).drop (text.takeWhile set).length := by
        rw [List.drop_left]
    _ = text.drop (text.takeWhile set).length := by rw [whole]

theorem take_takeWhile {set : CharClass} (text : List Char) :
    text.take (text.takeWhile set).length = text.takeWhile set :=
  (List.prefix_iff_eq_take.mp (List.takeWhile_prefix _)).symm

theorem span_append {set : CharClass} {text : List Char} (some : text.dropWhile set ≠ []) (back : List Char) :
    (text ++ back).takeWhile set = text.takeWhile set ∧
      (text ++ back).dropWhile set = text.dropWhile set ++ back := by
  have lengths := congrArg List.length (List.takeWhile_append_dropWhile (p := set) (l := text))
  have rest := List.length_pos_iff.mpr some
  rw [List.length_append] at lengths
  rw [List.takeWhile_append, if_neg (by omega), List.dropWhile_append, if_neg (mt List.isEmpty_iff.mp some)]
  exact ⟨rfl, rfl⟩

theorem mem_dropWhile_of_outside {set : CharClass} {text : List Char} {character : Char}
    (member : character ∈ text) (outside : set character = false) : character ∈ text.dropWhile set := by
  rw [← List.takeWhile_append_dropWhile (p := set) (l := text)] at member
  refine (List.mem_append.mp member).resolve_left fun inside => ?_
  rw [List.all_eq_true.mp List.all_takeWhile character inside] at outside
  cases outside

theorem takeWhile_closing {set : CharClass} (outside : set ')' = false) {text : List Char}
    (closing : text.getLast? = some ')') (back : List Char) :
    (text ++ back).takeWhile set = text.takeWhile set :=
  (span_append (List.ne_nil_of_mem
    (mem_dropWhile_of_outside (List.mem_of_getLast? closing) outside)) back).1

def lookIdentifier (_ : Bool) (text : List Char) : Option (String × Nat) :=
  match text.takeWhile CharClass.identifier with
  | [] => none
  | run => some (String.ofList run, run.length)

theorem lookIdentifier_some {caseSensitive : Bool} {text : List Char} {result : String} {count : Nat}
    (found : lookIdentifier caseSensitive text = some (result, count)) :
    text.takeWhile CharClass.identifier ≠ [] ∧
      result = String.ofList (text.takeWhile CharClass.identifier) ∧
      count = (text.takeWhile CharClass.identifier).length := by
  unfold lookIdentifier at found
  split at found
  · cases found
  next some =>
    obtain ⟨rfl, rfl⟩ := Prod.mk.inj (Option.some.inj found)
    exact ⟨some, rfl, rfl⟩

theorem lookIdentifier_of_ne {caseSensitive : Bool} {text : List Char}
    (some : text.takeWhile CharClass.identifier ≠ []) :
    lookIdentifier caseSensitive text = Option.some (String.ofList (text.takeWhile CharClass.identifier),
      (text.takeWhile CharClass.identifier).length) := by
  unfold lookIdentifier
  split
  next none => exact absurd none some
  next => rfl

theorem looks_identifier : Looks identifier lookIdentifier where
  found {parser result count} skips found := by
    obtain ⟨some, rfl, rfl⟩ := lookIdentifier_some found
    obtain ⟨scanner, same, moves⟩ := Setting.characters_some .missingIdentifier skips (by decide) some
    refine ⟨scanner, ?_, ⟨_, moves⟩, ?_⟩
    · simp only [identifier, bind, EStateM.bind, same]
      rfl
    · have whole := moves.ahead
      rw [← dropWhile_eq_drop, Scanner.ahead]
      conv_lhs at whole => rw [← List.takeWhile_append_dropWhile (p := CharClass.identifier)
        (l := parser.scanner.ahead)]
      rw [List.append_cancel_left whole]
  missed {parser} skips missed := by
    have none : parser.scanner.ahead.takeWhile CharClass.identifier = [] := by
      by_contra some
      rw [lookIdentifier_of_ne some] at missed
      cases missed
    obtain ⟨error, scanner, same, moves⟩ := Setting.characters_none .missingIdentifier skips none
    exact ⟨error, scanner, by simp only [identifier, bind, EStateM.bind, same], moves⟩

theorem settled_run {text : List Char} (last : Char)
    (found : (text.takeWhile CharClass.identifier).getLast? = some last) :
    CharClass.skipped last = false ∧ last ≠ ':' ∧
      ∀ next ∈ (text.dropWhile CharClass.identifier).head?, CharClass.continuesKeyword next = false := by
  have named := List.all_eq_true.mp List.all_takeWhile last (List.mem_of_getLast? found)
  refine ⟨CharClass.solid (by decide) named, ?_, fun next behind => Bool.eq_false_iff.mpr fun continues => ?_⟩
  · rintro rfl
    cases named
  · have outside := List.head?_dropWhile_not CharClass.identifier text
    rw [Option.mem_def.mp behind] at outside
    simp only [CharClass.continuesKeyword, CharClass.identifier, Bool.or_eq_true, Bool.or_eq_false_iff,
      beq_iff_eq] at continues outside
    rcases continues with rfl | letter
    · simp at outside
    · rw [letter] at outside
      simp at outside

theorem steady_identifier : Steady lookIdentifier where
  settled {caseSensitive text result count} found := by
    obtain ⟨some, rfl, rfl⟩ := lookIdentifier_some found
    rw [take_takeWhile, ← dropWhile_eq_drop]
    refine ⟨(List.takeWhile_sublist _).length_le, fun last ends => (settled_run last ends).1,
      fun last ends next behind => ⟨fun continues => ?_, fun _ => (settled_run last ends).2.1⟩⟩
    rw [(settled_run last ends).2.2 next behind] at continues
    cases continues
  final {caseSensitive text back result count} _ found within := by
    obtain ⟨some, rfl, rfl⟩ := lookIdentifier_some found
    obtain ⟨same, _⟩ := takeWhile_within within
    rw [same] at some ⊢
    exact lookIdentifier_of_ne some
  closing {caseSensitive text back other result count} closing found within := by
    obtain ⟨some, rfl, rfl⟩ := lookIdentifier_some found
    have outside : CharClass.identifier ')' = false := by decide
    rw [takeWhile_closing outside closing back] at some ⊢
    rw [← takeWhile_closing outside closing other] at some ⊢
    exact lookIdentifier_of_ne some

theorem Draws.identifier : Draws room roomAgain Parse.identifier Parse.identifier fun _ => true :=
  .look looks_identifier steady_identifier fun found _ => by
    obtain ⟨some, _, rfl⟩ := lookIdentifier_some found
    exact List.length_pos_iff.mpr some

def lookNumeral (_ : Bool) (text : List Char) : Option (Option Numeral × Nat) :=
  match Numeral.scan text with
  | some (numeral, _) => some (some numeral, numeral.text.length)
  | none => some (none, 0)

theorem looks_numeral : Looks (scan Scanner.scanNumeral) lookNumeral where
  found {parser result count} skips found := by
    simp only [scan, scanNumeral_eq skips]
    unfold lookNumeral at found
    cases scanned : Numeral.scan parser.scanner.ahead with
    | none =>
        rw [scanned] at found
        obtain ⟨rfl, rfl⟩ := Prod.mk.inj (Option.some.inj found)
        exact ⟨_, rfl, ⟨_, skipIgnored_moves skips⟩,
          (ahead_skipIgnored skips).trans (fronted_front _).symm⟩
    | some pair =>
        obtain ⟨numeral, rest⟩ := pair
        rw [scanned] at found
        obtain ⟨rfl, rfl⟩ := Prod.mk.inj (Option.some.inj found)
        exact ⟨_, rfl, ⟨_, Setting.numeral_moves skips scanned⟩, ahead_forward_drop skips _⟩
  missed skips missed := by
    unfold lookNumeral at missed
    split at missed <;> cases missed

theorem endsToken_of_digit {character : Char} (digit : character.isDigit = true) :
    endsToken character = true := by
  have all : ∀ character : Char, character.toNat < 128 → character.isDigit = true →
      endsToken character = true := forall_ascii (by decide +kernel)
  exact all character (KeyPath.digit_low digit) digit

theorem steady_numeral : Steady lookNumeral where
  settled {caseSensitive text result count} found := by
    unfold lookNumeral at found
    split at found <;> obtain ⟨rfl, rfl⟩ := Prod.mk.inj (Option.some.inj found)
    next numeral rest scanned =>
      have whole := Numeral.text_append_of_scan scanned
      have ends : ∀ last ∈ numeral.text.getLast?, endsToken last = true := by
        intro last found
        rcases Numeral.getLast?_text scanned found with digit | rfl
        · exact endsToken_of_digit digit
        · decide
      rw [← whole, List.take_left, List.drop_left]
      exact ⟨by simp, settled_of_endsToken ends⟩
    next => exact ⟨Nat.zero_le _, nofun, nofun⟩
  final {caseSensitive text back result count} _ found within := by
    unfold lookNumeral at found ⊢
    split at found <;> obtain ⟨rfl, rfl⟩ := Prod.mk.inj (Option.some.inj found)
    next numeral rest scanned =>
      obtain ⟨behind, again, _⟩ := Numeral.scan_within scanned within
      rw [again]
    next missing => rw [Numeral.scan_none missing]
  closing {caseSensitive text back other result count} closing found within := by
    obtain ⟨before, rfl⟩ := List.getLast?_eq_some_iff.mp closing
    have same : ∀ behind : List Char, lookNumeral caseSensitive ((before ++ [')']) ++ behind) =
        lookNumeral caseSensitive before := by
      intro behind
      have stops : ∀ character ∈ ([')'] ++ behind).head?, character = ' ' ∨ character = ')' :=
        fun character found => .inr (Option.some.inj found).symm
      rw [List.append_assoc]
      unfold lookNumeral
      rw [Numeral.scan_append_stop stops]
      cases Numeral.scan before <;> rfl
    rw [same] at found ⊢
    exact found

theorem Draws.numericLiteral? :
    Draws room roomAgain Parse.numericLiteral? Parse.numericLiteral? Option.isSome := by
  have numeral : Draws room roomAgain (scan Scanner.scanNumeral) (scan Scanner.scanNumeral) Option.isSome := by
    refine .look looks_numeral steady_numeral fun found spent => ?_
    unfold lookNumeral at found
    split at found <;> obtain ⟨rfl, rfl⟩ := Prod.mk.inj (Option.some.inj found)
    next scanned => exact List.length_pos_iff.mpr (Numeral.text_ne_nil scanned)
    next => cases spent
  rw [Parse.numericLiteral?_eq]
  refine Draws.bind numeral fun found => ?_
  cases found <;> exact .pure rfl

def meetsColon (text : List Char) : Bool := text.head? == some ':' && text.tail.head? != some '='

def lookColon (_ : Bool) (text : List Char) : Option (Bool × Nat) :=
  if meetsColon text then some (true, 1) else some (false, 0)

theorem startsWith_one {caseSensitive : Bool} {symbol : Char} (symbolic : isSymbol symbol = true)
    (text : List Char) : startsWith caseSensitive [symbol] text = (text.head? == some symbol) := by
  by_cases same : text.head? = some symbol
  · cases text with
    | nil => cases same
    | cons first text =>
        obtain rfl := Option.some.inj same
        simp [startsWith, sameChar]
  · rw [startsWith_symbol symbolic same]
    exact (beq_eq_false_iff_ne.mpr same).symm

theorem scanColon_facts {scanner : Scanner} (skips : scanner.skips = some CharClass.skipped) :
    (Setting.scanColon scanner).1 = meetsColon scanner.ahead ∧
      (∃ crossed, scanner.Moves (Setting.scanColon scanner).2 crossed) ∧
      (Setting.scanColon scanner).2.ahead =
        front (scanner.ahead.drop (if meetsColon scanner.ahead then 1 else 0)) := by
  have solid : Solid ":" := by decide
  have symbol : ":".toList = [':'] := rfl
  unfold Setting.scanColon meetsColon
  rw [scanLiteral_eq skips, meets_eq solid, symbol, startsWith_one (by decide)]
  cases found : scanner.ahead.head? == some ':' with
  | false =>
      refine ⟨rfl, ⟨_, skipIgnored_moves skips⟩, (ahead_skipIgnored skips).trans ?_⟩
      exact (fronted_front _).symm
  | true =>
      have moves := forward_skipIgnored_moves skips 1
      have peek : (scanner.skipIgnored.forward 1).peek = scanner.ahead.tail.head? := by
        simp only [Scanner.peek, forward, remaining_skipIgnored skips, List.drop_one]
      simp only [if_true, List.length_singleton, peek, Bool.true_and]
      split
      next assigned =>
        simp only [assigned, bne_self_eq_false, Bool.false_eq_true, if_false]
        exact ⟨trivial, ⟨_, backTo_moves _ _ moves.skips moves.caseSensitive⟩,
          (fronted_front scanner.remaining).symm⟩
      next differs =>
        have other : (scanner.ahead.tail.head? != some '=') = true := bne_iff_ne.mpr differs
        simp only [other, if_true]
        exact ⟨trivial, ⟨_, moves⟩, ahead_forward_drop skips 1⟩

theorem looks_colon : Looks selectorColon lookColon where
  found {parser result count} skips found := by
    obtain ⟨same, moves, ahead⟩ := scanColon_facts skips
    rw [Setting.selectorColon_eq]
    unfold lookColon at found
    split at found <;> obtain ⟨rfl, rfl⟩ := Prod.mk.inj (Option.some.inj found)
    next met =>
      rw [if_pos met] at ahead
      exact ⟨_, congrArg (fun result => EStateM.Result.ok result _) (same.trans met), moves, ahead⟩
    next missing =>
      rw [if_neg missing] at ahead
      exact ⟨_, congrArg (fun result => EStateM.Result.ok result _)
        (same.trans (Bool.eq_false_iff.mpr missing)), moves, ahead⟩
  missed skips missed := by
    unfold lookColon at missed
    split at missed <;> cases missed

theorem exists_of_meetsColon {text : List Char} (met : meetsColon text = true) :
    ∃ rest, text = ':' :: rest ∧ rest.head? ≠ some '=' := by
  simp only [meetsColon, Bool.and_eq_true, beq_iff_eq, bne_iff_ne] at met
  obtain ⟨first, differs⟩ := met
  cases text with
  | nil => cases first
  | cons colon rest =>
      obtain rfl := Option.some.inj first
      exact ⟨rest, rfl, differs⟩

theorem settled_of_colon (before : List Char) {rest : List Char} (unassigned : rest.head? ≠ some '=') :
    (∀ last ∈ (before ++ [':']).getLast?, CharClass.skipped last = false) ∧
      Settled (before ++ [':']) rest := by
  unfold Settled
  rw [List.getLast?_concat]
  refine ⟨fun last found => ?_, fun last found next behind => ?_⟩ <;> obtain rfl := Option.some.inj found
  · decide
  · refine ⟨fun _ => unlettered_of_symbol (by decide), ?_⟩
    rintro rfl
    exact absurd behind unassigned

theorem meetsColon_final {text back : List Char} (settled : Settled text back)
    (colon : text ≠ []) : meetsColon (text ++ back) = meetsColon text := by
  cases text with
  | nil => exact absurd rfl colon
  | cons first text =>
      cases text with
      | cons second text => rfl
      | nil =>
          unfold meetsColon
          simp only [List.cons_append, List.nil_append, List.head?_cons, List.tail_cons, List.head?_nil]
          cases head : back.head? with
          | none => rfl
          | some next =>
              by_cases equals : next = '='
              · have differs := (settled first rfl next head).2 equals
                have noColon : (Option.some first == some ':') = false :=
                  beq_eq_false_iff_ne.mpr fun same => differs (Option.some.inj same)
                rw [noColon, Bool.false_and, Bool.false_and]
              · have other : (Option.some next != some '=') = true :=
                  bne_iff_ne.mpr fun same => equals (Option.some.inj same)
                rw [other]
                rfl

theorem meetsColon_closing {text : List Char} (closing : text.getLast? = some ')') (back : List Char) :
    meetsColon (text ++ back) = meetsColon text := by
  cases text with
  | nil => cases closing
  | cons first text =>
      cases text with
      | cons second text => rfl
      | nil =>
          obtain rfl := Option.some.inj closing
          rfl

theorem steady_colon : Steady lookColon where
  settled {caseSensitive text result count} found := by
    unfold lookColon at found
    split at found <;> obtain ⟨rfl, rfl⟩ := Prod.mk.inj (Option.some.inj found)
    next met =>
      obtain ⟨rest, rfl, unassigned⟩ := exists_of_meetsColon met
      have single : (':' :: rest).take 1 = [] ++ [':'] := by simp
      rw [single]
      exact ⟨Nat.succ_le_succ (Nat.zero_le _), settled_of_colon [] unassigned⟩
    next => exact ⟨Nat.zero_le _, nofun, nofun⟩
  final {caseSensitive text back result count} settled found within := by
    unfold lookColon at found ⊢
    by_cases none : text = []
    · subst none
      split at found <;> obtain ⟨rfl, rfl⟩ := Prod.mk.inj (Option.some.inj found)
      · cases within
      · rfl
    · rwa [← meetsColon_final settled none]
  closing {caseSensitive text back other result count} closing found _ := by
    unfold lookColon at found ⊢
    rw [meetsColon_closing closing] at found ⊢
    exact found

theorem Draws.selectorColon : Draws room roomAgain Parse.selectorColon Parse.selectorColon id :=
  .look looks_colon steady_colon fun found spent => by
    unfold lookColon at found
    split at found <;> obtain ⟨rfl, rfl⟩ := Prod.mk.inj (Option.some.inj found)
    · exact Nat.one_pos
    · cases spent

def lookPart (_ : Bool) (text : List Char) : Option (Option String × Nat) :=
  let run := text.takeWhile CharClass.identifier
  let tail := front (text.dropWhile CharClass.identifier)
  if run ≠ [] ∧ meetsColon tail then
    some (some (String.ofList run ++ ":"), text.length - tail.length + 1)
  else some (none, 0)

theorem drop_front_tail {text tail : List Char} (inside : tail <:+ text) :
    text.drop (text.length - tail.length + 1) = tail.drop 1 := by
  obtain ⟨before, rfl⟩ := inside
  rw [List.length_append, Nat.add_sub_cancel, ← List.drop_drop, List.drop_left]

theorem front_dropWhile_suffix (text : List Char) : front (text.dropWhile CharClass.identifier) <:+ text :=
  (List.dropWhile_suffix _).trans (List.dropWhile_suffix _)

theorem looks_part : Looks selectorPart? lookPart where
  found {parser result count} skips found := by
    rw [Setting.selectorPart?_eq]
    unfold lookPart at found
    simp only [scan, Setting.scanPart]
    by_cases run : parser.scanner.ahead.takeWhile CharClass.identifier = []
    · obtain ⟨after, scanned, crossed, moves⟩ := scanCharacters_none skips run
      rw [if_neg fun both => both.1 run] at found
      obtain ⟨rfl, rfl⟩ := Prod.mk.inj (Option.some.inj found)
      rw [scanned]
      exact ⟨_, rfl, ⟨[], backTo_moves _ _ moves.skips moves.caseSensitive⟩,
        (fronted_front parser.scanner.remaining).symm⟩
    · obtain ⟨after, scanned, moves⟩ := scanCharacters_some skips (by decide) run
      have behind : after.ahead = front (parser.scanner.ahead.dropWhile CharClass.identifier) := by
        have whole := moves.ahead
        conv_lhs at whole => rw [← List.takeWhile_append_dropWhile (p := CharClass.identifier)
          (l := parser.scanner.ahead)]
        rw [List.append_cancel_left whole]
        rfl
      obtain ⟨same, ⟨crossedColon, movesColon⟩, aheadColon⟩ :=
        scanColon_facts (moves.skips.trans skips)
      rw [behind] at same aheadColon
      rw [scanned]
      cases colon : Setting.scanColon after with
      | mk joined last =>
          rw [colon] at same movesColon aheadColon
          simp only [colon]
          have both := moves.trans movesColon
          cases joined with
          | true =>
              rw [if_pos ⟨run, same.symm⟩] at found
              obtain ⟨rfl, rfl⟩ := Prod.mk.inj (Option.some.inj found)
              rw [if_pos same.symm] at aheadColon
              refine ⟨_, rfl, ⟨_, both⟩, aheadColon.trans ?_⟩
              rw [drop_front_tail (front_dropWhile_suffix _)]
          | false =>
              rw [if_neg fun met => Bool.false_ne_true (same.trans met.2)] at found
              obtain ⟨rfl, rfl⟩ := Prod.mk.inj (Option.some.inj found)
              exact ⟨_, rfl, ⟨[], backTo_moves _ _ both.skips both.caseSensitive⟩,
                (fronted_front parser.scanner.remaining).symm⟩
  missed skips missed := by
    unfold lookPart at missed
    dsimp only at missed
    split at missed <;> cases missed

/-- Where something stands behind the name, it alone decides. -/
theorem lookPart_append {caseSensitive : Bool} {text : List Char}
    (some : front (text.dropWhile CharClass.identifier) ≠ []) (back : List Char) :
    lookPart caseSensitive (text ++ back) =
      if text.takeWhile CharClass.identifier ≠ [] ∧
          meetsColon (front (text.dropWhile CharClass.identifier) ++ back) then
        Option.some (Option.some (String.ofList (text.takeWhile CharClass.identifier) ++ ":"),
          text.length - (front (text.dropWhile CharClass.identifier)).length + 1)
      else Option.some (none, 0) := by
  have tail : text.dropWhile CharClass.identifier ≠ [] := fun none => some (by rw [none]; rfl)
  obtain ⟨same, behind⟩ := span_append tail back
  have front : front (text.dropWhile CharClass.identifier ++ back) =
      front (text.dropWhile CharClass.identifier) ++ back := by
    rw [← front_append]
    exact (fronted_front _).append some back
  have lengths := (front_dropWhile_suffix text).length_le
  unfold lookPart
  simp only [same, behind, front, List.length_append]
  rw [Nat.add_sub_add_right]

theorem lookPart_nil {caseSensitive : Bool} {text : List Char}
    (none : front (text.dropWhile CharClass.identifier) = []) :
    lookPart caseSensitive text = some (Option.none, 0) := by
  unfold lookPart
  rw [none]
  exact if_neg fun both => Bool.false_ne_true both.2

theorem lookPart_cases {caseSensitive : Bool} {text : List Char} {result : Option String} {count : Nat}
    (found : lookPart caseSensitive text = some (result, count)) :
    (∃ before rest, text = before ++ ':' :: rest ∧ rest.head? ≠ some '=' ∧ count = before.length + 1) ∨
      (result = none ∧ count = 0) := by
  unfold lookPart at found
  dsimp only at found
  split at found <;> obtain ⟨rfl, rfl⟩ := Prod.mk.inj (Option.some.inj found)
  next met =>
    obtain ⟨before, whole⟩ := front_dropWhile_suffix text
    obtain ⟨rest, tail, unassigned⟩ := exists_of_meetsColon met.2
    rw [tail] at whole ⊢
    refine .inl ⟨before, rest, whole.symm, unassigned, ?_⟩
    rw [← whole, List.length_append, Nat.add_sub_cancel]
  next => exact .inr ⟨rfl, rfl⟩

theorem front_dropWhile_ne_nil {text : List Char} {character : Char} (member : character ∈ text)
    (outside : CharClass.identifier character = false) (solid : CharClass.skipped character = false) :
    front (text.dropWhile CharClass.identifier) ≠ [] :=
  front_ne_nil ⟨character, mem_dropWhile_of_outside member outside, solid⟩

theorem steady_part : Steady lookPart where
  settled {caseSensitive text result count} found := by
    rcases lookPart_cases found with ⟨before, rest, rfl, unassigned, rfl⟩ | ⟨rfl, rfl⟩
    · have split : before ++ ':' :: rest = (before ++ [':']) ++ rest := by simp
      have count : before.length + 1 = (before ++ [':']).length := by simp
      rw [split, count, List.take_left, List.drop_left]
      exact ⟨by simp, settled_of_colon before unassigned⟩
    · exact ⟨Nat.zero_le _, nofun, nofun⟩
  final {caseSensitive text back result count} settled found within := by
    by_cases none : front (text.dropWhile CharClass.identifier) = []
    · -- No colon is in front of the cut, so there is no part that ends before it.
      rw [lookPart_nil none]
      rcases lookPart_cases found with ⟨before, rest, whole, _, rfl⟩ | ⟨rfl, rfl⟩
      · have colon : text[before.length]? = some ':' := by
          rw [← List.getElem?_append_left (Nat.lt_of_succ_le within), whole]
          simp
        exact absurd none (front_dropWhile_ne_nil (List.mem_of_getElem? colon) (by decide) (by decide))
      · rfl
    · rw [lookPart_append none] at found
      have empty : lookPart caseSensitive (text ++ []) = _ := lookPart_append none []
      have last := getLast?_suffix (front_dropWhile_suffix text) none
      have settledTail : Settled (front (text.dropWhile CharClass.identifier)) back := by
        unfold Settled
        rwa [← last]
      rw [List.append_nil, List.append_nil] at empty
      rw [empty]
      rwa [meetsColon_final settledTail none] at found
  closing {caseSensitive text back other result count} closing found within := by
    have some := front_dropWhile_ne_nil (List.mem_of_getLast? closing) (by decide) (by decide)
    have last := getLast?_suffix (front_dropWhile_suffix text) some
    rw [closing] at last
    rw [lookPart_append some, meetsColon_closing last.symm] at found ⊢
    exact found

theorem Draws.selectorPart? :
    Draws room roomAgain Parse.selectorPart? Parse.selectorPart? Option.isSome :=
  .look looks_part steady_part fun found spent => by
    rcases lookPart_cases found with ⟨_, _, _, _, rfl⟩ | ⟨rfl, _⟩
    · exact Nat.succ_pos _
    · cases spent

end Parse

end PredicateRules
