import PredicateRules.Proofs.Printing.Operand

namespace PredicateRules

namespace KeyPath

def selectorText (parts : List (List Char)) : List Char := parts.flatMap (· ++ [':'])

inductive Written : List Char → Prop
  | name {name : List Char} (named : IsName name) : Written name
  | sigil {name : List Char} (named : IsName name) : Written ('@' :: name)
  | selector {path : List Char} {parts : List (List Char)} (written : Written path)
      (named : ∀ part ∈ parts, IsName part) : Written (path ++ ':' :: selectorText parts)
  | further {path rest : List Char} (written : Written path) (behind : Written rest) :
      Written (path ++ '.' :: rest)

theorem components_solid {piece : List Char} (solid : '.' ∉ piece) : components piece = [piece] := by
  induction piece with
  | nil => rfl
  | cons head piece ih =>
      simp only [List.mem_cons, not_or] at solid
      simp only [components, ih solid.2, if_neg (Ne.symm solid.1)]

theorem components_append_solid (path : List Char) {tail : List Char} (solid : '.' ∉ tail) :
    ∃ before last, components path = before ++ [last] ∧
      components (path ++ tail) = before ++ [last ++ tail] := by
  induction path with
  | nil => exact ⟨[], [], rfl, components_solid solid⟩
  | cons head path ih =>
      obtain ⟨before, last, whole, wholeTail⟩ := ih
      by_cases point : head = '.'
      · exact ⟨[] :: before, last, by simp [components, point, whole],
          by simp [components, point, wholeTail]⟩
      · cases before with
        | nil => exact ⟨[], head :: last, by simp [components, point, whole],
            by simp [components, point, wholeTail]⟩
        | cons first before => exact ⟨(head :: first) :: before, last,
            by simp [components, point, whole], by simp [components, point, wholeTail]⟩

theorem text_append (path rest : List Char) :
    text (String.ofList (path ++ '.' :: rest)) =
      text (String.ofList path) ++ "." ++ text (String.ofList rest) := by
  unfold text
  simp only [String.toList_ofList, components_append, List.map_append]
  refine String.intercalate_append_of_ne_nil ?_ ?_
  · simp [components_ne_nil]
  · simp [components_ne_nil]

theorem sameFold_symbol : ∀ symbol ∈ ['@', ':'], ∀ word ∈ reservedWords, ∀ letter ∈ word.toList,
    Unicode.sameFold letter symbol = false := by
  decide +kernel

theorem startsWithWord_append {word : List Char} (letters : ∀ letter ∈ word, Unicode.sameFold letter ':' = false)
    (name tail : List Char) : startsWithWord word (name ++ ':' :: tail) = startsWithWord word name := by
  induction word generalizing name with
  | nil =>
      cases name with
      | nil =>
          show (!Unicode.isWord ':'.toNat) = true
          decide +kernel
      | cons character name => rfl
  | cons letter word ih =>
      cases name with
      | nil => simp [startsWithWord, letters letter (by simp)]
      | cons character name =>
          simp only [List.cons_append, startsWithWord,
            ih (fun other member => letters other (by simp [member]))]

theorem needsEscape_append (name tail : List Char) :
    needsEscape (name ++ ':' :: tail) = needsEscape name := by
  have words : reservedWords.any (fun word => startsWithWord word.toList (name ++ ':' :: tail)) =
      reservedWords.any fun word => startsWithWord word.toList name := by
    rw [Bool.eq_iff_iff, List.any_eq_true, List.any_eq_true]
    refine exists_congr fun word => and_congr_right fun member => ?_
    rw [startsWithWord_append (sameFold_symbol ':' (by decide) word member)]
  unfold needsEscape
  rw [words]
  cases name with
  | nil => rfl
  | cons character name => rfl

theorem componentText_append (name tail : List Char) :
    componentText (name ++ ':' :: tail) = componentText name ++ ':' :: tail := by
  unfold componentText
  rw [needsEscape_append]
  split <;> rfl

theorem text_append_selector (path : List Char) {tail : List Char} (solid : '.' ∉ tail) :
    text (String.ofList (path ++ ':' :: tail)) =
      text (String.ofList path) ++ String.ofList (':' :: tail) := by
  obtain ⟨before, last, whole, wholeTail⟩ :=
    components_append_solid path (show '.' ∉ ':' :: tail by simp [solid])
  have lastText : String.ofList (componentText (last ++ ':' :: tail)) =
      String.ofList (componentText last) ++ String.ofList (':' :: tail) := by
    rw [componentText_append, String.ofList_append]
  unfold text
  simp only [String.toList_ofList, whole, wholeTail, List.map_append, List.map_cons, List.map_nil,
    lastText]
  cases before with
  | nil => simp only [List.map_nil, List.nil_append, String.intercalate_singleton]
  | cons first before =>
      rw [String.intercalate_append_of_ne_nil (by simp) (by simp),
        String.intercalate_append_of_ne_nil (by simp) (by simp), String.intercalate_singleton,
        String.intercalate_singleton]
      simp only [String.append_assoc]

theorem IsName.solid {name : List Char} (named : IsName name) : '.' ∉ name :=
  fun member => absurd (named.2 '.' member) (by decide)

theorem text_solid {name : List Char} (solid : '.' ∉ name) :
    text (String.ofList name) = String.ofList (componentText name) := by
  unfold text
  simp [components_solid solid]

theorem componentText_sigil (name : List Char) : componentText ('@' :: name) = '@' :: name := by
  have plain : needsEscape ('@' :: name) = false := by
    unfold needsEscape
    rw [Bool.or_eq_false_iff]
    refine ⟨rfl, List.any_eq_false.mpr fun word member starts => ?_⟩
    cases letters : word.toList with
    | nil =>
        have all : ∀ word ∈ reservedWords, word.toList ≠ [] := by decide
        exact all word member letters
    | cons letter letters' =>
        have other := sameFold_symbol '@' (by decide) word member letter (by simp [letters])
        simp [letters, startsWithWord, other] at starts
  rw [componentText, plain]
  rfl

theorem text_sigil {name : List Char} (named : IsName name) :
    text (String.ofList ('@' :: name)) = String.ofList ('@' :: name) := by
  rw [text_solid (by simpa using named.solid), componentText_sigil]

theorem selectorText_solid {parts : List (List Char)} (named : ∀ part ∈ parts, IsName part) :
    '.' ∉ selectorText parts := by
  intro member
  obtain ⟨part, listed, inside⟩ := List.mem_flatMap.mp member
  rcases List.mem_append.mp inside with inPart | colon
  · exact (named part listed).solid inPart
  · exact absurd (List.mem_singleton.mp colon) (by decide)

end KeyPath

namespace Parse

variable {caseSensitive : Bool} {text rest behind : List Char} {which : Parser → Nat}
  {nested : Parse Expression}

theorem selectorColon_taken (colon : behind.head? ≠ some '=') :
    Takes caseSensitive (':' :: behind) selectorColon true behind := by
  rw [Setting.selectorColon_eq]
  refine takes_scan fun scanner skips sensitive ahead => ?_
  have front : scanner.ahead = ":".toList ++ behind := ahead
  refine ⟨_, _, ?_, Scanner.forward_skipIgnored_moves skips ":".toList.length,
    ahead_forward skips front⟩
  have peeks : (scanner.skipIgnored.forward ":".toList.length).peek = behind.head? := by
    unfold Scanner.peek Scanner.forward
    rw [Scanner.remaining_skipIgnored skips, front, List.drop_left]
  unfold Setting.scanColon
  rw [Scanner.scanLiteral_eq skips, meets_eq (by decide), front, Scanner.startsWith_self]
  simp only [if_true, peeks, colon, if_false]

theorem selectorColon_missing (silent : Silent ":" (text.dropWhile CharClass.skipped)) :
    Takes caseSensitive text selectorColon false text := by
  rw [Setting.selectorColon_eq]
  refine takes_scan fun scanner skips sensitive ahead => ?_
  refine ⟨_, _, ?_, Scanner.skipIgnored_moves skips, (ahead_skipIgnored skips).trans ahead⟩
  unfold Setting.scanColon
  rw [Scanner.scanLiteral_eq skips, meets_eq (by decide), ahead, silent]
  rfl

/-- No part of a selector and no definition comes next. -/
structure Unselected (text : List Char) : Prop where
  unnamed : (text.dropWhile CharClass.skipped).head?.any CharClass.identifier = true →
    Silent ":" (((text.dropWhile CharClass.skipped).dropWhile CharClass.identifier).dropWhile
      CharClass.skipped)
  unassigned : text.head? ≠ some '='

theorem selectorPart?_taken {part : List Char} (named : KeyPath.IsName part)
    (colon : behind.head? ≠ some '=') :
    Takes caseSensitive (part ++ ':' :: behind) selectorPart? (some (String.ofList (part ++ [':'])))
      behind := by
  have same : String.ofList part ++ ":" = String.ofList (part ++ [':']) :=
    String.ofList_append.symm
  refine takes_scanner fun before => ?_
  refine (scanCharacters_taken (by decide) named.1 named.2 (by simp [CharClass.identifier])).bind ?_
  exact (selectorColon_taken colon).bind (same ▸ .pure _)

theorem selectorPart?_missing (unselected : Unselected text) :
    Takes caseSensitive text selectorPart? none text := by
  rw [Setting.selectorPart?_eq]
  refine takes_scan fun scanner skips sensitive ahead => ?_
  unfold Setting.scanPart
  by_cases found : scanner.ahead.takeWhile CharClass.identifier = []
  · obtain ⟨after, scanned, crossed, moves⟩ := Scanner.scanCharacters_none skips found
    rw [scanned]
    exact ⟨_, [], rfl, Scanner.backTo_moves _ _ moves.skips moves.caseSensitive, ahead⟩
  · obtain ⟨after, scanned, moves⟩ := Scanner.scanCharacters_some skips (by decide) found
    have begins : (text.dropWhile CharClass.skipped).head?.any CharClass.identifier = true := by
      rw [← ahead]
      cases front : scanner.ahead with
      | nil => simp [front] at found
      | cons character others =>
          by_cases own : CharClass.identifier character = true
          · simpa using own
          · simp [front, own] at found
    have behindRun : after.ahead =
        ((text.dropWhile CharClass.skipped).dropWhile CharClass.identifier).dropWhile
          CharClass.skipped := by
      have remaining := List.append_cancel_left (List.takeWhile_append_dropWhile.trans moves.ahead)
      rw [← ahead, remaining]
      rfl
    have colon : Setting.scanColon after = (false, after.skipIgnored) := by
      have skipsAfter := moves.skips.trans skips
      unfold Setting.scanColon
      rw [Scanner.scanLiteral_eq skipsAfter, meets_eq (by decide), behindRun,
        unselected.unnamed begins]
      rfl
    have all := moves.trans (Scanner.skipIgnored_moves (moves.skips.trans skips))
    rw [scanned]
    simp only [colon]
    exact ⟨_, [], rfl, Scanner.backTo_moves _ _ all.skips all.caseSensitive, ahead⟩

theorem selectorText_head {parts : List (List Char)} (named : ∀ part ∈ parts, KeyPath.IsName part)
    (unselected : Unselected behind) : (KeyPath.selectorText parts ++ behind).head? ≠ some '=' := by
  cases parts with
  | nil => exact unselected.unassigned
  | cons part parts =>
      obtain ⟨first, tail, rfl⟩ := List.exists_cons_of_ne_nil (named part (by simp)).1
      have own := (named (first :: tail) (by simp)).2 first (by simp)
      simp only [KeyPath.selectorText, List.flatMap_cons, List.cons_append, List.head?_cons, ne_eq,
        Option.some.injEq]
      rintro rfl
      exact absurd own (by decide)

theorem selectorParts_taken {parts : List (List Char)} (named : ∀ part ∈ parts, KeyPath.IsName part)
    (unselected : Unselected behind) (selector : String) :
    Takes caseSensitive (KeyPath.selectorText parts ++ behind) (selectorParts selector)
      (selector ++ String.ofList (KeyPath.selectorText parts)) behind := by
  refine Repeats.takes ?_
  induction parts generalizing selector with
  | nil =>
      have whole : selector ++ String.ofList (KeyPath.selectorText []) = selector := by
        simp [KeyPath.selectorText]
      rw [whole]
      exact .done ((selectorPart?_missing unselected).bind (.pure _))
  | cons part parts ih =>
      have name := named part (by simp)
      have others : ∀ other ∈ parts, KeyPath.IsName other := fun other member => named other (by simp [member])
      have colon := selectorText_head others unselected
      have text : KeyPath.selectorText (part :: parts) ++ behind =
          part ++ ':' :: (KeyPath.selectorText parts ++ behind) := by
        simp [KeyPath.selectorText]
      have whole : selector ++ String.ofList (KeyPath.selectorText (part :: parts)) =
          selector ++ String.ofList (part ++ [':']) ++ String.ofList (KeyPath.selectorText parts) := by
        rw [String.append_assoc, ← String.ofList_append]
        rfl
      rw [text, whole]
      refine .next ((selectorPart?_taken name colon).bind (.pure _)) ?_ (ih others _)
      rw [textWeight_append part, textWeight_cons (by decide : CharClass.skipped ':' = false)]
      omega

def Behind (words : List String) (text : List Char) : Prop :=
  ∀ word ∈ words, Silent word (text.dropWhile CharClass.skipped)

instance (words : List String) (text : List Char) : Decidable (Behind words text) :=
  inferInstanceAs (Decidable (∀ word ∈ words, _))

def suffixWords : List String := ["(", "[", ".", ":"]

theorem literal_behind {words : List String} (quiet : Behind words text) (word : String)
    (solid : Solid word) (member : word ∈ words) : Takes caseSensitive text (literal word) false text :=
  literal_missing word solid (quiet word member caseSensitive)

theorem functionalStep_done (quiet : Behind suffixWords text) (operand : Expression) :
    Takes caseSensitive text (functionalStep which nested operand) none text := by
  have suffix : Takes caseSensitive text (suffix? which nested operand) none text := by
    refine (literal_behind quiet "(" (by decide) (by decide)).bind ?_
    refine (literal_behind quiet "[" (by decide) (by decide)).bind ?_
    exact (literal_behind quiet "." (by decide) (by decide)).bind (.pure none)
  unfold functionalStep
  split
  · exact (selectorColon_missing (quiet ":" (by decide))).bind suffix
  · exact suffix

theorem silent_other (word : String) (symbolic : Symbolic word)
    (differs : (text.dropWhile CharClass.skipped).head? ≠ word.toList.head?) :
    Silent word (text.dropWhile CharClass.skipped) :=
  fun _ => startsWith_other word symbolic differs

theorem functionalStep_further {path name : String}
    (taken : Takes caseSensitive text (simple which nested) (.keyPath name) behind) :
    Takes caseSensitive ('.' :: text) (functionalStep which nested (.keyPath path))
      (some (.keyPath (path ++ "." ++ name))) behind := by
  have front : ∀ symbol ∈ ":([".toList,
      (('.' :: text).dropWhile CharClass.skipped).head? ≠ some symbol :=
    fun symbol => begins_other (head?_solid (by decide)) (by decide)
  refine (selectorColon_missing (silent_other ":" (by decide) (front ':' (by decide)))).bind ?_
  refine (literal_other "(" (by decide) (front '(' (by decide))).bind ?_
  refine (literal_other "[" (by decide) (front '[' (by decide))).bind ?_
  refine (literal_taken "." (by decide)).bind ?_
  have key : Takes caseSensitive text (furtherKey which nested (some path))
      (.keyPath (path ++ "." ++ name)) behind := taken.bind (.pure _)
  exact key.bind (.pure _)

theorem functionalStep_selector {path : String} {parts : List (List Char)}
    (named : ∀ part ∈ parts, KeyPath.IsName part) (unselected : Unselected behind)
    (colon : (KeyPath.selectorText parts ++ behind).head? ≠ some '=') :
    Takes caseSensitive (':' :: (KeyPath.selectorText parts ++ behind))
      (functionalStep which nested (.keyPath path))
      (some (.keyPath (path ++ String.ofList (':' :: KeyPath.selectorText parts)))) behind := by
  have whole : path ++ String.ofList (':' :: KeyPath.selectorText parts) =
      path ++ ":" ++ String.ofList (KeyPath.selectorText parts) := by
    rw [String.append_assoc, ← List.singleton_append, String.ofList_append]
  refine (selectorColon_taken colon).bind ?_
  rw [whole]
  exact (selectorParts_taken named unselected _).bind (.pure _)

theorem simple_component {name : List Char} (named : KeyPath.IsName name)
    (severed : KeyPath.Severed behind) :
    Takes caseSensitive (KeyPath.componentText name ++ behind) (simple which nested)
      (.keyPath (String.ofList name)) behind := by
  unfold KeyPath.componentText
  cases escapes : KeyPath.needsEscape name with
  | true => exact simple_escaped named severed.stops
  | false => exact simple_plain named escapes severed

theorem unselected_of_symbol {first : Char} (solid : CharClass.skipped first = false)
    (unnamed : CharClass.identifier first = false) (differs : first ≠ '=') :
    Unselected (first :: text) := by
  refine ⟨fun begins => ?_, by simpa using differs⟩
  rw [head?_solid solid, Option.any_some, unnamed] at begins
  cases begins

theorem severed_of_symbol {first : Char} (symbol : Scanner.isSymbol first = true)
    (unnamed : CharClass.identifier first = false) : KeyPath.Severed (first :: text) := by
  simp [KeyPath.Severed, symbol, unnamed]

section

variable {path : List Char} {last : Expression}

theorem keyPath_further (written : KeyPath.Written path) (severed : KeyPath.Severed behind)
    (unselected : Unselected behind) (before : String)
    (repeats : Repeats caseSensitive behind (functionalStep which nested)
      (.keyPath (before ++ "." ++ String.ofList path)) last rest) :
    Repeats caseSensitive ('.' :: ((KeyPath.text (String.ofList path)).toList ++ behind))
      (functionalStep which nested) (.keyPath before) last rest := by
  induction written generalizing before behind with
  | name named =>
      rw [KeyPath.text_solid named.solid, String.toList_ofList]
      refine .next (functionalStep_further (simple_component named severed)) ?_ repeats
      rw [textWeight_cons (by decide), textWeight_append]
      omega
  | @sigil name named =>
      rw [KeyPath.text_sigil named, String.toList_ofList]
      refine .next (functionalStep_further (simple_at named severed.stops)) ?_ repeats
      rw [textWeight_cons (by decide), List.cons_append, textWeight_cons (by decide), textWeight_append]
      omega
  | @selector path parts written named ih =>
      rw [KeyPath.text_append_selector path (KeyPath.selectorText_solid named), String.toList_append,
        String.toList_ofList, List.append_assoc]
      refine ih (severed_of_symbol (by decide) (by decide))
        (unselected_of_symbol (by decide) (by decide) (by decide)) before ?_
      have whole : before ++ "." ++ String.ofList (path ++ ':' :: KeyPath.selectorText parts) =
          before ++ "." ++ String.ofList path ++ String.ofList (':' :: KeyPath.selectorText parts) := by
        simp only [String.ofList_append, String.append_assoc]
      rw [whole] at repeats
      refine .next (functionalStep_selector named unselected (selectorText_head named unselected)) ?_
        repeats
      show textWeight behind < textWeight (':' :: (KeyPath.selectorText parts ++ behind))
      rw [textWeight_cons (by decide), textWeight_append]
      omega
  | @further path other written inner ih ihOther =>
      rw [KeyPath.text_append, String.toList_append, String.toList_append, List.append_assoc,
        List.append_assoc]
      refine ih (severed_of_symbol (by decide) (by decide))
        (unselected_of_symbol (by decide) (by decide) (by decide)) before ?_
      refine ihOther severed unselected _ ?_
      have whole : before ++ "." ++ String.ofList (path ++ '.' :: other) =
          before ++ "." ++ String.ofList path ++ "." ++ String.ofList other := by
        rw [← List.singleton_append, String.ofList_append, String.ofList_append]
        simp only [String.append_assoc]
      rwa [whole] at repeats

/-- The text of a key path as an operand, and then what follows it. -/
theorem keyPath_opens (written : KeyPath.Written path) (severed : KeyPath.Severed behind)
    (unselected : Unselected behind)
    (repeats : Repeats caseSensitive behind (functionalStep which nested)
      (.keyPath (String.ofList path)) last rest) :
    Takes caseSensitive ((KeyPath.text (String.ofList path)).toList ++ behind)
      (functional which nested) last rest := by
  induction written generalizing behind with
  | name named =>
      rw [KeyPath.text_solid named.solid, String.toList_ofList]
      exact (simple_component named severed).bind repeats.takes
  | @sigil name named =>
      rw [KeyPath.text_sigil named, String.toList_ofList]
      exact (simple_at named severed.stops).bind repeats.takes
  | @selector path parts written named ih =>
      rw [KeyPath.text_append_selector path (KeyPath.selectorText_solid named), String.toList_append,
        String.toList_ofList, List.append_assoc]
      rw [String.ofList_append] at repeats
      refine ih (severed_of_symbol (by decide) (by decide))
        (unselected_of_symbol (by decide) (by decide) (by decide)) ?_
      refine .next (functionalStep_selector named unselected (selectorText_head named unselected)) ?_
        repeats
      show textWeight behind < textWeight (':' :: (KeyPath.selectorText parts ++ behind))
      rw [textWeight_cons (by decide), textWeight_append]
      omega
  | @further path other written inner ih ihOther =>
      rw [KeyPath.text_append, String.toList_append, String.toList_append, List.append_assoc,
        List.append_assoc]
      refine ih (severed_of_symbol (by decide) (by decide))
        (unselected_of_symbol (by decide) (by decide) (by decide)) ?_
      refine keyPath_further inner severed unselected _ ?_
      have whole : String.ofList (path ++ '.' :: other) =
          String.ofList path ++ "." ++ String.ofList other := by
        rw [← List.singleton_append, String.ofList_append, String.ofList_append]
        simp only [String.append_assoc]
      rwa [whole] at repeats

end

end Parse

end PredicateRules
