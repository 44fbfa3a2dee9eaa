import PredicateRules.Proofs.Reading.Predicate

/-!
What steps take from the front of a known text. A step is described by the text before it, its result
and the text behind it, all of them up to what is skipped; so the steps of a rule of the grammar are
put together without a word on where in the text they stand.
-/

namespace PredicateRules

open PredicateRules.Parser

/-- The characters of a text that are not skipped. Reading goes on only by taking some of them. -/
def textWeight (text : List Char) : Nat := text.countP fun character => !CharClass.skipped character

@[simp]
theorem textWeight_append (text rest : List Char) :
    textWeight (text ++ rest) = textWeight text + textWeight rest :=
  List.countP_append

theorem textWeight_cons {character : Char} (solid : CharClass.skipped character = false)
    (text : List Char) : textWeight (character :: text) = textWeight text + 1 := by
  simp [textWeight, solid]

@[simp]
theorem textWeight_space (text : List Char) : textWeight (' ' :: text) = textWeight text := by
  simp [textWeight, CharClass.skipped]

theorem textWeight_dropWhile (text : List Char) :
    textWeight (text.dropWhile CharClass.skipped) = textWeight text := by
  induction text with
  | nil => rfl
  | cons character text ih =>
      cases blank : CharClass.skipped character with
      | true => simpa [blank, textWeight] using ih
      | false => simp [blank]

theorem textWeight_le_length (text : List Char) :
    textWeight text ≤ (text.dropWhile CharClass.skipped).length := by
  rw [← textWeight_dropWhile]
  exact List.countP_le_length

/-- The text comes next, up to what is skipped in front of it. -/
structure Parser.Facing (caseSensitive : Bool) (text : List Char) (parser : Parser) : Prop where
  skips : parser.scanner.skips = some CharClass.skipped
  caseSensitive : parser.scanner.caseSensitive = caseSensitive
  ahead : parser.scanner.ahead = text.dropWhile CharClass.skipped

theorem Parser.facing_ofText (text : String) (arguments : List Value) (caseSensitive : Bool) :
    (Parser.ofText text arguments caseSensitive).Facing caseSensitive text.toList :=
  ⟨rfl, rfl, rfl⟩

namespace Parse

variable {α β : Type} {caseSensitive : Bool} {text rest : List Char}

/-- Before `text` the step gives the result and leads to `rest`, in the same whole text. -/
def Takes (caseSensitive : Bool) (text : List Char) (step : Parse α) (result : α)
    (rest : List Char) : Prop :=
  ∀ parser : Parser, parser.Facing caseSensitive text →
    ∃ stop, step parser = .ok result stop ∧ stop.Facing caseSensitive rest ∧
      stop.scanner.text = parser.scanner.text

/-- Before `text` the step fails, in a state that can be put back. -/
def Rejects (caseSensitive : Bool) (text : List Char) (step : Parse α) : Prop :=
  ∀ parser : Parser, parser.Facing caseSensitive text →
    ∃ error stop, step parser = .error error stop ∧
      stop.scanner.skips = some CharClass.skipped ∧ stop.scanner.caseSensitive = caseSensitive

namespace Takes

theorem pure (result : α) : Takes caseSensitive text (Pure.pure result) result text :=
  fun parser facing => ⟨parser, rfl, facing, rfl⟩

theorem bind {first : Parse α} {found : α} {between : List Char} {next : α → Parse β} {result : β}
    (before : Takes caseSensitive text first found between)
    (after : Takes caseSensitive between (next found) result rest) :
    Takes caseSensitive text (first >>= next) result rest := by
  intro parser facing
  obtain ⟨middle, same, there, whole⟩ := before parser facing
  obtain ⟨stop, sameNext, behind, wholeNext⟩ := after middle there
  refine ⟨stop, ?_, behind, wholeNext.trans whole⟩
  simp only [Bind.bind, EStateM.bind, same]
  exact sameNext

theorem rejects {first : Parse α} {found : α} {between : List Char} {next : α → Parse β}
    (before : Takes caseSensitive text first found between)
    (after : Rejects caseSensitive between (next found)) :
    Rejects caseSensitive text (first >>= next) := by
  intro parser facing
  obtain ⟨middle, same, there, _⟩ := before parser facing
  obtain ⟨error, stop, failed, kept⟩ := after middle there
  refine ⟨error, stop, ?_, kept⟩
  simp only [Bind.bind, EStateM.bind, same]
  exact failed

theorem behind_gap {step : Parse α} {result : α} {gap : List Char}
    (skipped : ∀ character ∈ gap, CharClass.skipped character = true)
    (takes : Takes caseSensitive text step result rest) :
    Takes caseSensitive (gap ++ text) step result rest := by
  intro parser facing
  refine takes parser ⟨facing.skips, facing.caseSensitive, facing.ahead.trans ?_⟩
  exact List.dropWhile_append_of_pos skipped

theorem before_gap {step : Parse α} {result : α} {gap : List Char}
    (skipped : ∀ character ∈ gap, CharClass.skipped character = true)
    (takes : Takes caseSensitive text step result (gap ++ rest)) :
    Takes caseSensitive text step result rest := by
  intro parser facing
  obtain ⟨stop, same, there, whole⟩ := takes parser facing
  refine ⟨stop, same, ⟨there.skips, there.caseSensitive, there.ahead.trans ?_⟩, whole⟩
  exact List.dropWhile_append_of_pos skipped

theorem after_space {step : Parse α} {result : α} (takes : Takes caseSensitive text step result rest) :
    Takes caseSensitive (' ' :: text) step result rest := by
  have blank : ∀ character ∈ [' '], CharClass.skipped character = true := by decide
  exact takes.behind_gap blank

theorem before_space {step : Parse α} {result : α}
    (takes : Takes caseSensitive text step result (' ' :: rest)) :
    Takes caseSensitive text step result rest := by
  have blank : ∀ character ∈ [' '], CharClass.skipped character = true := by decide
  exact takes.before_gap blank

end Takes

namespace Rejects

theorem bind {first : Parse α} {next : α → Parse β} (rejects : Rejects caseSensitive text first) :
    Rejects caseSensitive text (first >>= next) := by
  intro parser facing
  obtain ⟨error, stop, failed, kept⟩ := rejects parser facing
  exact ⟨error, stop, by simp only [Bind.bind, EStateM.bind, failed], kept⟩

theorem fail (error : Location → ParseError) : Rejects caseSensitive text (Parse.fail error : Parse α) :=
  fun parser facing => ⟨_, parser, rfl, facing.skips, facing.caseSensitive⟩

end Rejects

theorem takes_scanner {next : Scanner → Parse α} {result : α}
    (takes : ∀ before, Takes caseSensitive text (next before) result rest) :
    Takes caseSensitive text (scanner >>= next) result rest :=
  fun parser facing => takes parser.scanner parser facing

theorem takes_scan {operation : Scanner → α × Scanner} {result : α}
    (scans : ∀ scanner : Scanner, scanner.skips = some CharClass.skipped →
      scanner.caseSensitive = caseSensitive → scanner.ahead = text.dropWhile CharClass.skipped →
      ∃ stop crossed, operation scanner = (result, stop) ∧ scanner.Moves stop crossed ∧
        stop.ahead = rest.dropWhile CharClass.skipped) :
    Takes caseSensitive text (scan operation) result rest := by
  intro parser facing
  obtain ⟨stop, crossed, same, moves, ahead⟩ :=
    scans parser.scanner facing.skips facing.caseSensitive facing.ahead
  refine ⟨parser.moved stop, ?_, ⟨moves.skips.trans facing.skips,
    moves.caseSensitive.trans facing.caseSensitive, ahead⟩, moves.text⟩
  simp only [scan, same]
  rfl

/-- The word begins with something that is not skipped. -/
def Solid (word : String) : Prop :=
  word.toList.head?.any (fun character => !CharClass.skipped character) = true

instance (word : String) : Decidable (Solid word) := inferInstanceAs (Decidable (_ = true))

theorem Solid.dropWhile {word : String} (solid : Solid word) (rest : List Char) :
    (word.toList ++ rest).dropWhile CharClass.skipped = word.toList ++ rest := by
  unfold Solid at solid
  cases letters : word.toList with
  | nil => simp [letters] at solid
  | cons first letters' =>
      have begins : CharClass.skipped first = false := by simpa [letters] using solid
      simp [begins]

theorem ahead_forward_drop {scanner : Scanner} (skips : scanner.skips = some CharClass.skipped)
    (count : Nat) : (scanner.skipIgnored.forward count).ahead =
      (scanner.ahead.drop count).dropWhile CharClass.skipped := by
  unfold Scanner.ahead Scanner.forward
  rw [Scanner.remaining_skipIgnored skips]
  rfl

theorem ahead_forward {scanner : Scanner} (skips : scanner.skips = some CharClass.skipped)
    {word rest : List Char} (ahead : scanner.ahead = word ++ rest) :
    (scanner.skipIgnored.forward word.length).ahead = rest.dropWhile CharClass.skipped := by
  rw [ahead_forward_drop skips, ahead, List.drop_left]

theorem ahead_skipIgnored {scanner : Scanner} (skips : scanner.skips = some CharClass.skipped) :
    scanner.skipIgnored.ahead = scanner.ahead :=
  Scanner.ahead_of_remaining (Scanner.remaining_skipIgnored skips)

/-- Whether a text goes on with a word that is not the front of a longer one. -/
def meetsWord (caseSensitive : Bool) (word text : List Char) : Bool :=
  Scanner.startsWith caseSensitive word text &&
    !(word.getLast?.any CharClass.continuesKeyword &&
      (text.drop word.length).head?.any CharClass.continuesKeyword)

theorem meets_eq {scanner : Scanner} {word : String} (solid : Solid word) :
    scanner.meets word =
      Scanner.startsWith scanner.caseSensitive word.toList scanner.ahead := by
  unfold Solid at solid
  unfold Scanner.meets
  cases letters : word.toList with
  | nil => simp [letters] at solid
  | cons first letters' => cases scanner.ahead <;> simp [Scanner.startsWith]

theorem meetsKeyword_eq {scanner : Scanner} {word : String} (solid : Solid word) :
    scanner.meetsKeyword word =
      meetsWord scanner.caseSensitive word.toList scanner.ahead := by
  unfold Scanner.meetsKeyword meetsWord
  rw [meets_eq solid]

section

variable (word : String) (solid : Solid word)

include solid

theorem literal_taken : Takes caseSensitive (word.toList ++ rest) (literal word) true rest := by
  refine takes_scan fun scanner skips sensitive ahead => ?_
  rw [solid.dropWhile] at ahead
  refine ⟨_, _, ?_, Scanner.forward_skipIgnored_moves skips word.toList.length,
    ahead_forward skips ahead⟩
  rw [Scanner.scanLiteral_eq skips, meets_eq solid, ahead, Scanner.startsWith_self]
  rfl

theorem literal_missing
    (missing : Scanner.startsWith caseSensitive word.toList (text.dropWhile CharClass.skipped) = false) :
    Takes caseSensitive text (literal word) false text := by
  refine takes_scan fun scanner skips sensitive ahead => ?_
  refine ⟨_, _, ?_, Scanner.skipIgnored_moves skips, (ahead_skipIgnored skips).trans ahead⟩
  rw [Scanner.scanLiteral_eq skips, meets_eq solid, ahead, sensitive, missing]
  rfl

theorem keyword_met
    (met : meetsWord caseSensitive word.toList (text.dropWhile CharClass.skipped) = true) :
    Takes caseSensitive text (keyword word) true
      ((text.dropWhile CharClass.skipped).drop word.toList.length) := by
  refine takes_scan fun scanner skips sensitive ahead => ?_
  refine ⟨_, _, ?_, Scanner.forward_skipIgnored_moves skips word.toList.length,
    ahead ▸ ahead_forward_drop skips word.toList.length⟩
  rw [Scanner.scanKeyword_eq skips, meetsKeyword_eq solid, ahead, sensitive, met]
  rfl

theorem keyword_taken (stops : word.toList.getLast?.any CharClass.continuesKeyword = true →
      rest.head?.any CharClass.continuesKeyword = false) :
    Takes caseSensitive (word.toList ++ rest) (keyword word) true rest := by
  have met : meetsWord caseSensitive word.toList
      ((word.toList ++ rest).dropWhile CharClass.skipped) = true := by
    rw [solid.dropWhile]
    unfold meetsWord
    rw [Scanner.startsWith_self, List.drop_left]
    cases last : word.toList.getLast?.any CharClass.continuesKeyword with
    | false => rfl
    | true => simp [stops last]
  have taken := keyword_met word solid met
  rwa [solid.dropWhile, List.drop_left] at taken

theorem keyword_missing
    (missing : meetsWord caseSensitive word.toList (text.dropWhile CharClass.skipped) = false) :
    Takes caseSensitive text (keyword word) false text := by
  refine takes_scan fun scanner skips sensitive ahead => ?_
  rw [Scanner.scanKeyword_eq skips, meetsKeyword_eq solid, ahead, sensitive, missing]
  cases scanner.meets word with
  | false =>
      exact ⟨_, _, rfl, Scanner.skipIgnored_moves skips, (ahead_skipIgnored skips).trans ahead⟩
  | true =>
      have moves := Scanner.forward_skipIgnored_moves skips word.toList.length
      exact ⟨_, _, rfl, Scanner.backTo_moves _ _ moves.skips moves.caseSensitive, ahead⟩

theorem expect_taken (construct : String) :
    Takes caseSensitive (word.toList ++ rest) (expect word construct) () rest :=
  (literal_taken word solid).bind (.pure ())

theorem expect_rejected (construct : String)
    (missing : Scanner.startsWith caseSensitive word.toList (text.dropWhile CharClass.skipped) = false) :
    Rejects caseSensitive text (expect word construct) :=
  (literal_missing word solid missing).rejects (.fail _)

end

def firstMet (caseSensitive : Bool) (words : List (String × α)) (text : List Char) :
    Option (String × α) :=
  words.find? fun entry => meetsWord caseSensitive entry.1.toList text

theorem firstKeyword_missing {words : List (String × α)} (solid : ∀ entry ∈ words, Solid entry.1)
    (missing : firstMet caseSensitive words (text.dropWhile CharClass.skipped) = none) :
    Takes caseSensitive text (firstKeyword words) none text := by
  induction words with
  | nil => exact .pure none
  | cons entry words ih =>
      simp only [firstMet, List.find?_cons] at missing
      split at missing
      · cases missing
      next unmet =>
        exact (keyword_missing entry.1 (solid entry (by simp)) unmet).bind
          (ih (fun other member => solid other (by simp [member])) missing)

theorem firstKeyword_met {words : List (String × α)} (solid : ∀ entry ∈ words, Solid entry.1)
    {word : String} {meaning : α}
    (found : firstMet caseSensitive words (text.dropWhile CharClass.skipped) = some (word, meaning)) :
    Takes caseSensitive text (firstKeyword words) (some meaning)
      ((text.dropWhile CharClass.skipped).drop word.toList.length) := by
  induction words with
  | nil => cases found
  | cons entry words ih =>
      have solidFirst := solid entry (by simp)
      simp only [firstMet, List.find?_cons] at found
      split at found
      next met =>
        obtain rfl := Option.some.inj found
        exact (keyword_met word solidFirst met).bind (.pure _)
      next unmet =>
        exact (keyword_missing entry.1 solidFirst unmet).bind
          (ih (fun other member => solid other (by simp [member])) found)

theorem firstKeyword_taken {words : List (String × α)} (solid : ∀ entry ∈ words, Solid entry.1)
    {word : String} {meaning : α}
    (found : firstMet caseSensitive words (word.toList ++ rest) = some (word, meaning)) :
    Takes caseSensitive (word.toList ++ rest) (firstKeyword words) (some meaning) rest := by
  have front := (solid (word, meaning) (List.mem_of_find?_eq_some found)).dropWhile rest
  have taken := firstKeyword_met solid (front.symm ▸ found)
  rwa [front, List.drop_left] at taken

section

variable {set : CharClass} {run : List Char} (solid : ∀ character ∈ CharClass.blanks, set character = false)

include solid

theorem scanCharacters_taken (some : run ≠ []) (inside : ∀ character ∈ run, set character = true)
    (stops : rest.head?.any set = false) :
    Takes caseSensitive (run ++ rest) (scan fun scanner => scanner.scanCharacters set)
      (Option.some run) rest := by
  refine takes_scan fun scanner skips sensitive ahead => ?_
  have front : (run ++ rest).dropWhile CharClass.skipped = run ++ rest := by
    cases run with
    | nil => exact absurd rfl some
    | cons first run => simp [CharClass.solid solid (inside first (by simp))]
  have taken : scanner.ahead.takeWhile set = run := by
    rw [ahead, front, (takeWhile_stop inside stops).1]
  obtain ⟨stop, same, moves⟩ := Scanner.scanCharacters_some skips solid (taken ▸ some)
  rw [taken] at same moves
  refine ⟨stop, _, same, moves, ?_⟩
  have behind := moves.ahead
  rw [ahead, front] at behind
  exact congrArg (List.dropWhile CharClass.skipped) (List.append_cancel_left behind).symm

theorem characters_taken (error : Location → ParseError) (some : run ≠ [])
    (inside : ∀ character ∈ run, set character = true) (stops : rest.head?.any set = false) :
    Takes caseSensitive (run ++ rest) (characters set error) run rest :=
  (scanCharacters_taken solid some inside stops).bind (.pure run)

omit solid in
theorem characters_rejected (error : Location → ParseError)
    (missing : (text.dropWhile CharClass.skipped).head?.any set = false) :
    Rejects caseSensitive text (characters set error) := by
  intro parser facing
  have none : parser.scanner.ahead.takeWhile set = [] := by
    have empty : ∀ character ∈ ([] : List Char), set character = true := by simp
    rw [facing.ahead]
    exact (takeWhile_stop empty missing).1
  obtain ⟨cause, stop, same, crossed, moves⟩ := Setting.characters_none error facing.skips none
  exact ⟨cause, _, same, moves.skips.trans facing.skips,
    moves.caseSensitive.trans facing.caseSensitive⟩

end

theorem scanNumeral_taken {numeral : Numeral}
    (scanned : Numeral.scan (text.dropWhile CharClass.skipped) = some (numeral, rest)) :
    Takes caseSensitive text (scan Scanner.scanNumeral) (some numeral) rest := by
  refine takes_scan fun scanner skips sensitive ahead => ?_
  have whole := Numeral.text_append_of_scan scanned
  refine ⟨_, _, ?_, Scanner.forward_skipIgnored_moves skips numeral.text.length,
    ahead_forward skips (ahead.trans whole.symm)⟩
  rw [Scanner.scanNumeral_eq skips, ahead, scanned]

theorem scanNumeral_missing (missing : Numeral.scan (text.dropWhile CharClass.skipped) = none) :
    Takes caseSensitive text (scan Scanner.scanNumeral) none text := by
  refine takes_scan fun scanner skips sensitive ahead => ?_
  refine ⟨_, _, ?_, Scanner.skipIgnored_moves skips, (ahead_skipIgnored skips).trans ahead⟩
  rw [Scanner.scanNumeral_eq skips, ahead, missing]

theorem quotedBody_taken {word : String} {mark : Char} (quote : Setting.Quote word mark) (kind : String)
    {body : List Char} (unquoted : mark ∉ body) {parser : Parser}
    (remaining : parser.scanner.remaining = body ++ mark :: rest) :
    ∃ stop, quotedBody word kind parser = .ok (String.ofList body) (parser.moved stop) ∧
      parser.scanner.Moves stop (body ++ [mark]) ∧
      stop.ahead = rest.dropWhile CharClass.skipped := by
  obtain ⟨after, crossed, moves, outcome⟩ := Setting.quotedBody_eq quote kind parser
  have inside : ∀ character ∈ body, (character != mark) = true := by
    intro character member
    simp only [bne_iff_ne]
    rintro rfl
    exact unquoted member
  have front : ((body ++ mark :: rest).takeWhile fun character => character != mark) = body :=
    (takeWhile_stop inside (by simp)).1
  rw [if_pos (by simp [remaining]), remaining, front] at outcome
  obtain ⟨same, rfl⟩ := outcome
  refine ⟨after, same, moves, ?_⟩
  have behind := moves.remaining
  rw [remaining, List.append_assoc] at behind
  have tail := List.append_cancel_left behind
  simp only [List.cons_append, List.nil_append, List.cons.injEq, true_and] at tail
  rw [Scanner.ahead, ← tail]

theorem quotedBy_taken {word : String} {mark : Char} (quote : Setting.Quote word mark) (kind : String)
    {body : String} (unquoted : mark ∉ body.toList) (solid : Solid word) :
    Takes caseSensitive (mark :: (body.toList ++ mark :: rest)) (quotedBy word kind)
      (some (.constant (.string body))) rest := by
  intro parser facing
  have ahead : parser.scanner.ahead = word.toList ++ (body.toList ++ mark :: rest) := by
    have front := solid.dropWhile (body.toList ++ mark :: rest)
    rw [quote.word] at front ⊢
    exact facing.ahead.trans front
  have opening := Scanner.forward_skipIgnored_moves facing.skips word.toList.length
  have behind : (parser.moved (parser.scanner.skipIgnored.forward
      word.toList.length)).scanner.remaining = body.toList ++ mark :: rest := by
    unfold Parser.moved Scanner.forward
    rw [Scanner.remaining_skipIgnored facing.skips, ahead, List.drop_left]
  obtain ⟨stop, same, moves, rest⟩ := quotedBody_taken quote kind unquoted behind
  have all := opening.trans moves
  refine ⟨parser.moved stop, ?_, ⟨all.skips.trans facing.skips,
    all.caseSensitive.trans facing.caseSensitive, rest⟩, all.text⟩
  rw [Setting.quotedBy_eq kind facing.skips, meets_eq solid, ahead, Scanner.startsWith_self, same, String.ofList_toList]
  rfl

theorem quotedBy_missing {word : String} (solid : Solid word) (kind : String)
    (missing : Scanner.startsWith caseSensitive word.toList (text.dropWhile CharClass.skipped) = false) :
    Takes caseSensitive text (quotedBy word kind) none text :=
  (literal_missing word solid missing).bind (.pure none)

theorem expectEnd_taken (blank : text.dropWhile CharClass.skipped = []) :
    Takes caseSensitive text expectEnd () text := by
  have found : Takes caseSensitive text (scan Scanner.atEnd) true text := by
    refine takes_scan fun scanner skips _ ahead => ?_
    refine ⟨_, _, ?_, Scanner.backTo_skipIgnored_moves skips, ahead⟩
    rw [Scanner.atEnd_eq skips, ahead, blank]
    rfl
  exact found.bind (.pure ())

theorem expectEnd_rejected (more : text.dropWhile CharClass.skipped ≠ []) :
    Rejects caseSensitive text expectEnd := by
  have found : Takes caseSensitive text (scan Scanner.atEnd) false text := by
    refine takes_scan fun scanner skips _ ahead => ?_
    refine ⟨_, _, ?_, Scanner.backTo_skipIgnored_moves skips, ahead⟩
    rw [Scanner.atEnd_eq skips, ahead, List.isEmpty_eq_false_iff.mpr more]
  exact found.rejects (.fail _)

/-- A recursion takes what it does from any depth that is enough for the text. -/
def Recurs (caseSensitive : Bool) (text : List Char) (step : (α → Parse β) → α → Parse β)
    (start : α) (result : β) (rest : List Char) : Prop :=
  ∀ depth, textWeight text < depth →
    Takes caseSensitive text (recurseTo step depth start) result rest

theorem Recurs.takes {step : (α → Parse β) → α → Parse β} {start : α} {result : β}
    (recurs : Recurs caseSensitive text step start result rest) :
    Takes caseSensitive text (recurse step start) result rest := by
  intro parser facing
  have length := parser.ahead_length
  have weight := textWeight_le_length text
  rw [← facing.ahead] at weight
  exact recurs (parser.scanner.remaining.length + 1) (by omega) parser facing

/-- What a repetition gives from `current` on. -/
def Repeats (caseSensitive : Bool) (text : List Char) (step : α → Parse (Option α)) (current last : α)
    (rest : List Char) : Prop :=
  Recurs caseSensitive text (fun again current => do
    match ← step current with
    | some next => again next
    | none => return current) current last rest

namespace Repeats

variable {step : α → Parse (Option α)} {current further last : α} {between : List Char}

theorem done (finished : Takes caseSensitive text (step current) none rest) :
    Repeats caseSensitive text step current current rest := by
  intro depth enough
  obtain ⟨depth, rfl⟩ : ∃ less, depth = less + 1 := ⟨depth - 1, by omega⟩
  exact finished.bind (.pure current)

theorem next (taken : Takes caseSensitive text (step current) (some further) between)
    (less : textWeight between < textWeight text)
    (repeats : Repeats caseSensitive between step further last rest) :
    Repeats caseSensitive text step current last rest := by
  intro depth enough
  obtain ⟨depth, rfl⟩ : ∃ less, depth = less + 1 := ⟨depth - 1, by omega⟩
  exact taken.bind (repeats depth (by omega))

theorem takes (repeats : Repeats caseSensitive text step current last rest) :
    Takes caseSensitive text (repeatWhile step current) last rest :=
  Recurs.takes repeats

end Repeats

end Parse

end PredicateRules
