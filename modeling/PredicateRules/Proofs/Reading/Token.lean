import PredicateRules.Grammar.Predicate
import PredicateRules.Proofs.Reading.Setting

namespace PredicateRules

open PredicateRules.Parser

namespace Parser

theorem lexis_moves {start stop : Parser} {crossed : List Char}
    (moves : start.scanner.Moves stop.scanner crossed) :
    stop.lexis = crossed.foldl Lexis.step start.lexis := by
  unfold lexis
  rw [moves.passed, Lexis.after_append]

def moved (parser : Parser) (scanner : Scanner) : Parser := { parser with scanner := scanner }

theorem advance_moved {parser : Parser} {scanner : Scanner} {crossed : List Char}
    (moves : parser.scanner.Moves scanner crossed)
    (placeholders : (parser.moved scanner).lexis.placeholders = parser.lexis.placeholders) :
    Advance parser (parser.moved scanner) where
  moves := ⟨crossed, moves⟩
  arguments := rfl
  taken := by
    show (parser.moved scanner).lexis.placeholders + parser.nextArgument ≤
      parser.lexis.placeholders + parser.nextArgument
    omega

theorem kept_moved {parser : Parser} {scanner : Scanner} {crossed : List Char}
    (moves : parser.scanner.Moves scanner crossed) : Kept parser (parser.moved scanner) :=
  ⟨moves.skips, moves.caseSensitive, rfl, Nat.le_refl _⟩

def back (stop start : Parser) : Parser := stop.moved (stop.scanner.backTo start.scanner)

theorem Kept.advance_back {start stop : Parser} (kept : Kept start stop) :
    Advance start (stop.back start) where
  moves := ⟨[], Scanner.backTo_moves _ _ kept.skips kept.caseSensitive⟩
  arguments := kept.arguments
  taken := Nat.add_le_add_left kept.taken _

theorem At.back {room depth : Nat} {start stop : Parser} (place : start.At room depth)
    (kept : Kept start stop) : (stop.back start).At room depth :=
  ⟨kept.skips.trans place.skips, place.room, place.outside, place.depth⟩

theorem idle_gap (scanner : Scanner) :
    ∀ character ∈ scanner.gap, (Mark.of character).idle = true := by
  intro character member
  exact Mark.idle_of_skipped (List.all_eq_true.mp List.all_takeWhile character member)

theorem lexis_at_end {parser : Parser} (outside : parser.lexis.quote = none)
    (ends : parser.scanner.ahead = []) :
    Lexis.after parser.scanner.text.reverse = parser.lexis := by
  have gap : parser.scanner.gap = parser.scanner.remaining := by
    have whole := parser.scanner.gap_append_ahead
    rwa [ends, List.append_nil] at whole
  have text : parser.scanner.text.reverse =
      parser.scanner.remaining.reverse ++ parser.scanner.passed := by
    simp [Scanner.text]
  rw [text, Lexis.after_append, ← gap]
  exact Lexis.foldl_idle outside (idle_gap parser.scanner)

end Parser

namespace Setting

variable {setting : Setting}

theorem Related.moved {start longer stop longerStop : Parser} (related : setting.Related start longer)
    (advance : Advance start stop) (advanceLonger : ∃ crossed, longer.scanner.Moves longerStop.scanner crossed)
    (arguments : longerStop.arguments = longer.arguments)
    (taken : longerStop.nextArgument = stop.nextArgument)
    (counted : stop.nextArgument ≤ stop.lexis.placeholders)
    (ahead : longerStop.scanner.ahead =
      (stop.scanner.remaining ++ setting.back).dropWhile CharClass.skipped) :
    setting.Related stop longerStop := by
  obtain ⟨crossed, moves⟩ := advanceLonger
  have kept := advance.kept
  exact {
    text := by rw [moves.text, related.text, advance.text]
    ahead := ahead
    skips := moves.skips.trans related.skips
    caseSensitive := (moves.caseSensitive.trans related.caseSensitive).trans kept.caseSensitive.symm
    arguments := (arguments.trans related.arguments).trans kept.arguments.symm
    taken := taken
    counted := by
      have := advance.taken
      have := related.counted
      omega
    closed := by
      rw [advance.text]
      exact related.closed }

/-- Nothing is ahead only outside of brackets, if the text goes on at all. -/
theorem Related.at_end {room depth : Nat} {parser longer : Parser}
    (related : setting.Related parser longer) (place : parser.At room depth)
    (none : parser.scanner.ahead = []) : depth = 0 ∨ setting.back = [] := by
  by_cases continues : setting.back = []
  · exact .inr continues
  · have closed := (related.closed continues).2
    rw [lexis_at_end place.outside none] at closed
    exact .inl (place.depth.symm.trans closed)

theorem ahead_append (scanner : Scanner) (back : List Char) :
    (scanner.ahead ++ back).dropWhile CharClass.skipped =
      (scanner.remaining ++ back).dropWhile CharClass.skipped := by
  have skipped : ∀ character ∈ scanner.gap, CharClass.skipped character = true :=
    List.all_eq_true.mp List.all_takeWhile
  rw [← scanner.gap_append_ahead, List.append_assoc, List.dropWhile_append_of_pos skipped]

theorem follows_scan {operation : Scanner → α × Scanner} {base : Nat} {pre : Parser → Prop}
    {post : α → Parser → Prop}
    (reads : ∀ start, pre start →
      Advance start (start.moved (operation start.scanner).2) ∧
        post (operation start.scanner).1 (start.moved (operation start.scanner).2))
    (mirrors : ∀ start longer, pre start → setting.Related start longer →
      (operation longer.scanner).1 = (operation start.scanner).1 ∧
        (∃ crossed, longer.scanner.Moves (operation longer.scanner).2 crossed) ∧
        (operation longer.scanner).2.ahead =
          ((operation start.scanner).2.remaining ++ setting.back).dropWhile CharClass.skipped) :
    setting.Follows base pre (Parse.scan operation) (Parse.scan operation) post where
  reads start place := reads start place
  limits _ _ _ := Nat.le_max_left _ _
  mirrors start longer place related := by
    intro counted
    obtain ⟨same, moves, ahead⟩ := mirrors start longer place related
    refine ⟨longer.moved (operation longer.scanner).2, ?_, ?_⟩
    · exact congrArg (fun result => EStateM.Result.ok result _) same
    · exact related.moved (reads start place).1 moves rfl related.taken counted ahead

/-- A word without quotation marks and placeholders that leads from a depth to another. -/
structure Word (word : String) (depth stop : Nat) : Prop where
  nonempty : word.toList ≠ []
  solid : ∀ character ∈ word.toList, Mark.of character ≠ .space
  unquoted : ∀ character ∈ word.toList, (Mark.of character).isQuote = false
  effect : ∀ count, word.toList.foldl Lexis.step ⟨none, depth, count⟩ = ⟨none, stop, count⟩

/-- A word that leaves every depth as it is. -/
def Even (word : String) : Prop :=
  word.toList ≠ [] ∧ ∀ character ∈ word.toList,
    (Mark.of character).idle = true ∧ Mark.of character ≠ .space

instance (word : String) : Decidable (Even word) := inferInstanceAs (Decidable (_ ∧ _))

theorem Word.of_even {word : String} (even : Even word) (depth : Nat) : Word word depth depth where
  nonempty := even.1
  solid character member := (even.2 character member).2
  unquoted character member := by
    have idle := (even.2 character member).1
    revert idle
    cases Mark.of character with
    | quote mark => exact fun idle => absurd idle Bool.false_ne_true
    | _ => exact fun _ => rfl
  effect count := Lexis.foldl_idle rfl fun character member => (even.2 character member).1

theorem Word.opening {word : String} {character : Char} (single : word.toList = [character])
    (mark : Mark.of character = .opening) (depth : Nat) : Word word depth (depth + 1) where
  nonempty := by simp [single]
  solid := by simp [single, mark]
  unquoted := by simp [single, mark, Mark.isQuote]
  effect count := by
    rw [single]
    simp only [List.foldl_cons, List.foldl_nil, Lexis.step, mark]

theorem Word.closing {word : String} {character : Char} (single : word.toList = [character])
    (mark : Mark.of character = .closing) (depth : Nat) : Word word (depth + 1) depth where
  nonempty := by simp [single]
  solid := by simp [single, mark]
  unquoted := by simp [single, mark, Mark.isQuote]
  effect count := by
    rw [single]
    simp only [List.foldl_cons, List.foldl_nil, Lexis.step, mark, Nat.add_sub_cancel]

section

variable {word : String} {room depth stop : Nat}

theorem skip_reads {start : Parser} (place : start.At room depth) :
    Advance start (start.moved start.scanner.skipIgnored) ∧
      (start.moved start.scanner.skipIgnored).At room depth := by
  have moves := Scanner.skipIgnored_moves place.skips
  have lexis : (start.moved start.scanner.skipIgnored).lexis = start.lexis :=
    (lexis_moves moves).trans (Lexis.foldl_idle place.outside (idle_gap start.scanner))
  refine ⟨advance_moved moves (congrArg Lexis.placeholders lexis), ?_⟩
  exact {
    skips := moves.skips.trans place.skips
    room := by
      show start.scanner.skipIgnored.ahead.length < room
      rw [Scanner.ahead_of_remaining (Scanner.remaining_skipIgnored place.skips)]
      exact place.room
    outside := lexis ▸ place.outside
    depth := lexis ▸ place.depth }

theorem word_reads (token : Word word depth stop) {start : Parser}
    (place : start.At (room + 1) depth) (meets : start.scanner.meets word = true) :
    Advance start (start.moved (start.scanner.skipIgnored.forward word.toList.length)) ∧
      (start.moved (start.scanner.skipIgnored.forward word.toList.length)).At room stop := by
  have moves := Scanner.forward_skipIgnored_moves place.skips word.toList.length
  simp only [Scanner.meets, Bool.and_eq_true] at meets
  obtain ⟨fits, marks⟩ := Scanner.startsWith_marks meets.2
  have lexis : (start.moved (start.scanner.skipIgnored.forward word.toList.length)).lexis =
      ⟨none, stop, start.lexis.placeholders⟩ := by
    have effect := (Lexis.foldl_of_same place.outside marks token.unquoted).1
    rw [lexis_moves moves, List.foldl_append,
      Lexis.foldl_idle place.outside (idle_gap start.scanner), effect]
    have there : start.lexis = ⟨none, depth, start.lexis.placeholders⟩ := by
      rw [← place.outside, ← place.depth]
    rw [there]
    exact token.effect _
  refine ⟨advance_moved moves (by rw [lexis]), ?_⟩
  exact {
    skips := moves.skips.trans place.skips
    room := by
      show (start.scanner.skipIgnored.forward word.toList.length).ahead.length < room
      have remaining : (start.scanner.skipIgnored.forward word.toList.length).remaining =
          start.scanner.ahead.drop word.toList.length := by
        simp only [Scanner.forward, Scanner.remaining_skipIgnored place.skips]
      have shorter := (start.moved
        (start.scanner.skipIgnored.forward word.toList.length)).ahead_length
      have positive := List.length_pos_iff.mpr token.nonempty
      have := place.room
      simp only [Parser.moved, remaining, List.length_drop] at shorter
      omega
    outside := by rw [lexis]
    depth := by rw [lexis] }

section

variable {start longer : Parser} (related : setting.Related start longer)
  (solid : ∀ character ∈ word.toList, Mark.of character ≠ .space)

include related solid

theorem meets_before_end (more : start.scanner.ahead ≠ []) :
    longer.scanner.meets word = start.scanner.meets word := by
  have behind := (related.ahead_cases.resolve_left fun ends => more ends.1).2
  unfold Scanner.meets
  rw [behind, related.caseSensitive, Scanner.startsWith_append solid setting.spaced]
  cases ahead : start.scanner.ahead with
  | nil => exact absurd ahead more
  | cons character text => rfl

theorem meets_longer (place : start.At room depth)
    (quiet : 0 < depth ∨ Silent word setting.rest) :
    longer.scanner.meets word = start.scanner.meets word := by
  rcases related.ahead_cases with ⟨none, behind⟩ | ⟨more, _⟩
  · unfold Scanner.meets
    rw [none, behind]
    rcases related.at_end place none with outside | ends
    · have silent := quiet.resolve_left (by omega) longer.scanner.caseSensitive
      simp [silent]
    · simp [rest, ends]
  · exact meets_before_end related solid more

end

theorem meetsKeyword_longer {start longer : Parser} (related : setting.Related start longer)
    (same : longer.scanner.meets word = start.scanner.meets word) :
    longer.scanner.meetsKeyword word = start.scanner.meetsKeyword word := by
  unfold Scanner.meetsKeyword
  rw [same]
  cases meets : start.scanner.meets word with
  | false => rfl
  | true =>
      simp only [Scanner.meets, Bool.and_eq_true, Bool.not_eq_true', List.isEmpty_eq_false_iff] at meets
      have fits := (Scanner.startsWith_marks meets.2).1
      have behind := (related.ahead_cases.resolve_left fun ends => meets.1 ends.1).2
      rw [behind, List.drop_append_of_le_length fits]
      cases start.scanner.ahead.drop word.toList.length with
      | cons character text => rfl
      | nil =>
          cases back : setting.back with
          | nil => rfl
          | cons character text =>
              obtain rfl := setting.spaced character (by rw [back]; rfl)
              rw [List.nil_append, List.head?_cons, List.head?_nil, Option.any_some, Option.any_none]
              rfl

theorem ahead_behind_word {start longer : Parser} (place : start.At room depth)
    (related : setting.Related start longer) (meets : start.scanner.meets word = true) :
    (longer.scanner.skipIgnored.forward word.toList.length).remaining =
      (start.scanner.skipIgnored.forward word.toList.length).remaining ++ setting.back := by
  simp only [Scanner.meets, Bool.and_eq_true, Bool.not_eq_true', List.isEmpty_eq_false_iff] at meets
  have fits := (Scanner.startsWith_marks meets.2).1
  have behind := (related.ahead_cases.resolve_left fun ends => meets.1 ends.1).2
  simp only [Scanner.forward, Scanner.remaining_skipIgnored place.skips,
    Scanner.remaining_skipIgnored related.skips, behind, List.drop_append_of_le_length fits]

theorem ahead_behind_gap {start longer : Parser} (place : start.At room depth)
    (related : setting.Related start longer) :
    longer.scanner.skipIgnored.ahead =
      (start.scanner.skipIgnored.remaining ++ setting.back).dropWhile CharClass.skipped := by
  rw [Scanner.ahead_of_remaining (Scanner.remaining_skipIgnored related.skips), related.ahead,
    Scanner.remaining_skipIgnored place.skips, ahead_append]

theorem Related.back {start longer stop longerStop : Parser} (related : setting.Related start longer)
    (kept : Kept start stop) (spent : Spent longer longerStop)
    (taken : stop.nextArgument ≤ start.nextArgument) :
    setting.Related (stop.back start) (longerStop.back longer) := by
  have same : stop.nextArgument = start.nextArgument := Nat.le_antisymm taken kept.taken
  exact {
    text := related.text
    ahead := related.ahead
    skips := spent.skips.trans related.skips
    caseSensitive :=
      (spent.caseSensitive.trans related.caseSensitive).trans kept.caseSensitive.symm
    arguments := (spent.arguments.trans related.arguments).trans kept.arguments.symm
    taken := (spent.taken.trans related.taken).trans same.symm
    counted := same.trans related.counted
    closed := related.closed }

theorem keywordFrom {base : Nat} {pre : Parser → Prop} (token : Word word depth stop)
    (places : ∀ start, pre start → start.At (room + 1) depth)
    (same : ∀ start longer, pre start → setting.Related start longer →
      longer.scanner.meets word = start.scanner.meets word)
    (stays : ∀ start stop, pre start → stop.At (room + 1) depth →
      stop.scanner.ahead = start.scanner.ahead → pre stop) :
    setting.Follows base pre (Parse.keyword word) (Parse.keyword word)
      fun found parser => if found then parser.At room stop else pre parser := by
  refine follows_scan (fun start holds => ?_) (fun start longer holds related => ?_)
  · have place := places start holds
    rw [Scanner.scanKeyword_eq place.skips]
    cases whole : start.scanner.meetsKeyword word with
    | true =>
        refine word_reads token place ?_
        simp only [Scanner.meetsKeyword, Bool.and_eq_true] at whole
        exact whole.1
    | false =>
        cases meets : start.scanner.meets word with
        | false =>
            obtain ⟨advance, there⟩ := skip_reads place
            exact ⟨advance, stays start _ holds there
              (Scanner.ahead_of_remaining (Scanner.remaining_skipIgnored place.skips))⟩
        | true =>
            have kept := kept_moved
              (Scanner.forward_skipIgnored_moves place.skips word.toList.length)
            exact ⟨kept.advance_back, stays start _ holds (place.back kept) rfl⟩
  · have place := places start holds
    have meetsSame := same start longer holds related
    rw [Scanner.scanKeyword_eq place.skips, Scanner.scanKeyword_eq related.skips,
      meetsKeyword_longer related meetsSame, meetsSame]
    cases whole : start.scanner.meetsKeyword word with
    | true =>
        refine ⟨rfl, ⟨_, Scanner.forward_skipIgnored_moves related.skips _⟩, ?_⟩
        simp only [Scanner.meetsKeyword, Bool.and_eq_true] at whole
        simp only [if_true, Scanner.ahead, ahead_behind_word place related whole.1]
    | false =>
        cases meets : start.scanner.meets word with
        | true =>
            have moves := Scanner.forward_skipIgnored_moves related.skips word.toList.length
            exact ⟨rfl, ⟨[], Scanner.backTo_moves _ _ moves.skips moves.caseSensitive⟩,
              related.ahead⟩
        | false =>
            exact ⟨rfl, ⟨_, Scanner.skipIgnored_moves related.skips⟩,
              ahead_behind_gap place related⟩

section

variable (token : Word word depth stop) (quiet : 0 < depth ∨ Silent word setting.rest)

include token quiet

theorem literal {base : Nat} :
    setting.Follows base (At (room + 1) depth) (Parse.literal word) (Parse.literal word)
      fun found => At (if found then room else room + 1) (if found then stop else depth) := by
  refine follows_scan (fun start place => ?_) (fun start longer place related => ?_)
  · rw [Scanner.scanLiteral_eq place.skips]
    cases meets : start.scanner.meets word with
    | true => exact word_reads token place meets
    | false => exact skip_reads place
  · rw [Scanner.scanLiteral_eq place.skips, Scanner.scanLiteral_eq related.skips,
      meets_longer related token.solid place quiet]
    cases meets : start.scanner.meets word with
    | true =>
        refine ⟨rfl, ⟨_, Scanner.forward_skipIgnored_moves related.skips _⟩, ?_⟩
        simp only [if_true, Scanner.ahead, ahead_behind_word place related meets]
    | false =>
        exact ⟨rfl, ⟨_, Scanner.skipIgnored_moves related.skips⟩, ahead_behind_gap place related⟩

theorem keyword {base : Nat} :
    setting.Follows base (At (room + 1) depth) (Parse.keyword word) (Parse.keyword word)
      fun found => At (if found then room else room + 1) (if found then stop else depth) := by
  refine (keywordFrom token (fun _ => id) ?_ fun _ _ _ place _ => place).weaken (fun _ => id) ?_
  · exact fun start longer place related => meets_longer related token.solid place quiet
  · intro found parser place
    cases found <;> simpa using place

theorem literalWithin {base : Nat} :
    setting.Follows base (At room depth) (Parse.literal word) (Parse.literal word)
      fun found => At (if found then room else room) (if found then stop else depth) := by
  cases room with
  | zero => exact FollowsAs.vacuous
  | succ room =>
      refine (literal token quiet).weaken (fun _ => id) fun found _ place => place.weaken ?_
      cases found <;> simp

theorem keywordWithin {base : Nat} :
    setting.Follows base (At room depth) (Parse.keyword word) (Parse.keyword word)
      fun found => At (if found then room else room) (if found then stop else depth) := by
  cases room with
  | zero => exact FollowsAs.vacuous
  | succ room =>
      refine (keyword token quiet).weaken (fun _ => id) fun found _ place => place.weaken ?_
      cases found <;> simp

theorem expect {base : Nat} (construct : String) :
    setting.Follows base (At room depth) (Parse.expect word construct)
      (Parse.expect word construct) fun _ => At room stop := by
  refine Follows.bind (literalWithin token quiet) fun found => ?_
  cases found with
  | true => exact Follows.pure fun _ place => place
  | false => exact FollowsAs.fail

end

theorem firstKeywordFrom {words : List (String × α)} {base : Nat} {pre : Parser → Prop}
    (even : ∀ word ∈ words.map Prod.fst, Even word)
    (places : ∀ start, pre start → start.At (room + 1) depth)
    (same : ∀ word ∈ words.map Prod.fst, ∀ start longer, pre start →
      setting.Related start longer → longer.scanner.meets word = start.scanner.meets word)
    (stays : ∀ start stop, pre start → stop.At (room + 1) depth →
      stop.scanner.ahead = start.scanner.ahead → pre stop) :
    setting.Follows base pre (Parse.firstKeyword words) (Parse.firstKeyword words)
      fun found parser => if found.isSome then parser.At room depth else pre parser := by
  induction words with
  | nil => exact Follows.pure fun _ place => place
  | cons entry words ih =>
      obtain ⟨word, meaning⟩ := entry
      have token : Word word depth depth := .of_even (even word (by simp)) depth
      refine Follows.bind (keywordFrom token places (same word (by simp)) stays) fun found => ?_
      cases found with
      | true => exact Follows.pure fun _ place => place
      | false =>
          exact ih (fun other member => even other (by simp [member]))
            fun other member => same other (by simp [member])

theorem firstKeyword {words : List (String × α)} {base : Nat}
    (even : ∀ word ∈ words.map Prod.fst, Even word)
    (quiet : ∀ word ∈ words.map Prod.fst, 0 < depth ∨ Silent word setting.rest) :
    setting.Follows base (At (room + 1) depth) (Parse.firstKeyword words) (Parse.firstKeyword words)
      fun found => At (if found.isSome then room else room + 1) depth := by
  refine (firstKeywordFrom even (fun _ => id) ?_ fun _ _ _ place _ => place).weaken (fun _ => id) ?_
  · intro word member start longer place related
    exact meets_longer related (fun character listed => ((even word member).2 character listed).2)
      place (quiet word member)
  · intro found parser place
    cases found <;> simpa using place

theorem firstKeywordBeforeEnd {words : List (String × α)} {base : Nat}
    (even : ∀ word ∈ words.map Prod.fst, Even word) :
    setting.Follows base (fun parser => parser.At (room + 1) depth ∧ parser.scanner.ahead ≠ [])
      (Parse.firstKeyword words) (Parse.firstKeyword words) fun found parser =>
        if found.isSome then parser.At room depth
        else parser.At (room + 1) depth ∧ parser.scanner.ahead ≠ [] := by
  refine firstKeywordFrom even (fun _ place => place.1) ?_ ?_
  · intro word member start longer place related
    exact meets_before_end related (fun character listed => ((even word member).2 character listed).2)
      place.2
  · exact fun start stop place there same => ⟨there, same ▸ place.2⟩

theorem firstKeywordWithin {words : List (String × α)} {base : Nat}
    (even : ∀ word ∈ words.map Prod.fst, Even word)
    (quiet : ∀ word ∈ words.map Prod.fst, 0 < depth ∨ Silent word setting.rest) :
    setting.Follows base (At room depth) (Parse.firstKeyword words) (Parse.firstKeyword words)
      fun _ => At room depth := by
  cases room with
  | zero => exact FollowsAs.vacuous
  | succ room =>
      refine (firstKeyword even quiet).weaken (fun _ => id) fun found _ place => place.weaken ?_
      cases found <;> simp

end

end Setting

end PredicateRules
