import PredicateRules.Proofs.Reading.Operand

namespace PredicateRules

open PredicateRules.Parser

namespace Setting

variable {setting : Setting} {room depth base : Nat}

/-! ### Placeholders -/

theorem idle_plainPlaceholders :
    ∀ character ∈ Parse.plainPlaceholders, (Mark.of character).idle = true := by
  decide

theorem idle_lengthPlaceholders {first second : Char}
    (member : (Parse.lengthPlaceholders first).contains second = true) :
    (Mark.of first).idle = true ∧ (Mark.of second).idle = true ∧ second ≠ ' ' := by
  unfold Parse.lengthPlaceholders at member
  split at member
  · have all : ∀ letter ∈ ['i', 'u'], (Mark.of letter).idle = true ∧ letter ≠ ' ' := by decide
    exact ⟨by decide, all second (List.contains_iff_mem.mp member)⟩
  · have all : ∀ letter ∈ ['i', 'u', 'x', 'X'], (Mark.of letter).idle = true ∧ letter ≠ ' ' := by
      decide
    exact ⟨by decide, all second (List.contains_iff_mem.mp member)⟩
  · cases member

theorem placeholderLetters?_some {text letters : List Char}
    (found : Parse.placeholderLetters? text = some letters) :
    (∃ rest, text = letters ++ rest) ∧ letters ≠ [] ∧
      ∀ character ∈ letters, (Mark.of character).idle = true := by
  unfold Parse.placeholderLetters? at found
  split at found
  · obtain rfl := Option.some.inj found
    exact ⟨⟨_, rfl⟩, by simp, by decide⟩
  next first rest _ =>
    split at found
    next plain =>
      obtain rfl := Option.some.inj found
      refine ⟨⟨rest, rfl⟩, by simp, fun character member => ?_⟩
      obtain rfl := List.mem_singleton.mp member
      exact idle_plainPlaceholders _ (List.contains_iff_mem.mp plain)
    next =>
      split at found
      next second behind =>
        split at found
        next member =>
          obtain rfl := Option.some.inj found
          obtain ⟨idleFirst, idleSecond, _⟩ := idle_lengthPlaceholders member
          refine ⟨⟨behind, rfl⟩, by simp, fun character member => ?_⟩
          rcases List.mem_cons.mp member with rfl | member
          · exact idleFirst
          · exact List.mem_singleton.mp member ▸ idleSecond
        next => cases found
      next => cases found
  · cases found

theorem placeholderLetters?_append (text : List Char) :
    Parse.placeholderLetters? (text ++ setting.back) = Parse.placeholderLetters? text := by
  have spaced := setting.spaced
  generalize setting.back = back at spaced
  cases text with
  | nil =>
      cases back with
      | nil => rfl
      | cons character back =>
          obtain rfl := spaced character rfl
          cases back <;> rfl
  | cons first text =>
      cases text with
      | cons second text =>
          by_cases key : first = 'K'
          · subst key
            rfl
          · simp only [List.cons_append, Parse.placeholderLetters?]
      | nil =>
          cases back with
          | nil => rfl
          | cons character back =>
              obtain rfl := spaced character rfl
              have absent : (Parse.lengthPlaceholders first).contains ' ' = false := by
                refine Bool.eq_false_iff.mpr fun member => ?_
                exact (idle_lengthPlaceholders member).2.2 rfl
              by_cases key : first = 'K'
              · subst key
                rfl
              · simp only [List.cons_append, List.nil_append, Parse.placeholderLetters?, absent]
                rfl

def scanPlaceholder (scanner : Scanner) : Option (List Char) × Scanner :=
  match scanner.scanLiteral "%" with
  | (true, after) =>
    match Parse.placeholderLetters? after.remaining with
    | some letters => (some letters, after.forward letters.length)
    | none => (none, after.backTo scanner)
  | (false, after) => (none, after)

theorem placeholderWord?_eq : Parse.placeholderWord? = Parse.scan scanPlaceholder := by
  funext parser
  unfold Parse.placeholderWord? Parse.scan scanPlaceholder
  simp only [bind, EStateM.bind, Parse.scanner, Parse.literal, Parse.scan]
  cases parser.scanner.scanLiteral "%" with
  | mk found after =>
      cases found with
      | false => rfl
      | true =>
          cases letters : Parse.placeholderLetters? after.remaining <;>
            simp [EStateM.bind, Parse.scanner, letters, Parse.backTo, Parse.move, Parse.scan, pure,
              EStateM.pure]

theorem placeholder?_eq (which : Parser → Nat) (parser : Parser) :
    Parse.placeholder? which parser =
      match scanPlaceholder parser.scanner with
      | (none, after) => .ok none (parser.moved after)
      | (some letters, after) =>
        match parser.arguments[which (parser.moved after)]? with
        | none =>
          .error (.missingArgument (String.ofList letters) (parser.moved after).location)
            (parser.moved after)
        | some value =>
          let taken := { parser.moved after with nextArgument := parser.nextArgument + 1 }
          match Parse.argumentExpression? letters value with
          | some expression => .ok (some expression) taken
          | none => .error (.invalidArgument taken.location) taken := by
  unfold Parse.placeholder?
  rw [placeholderWord?_eq]
  simp only [bind, EStateM.bind, Parse.scan]
  cases scanPlaceholder parser.scanner with
  | mk letters after =>
      cases letters with
      | none => rfl
      | some letters =>
          simp only [EStateM.bind, Parse.takeArgument, Parser.moved]
          cases parser.arguments[which { parser with scanner := after }]? with
          | none => rfl
          | some value =>
              dsimp only
              cases Parse.argumentExpression? letters value <;> rfl

theorem scanPlaceholder_none {start : Parser} (place : start.At room depth) {after : Scanner}
    (none : scanPlaceholder start.scanner = (none, after)) :
    Advance start (start.moved after) ∧ (start.moved after).At room depth := by
  unfold scanPlaceholder at none
  rw [Scanner.scanLiteral_eq place.skips] at none
  cases meets : start.scanner.meets "%" with
  | false =>
      simp only [meets, Bool.false_eq_true, if_false] at none
      obtain rfl := (Prod.mk.inj none).2
      exact skip_reads place
  | true =>
      simp only [meets, if_true] at none
      split at none
      · cases none
      · obtain rfl := (Prod.mk.inj none).2
        have kept := kept_moved (Scanner.forward_skipIgnored_moves place.skips "%".toList.length)
        exact ⟨kept.advance_back, place.back kept⟩

theorem lexis_placeholder {start : Parser} (place : start.At room depth)
    (meets : start.scanner.meets "%" = true) {letters rest : List Char}
    (whole : (start.scanner.skipIgnored.forward "%".toList.length).remaining = letters ++ rest)
    (idle : ∀ character ∈ letters, (Mark.of character).idle = true) :
    (start.moved ((start.scanner.skipIgnored.forward "%".toList.length).forward letters.length)).lexis =
      { start.lexis with placeholders := start.lexis.placeholders + 1 } := by
  have moves := (Scanner.forward_skipIgnored_moves place.skips "%".toList.length).trans
    (Scanner.forward_moves _ letters.length)
  rw [whole, List.take_left] at moves
  simp only [Scanner.meets, Bool.and_eq_true] at meets
  have effect := (Lexis.foldl_of_same place.outside (Scanner.startsWith_marks meets.2).2 (by decide)).1
  have percent : "%".toList.foldl Lexis.step start.lexis =
      { start.lexis with placeholders := start.lexis.placeholders + 1 } := by
    rw [show start.lexis = ⟨none, depth, start.lexis.placeholders⟩ by rw [← place.outside, ← place.depth]]
    rfl
  have outside : ({ start.lexis with placeholders := start.lexis.placeholders + 1 } :
      Lexis).quote = none := place.outside
  refine (lexis_moves moves).trans ?_
  rw [List.foldl_append, List.foldl_append, Lexis.foldl_idle place.outside (idle_gap start.scanner)]
  exact (congrArg (letters.foldl Lexis.step ·) (effect.trans percent)).trans (Lexis.foldl_idle outside idle)

theorem scanPlaceholder_some {start : Parser} (place : start.At (room + 1) depth) {after : Scanner}
    {letters : List Char} (found : scanPlaceholder start.scanner = (some letters, after)) :
    (∃ crossed, start.scanner.Moves after crossed) ∧ (start.moved after).At room depth ∧
      (start.moved after).lexis.placeholders = start.lexis.placeholders + 1 := by
  unfold scanPlaceholder at found
  rw [Scanner.scanLiteral_eq place.skips] at found
  cases meets : start.scanner.meets "%" with
  | false =>
      simp only [meets, Bool.false_eq_true, if_false] at found
      cases found
  | true =>
      simp only [meets, if_true] at found
      split at found
      next taken front =>
        obtain ⟨same, rfl⟩ := Prod.mk.inj found
        obtain rfl := Option.some.inj same
        obtain ⟨⟨rest, whole⟩, some, idle⟩ := placeholderLetters?_some front
        have moves := (Scanner.forward_skipIgnored_moves place.skips "%".toList.length).trans
          (Scanner.forward_moves _ taken.length)
        rw [whole, List.take_left] at moves
        have lexis := lexis_placeholder place meets whole idle
        refine ⟨⟨_, moves⟩, ⟨moves.skips.trans place.skips, ?_, ?_, ?_⟩, by rw [lexis]⟩
        · rw [List.append_assoc] at moves
          have shorter := (start.moved ((start.scanner.skipIgnored.forward
            "%".toList.length).forward taken.length)).ahead_length
          have positive := List.length_pos_iff.mpr some
          have length := congrArg List.length moves.ahead
          have := place.room
          simp only [List.length_append, Parser.moved] at length shorter ⊢
          omega
        · rw [lexis]
          exact place.outside
        · rw [lexis]
          exact place.depth
      next => cases found

theorem scanPlaceholder_mirrors {start longer : Parser} (place : start.At room depth)
    (related : setting.Related start longer) :
    (scanPlaceholder longer.scanner).1 = (scanPlaceholder start.scanner).1 ∧
      (∃ crossed, longer.scanner.Moves (scanPlaceholder longer.scanner).2 crossed) ∧
      (scanPlaceholder longer.scanner).2.ahead =
        ((scanPlaceholder start.scanner).2.remaining ++ setting.back).dropWhile CharClass.skipped ∧
      ((scanPlaceholder start.scanner).1 ≠ none → (scanPlaceholder longer.scanner).2.remaining =
        (scanPlaceholder start.scanner).2.remaining ++ setting.back) := by
  have quiet : 0 < depth ∨ Silent "%" setting.rest := .inr (setting.silent "%" (by decide))
  unfold scanPlaceholder
  rw [Scanner.scanLiteral_eq place.skips, Scanner.scanLiteral_eq related.skips,
    meets_longer related (by decide) place quiet]
  cases meets : start.scanner.meets "%" with
  | false =>
      exact ⟨rfl, ⟨_, Scanner.skipIgnored_moves related.skips⟩, ahead_behind_gap place related,
        fun some => absurd rfl some⟩
  | true =>
      have behind := ahead_behind_word place related meets
      have moves := Scanner.forward_skipIgnored_moves related.skips "%".toList.length
      simp only [if_true, behind, placeholderLetters?_append]
      cases front : Parse.placeholderLetters?
          (start.scanner.skipIgnored.forward "%".toList.length).remaining with
      | none =>
          exact ⟨rfl, ⟨[], Scanner.backTo_moves _ _ moves.skips moves.caseSensitive⟩, related.ahead,
            fun some => absurd rfl some⟩
      | some letters =>
          obtain ⟨⟨rest, whole⟩, _⟩ := placeholderLetters?_some front
          have remaining : ((longer.scanner.skipIgnored.forward "%".toList.length).forward
                letters.length).remaining =
              ((start.scanner.skipIgnored.forward "%".toList.length).forward
                letters.length).remaining ++ setting.back := by
            show (longer.scanner.skipIgnored.forward "%".toList.length).remaining.drop _ =
              (start.scanner.skipIgnored.forward "%".toList.length).remaining.drop _ ++ _
            rw [behind, whole, List.append_assoc, List.drop_left, List.drop_left]
          exact ⟨rfl, ⟨_, moves.trans (Scanner.forward_moves _ letters.length)⟩,
            congrArg (List.dropWhile CharClass.skipped) remaining, fun _ => remaining⟩

theorem Related.passed {start longer : Parser} (related : setting.Related start longer)
    {stop longerStop : Scanner} {crossed crossedLonger : List Char}
    (moves : start.scanner.Moves stop crossed)
    (movesLonger : longer.scanner.Moves longerStop crossedLonger)
    (behind : longerStop.remaining = stop.remaining ++ setting.back) :
    longerStop.passed = stop.passed ++ setting.front.reverse := by
  have whole : longerStop.text = setting.front ++ stop.text ++ setting.back := by
    rw [movesLonger.text, related.text, moves.text]
  unfold Scanner.text at whole
  rw [behind] at whole
  have passed : longerStop.passed.reverse = setting.front ++ stop.passed.reverse := by
    simpa [← List.append_assoc] using whole
  have reversed := congrArg List.reverse passed
  simpa using reversed

theorem placeholder?_reads {start : Parser} (place : start.At (room + 1) depth) :
    Reads start (fun result => At (if result.isSome then room else room + 1) depth)
      (Parse.placeholder? setting.which start) := by
  rw [placeholder?_eq]
  cases scanned : scanPlaceholder start.scanner with
  | mk letters after =>
      cases letters with
      | none => exact scanPlaceholder_none place scanned
      | some letters =>
          obtain ⟨⟨crossed, moves⟩, there, counted⟩ := scanPlaceholder_some place scanned
          dsimp only
          cases start.arguments[setting.which (start.moved after)]? with
          | none => exact kept_moved moves
          | some value =>
              dsimp only
              cases Parse.argumentExpression? letters value with
              | none => exact ⟨moves.skips, moves.caseSensitive, rfl, Nat.le_succ _⟩
              | some expression =>
                  refine ⟨⟨⟨_, moves⟩, rfl, ?_⟩, there.skips, there.room, there.outside, there.depth⟩
                  show (start.moved after).lexis.placeholders + start.nextArgument ≤
                    start.lexis.placeholders + (start.nextArgument + 1)
                  omega

theorem placeholder?_limits (start : Parser) :
    setting.Limits start (Parse.placeholder? setting.which start) := by
  rw [placeholder?_eq]
  cases scanned : scanPlaceholder start.scanner with
  | mk letters after =>
      cases letters with
      | none => exact fun _ => Nat.le_max_left _ _
      | some letters =>
          dsimp only
          cases argument : start.arguments[setting.which (start.moved after)]? with
          | none => exact fun _ => Nat.le_max_left _ _
          | some value =>
              have taken : setting.which = Parser.nextArgument →
                  start.nextArgument + 1 ≤ max start.nextArgument start.arguments.length := by
                intro inOrder
                rw [inOrder] at argument
                have inside := (List.getElem?_eq_some_iff.mp argument).1
                exact Nat.le_trans inside (Nat.le_max_right _ _)
              dsimp only
              cases Parse.argumentExpression? letters value with
              | none => exact taken
              | some expression => exact taken

section

variable {start longer : Parser} {after afterLonger : Scanner} {crossed crossedLonger : List Char}
  (related : setting.Related start longer) (moves : start.scanner.Moves after crossed)
  (movesLonger : longer.scanner.Moves afterLonger crossedLonger)
  (counted : (start.moved after).lexis.placeholders = start.lexis.placeholders + 1)

include related moves movesLonger counted

theorem Related.agree (behind : afterLonger.remaining = after.remaining ++ setting.back) :
    setting.other (longer.moved afterLonger) = setting.which (start.moved after) := by
  refine setting.agree _ _ (related.passed moves movesLonger behind) related.taken ?_
  show _ = start.nextArgument + 1
  rw [counted, related.counted]

theorem Related.takes (ahead : afterLonger.ahead =
      (after.remaining ++ setting.back).dropWhile CharClass.skipped) :
    setting.Related { start.moved after with nextArgument := start.nextArgument + 1 }
      { longer.moved afterLonger with nextArgument := longer.nextArgument + 1 } where
  text := by
    show afterLonger.text = setting.front ++ after.text ++ setting.back
    rw [movesLonger.text, related.text, moves.text]
  ahead := ahead
  skips := movesLonger.skips.trans related.skips
  caseSensitive := (movesLonger.caseSensitive.trans related.caseSensitive).trans
    moves.caseSensitive.symm
  arguments := related.arguments
  taken := congrArg (· + 1) related.taken
  counted := by
    show start.nextArgument + 1 = (start.moved after).lexis.placeholders
    rw [counted, related.counted]
  closed := by
    show _ → (Lexis.after after.text.reverse).quote = _ ∧ (Lexis.after after.text.reverse).depth = _
    rw [moves.text]
    exact related.closed

end

/-- Also where an argument is taken, the longer text gives the same one. -/
theorem placeholder?_mirrors {start longer : Parser} (place : start.At (room + 1) depth)
    (related : setting.Related start longer) (base : Nat) :
    setting.Mirrors id base start longer (Parse.placeholder? setting.which start)
      (Parse.placeholder? setting.other longer) := by
  obtain ⟨same, ⟨crossedLonger, movesLonger⟩, ahead, remaining⟩ :=
    scanPlaceholder_mirrors place related
  rw [placeholder?_eq, placeholder?_eq]
  cases scanned : scanPlaceholder start.scanner with
  | mk letters after =>
      cases scannedLonger : scanPlaceholder longer.scanner with
      | mk lettersLonger afterLonger =>
          rw [scanned, scannedLonger] at same ahead remaining
          rw [scannedLonger] at movesLonger
          obtain rfl : lettersLonger = letters := same
          cases lettersLonger with
          | none =>
              intro counted
              have reads := scanPlaceholder_none place scanned
              exact ⟨_, rfl, related.moved reads.1 ⟨_, movesLonger⟩ rfl related.taken counted ahead⟩
          | some letters =>
              obtain ⟨⟨crossed, moves⟩, there, counted⟩ := scanPlaceholder_some place scanned
              have agree := related.agree moves movesLonger counted
                (remaining (Option.some_ne_none letters))
              simp only [agree, related.arguments]
              cases start.arguments[setting.which (start.moved after)]? with
              | none =>
                  intro _ _
                  exact ⟨_, _, rfl, movesLonger.skips, movesLonger.caseSensitive, rfl, rfl⟩
              | some value =>
                  dsimp only
                  cases Parse.argumentExpression? letters value with
                  | none =>
                      intro taken
                      exact absurd taken (Nat.not_succ_le_self _)
                  | some expression =>
                      intro _
                      exact ⟨_, rfl, related.takes moves movesLonger counted ahead⟩

theorem placeholder? : setting.Finds room (Parse.placeholder? setting.which)
    (Parse.placeholder? setting.other) := fun _ _ base _ _ => {
  reads := fun _ place => placeholder?_reads place
  limits := fun start _ => placeholder?_limits start
  mirrors := fun _ _ place related => placeholder?_mirrors place related base }

/-! ### Strings -/

structure Quote (word : String) (mark : Char) : Prop where
  word : word.toList = [mark]
  quote : Mark.of mark = .quote mark

theorem Mark.eq_of_of_eq_quote {character mark : Char} (same : Mark.of character = .quote mark) :
    character = mark := by
  unfold Mark.of at same
  repeat' split at same
  all_goals first | exact Mark.quote.inj same | cases same

theorem dropWhile_of_mem {mark : Char} {text : List Char} (member : mark ∈ text) :
    ∃ tail, (text.dropWhile fun character => character != mark) = mark :: tail := by
  induction text with
  | nil => cases member
  | cons character text ih =>
      by_cases same : character = mark
      · exact ⟨text, by simp [same]⟩
      · have behind := (List.mem_cons.mp member).resolve_left fun other => same other.symm
        obtain ⟨tail, found⟩ := ih behind
        exact ⟨tail, by simp [same, found]⟩

theorem dropWhile_of_not_mem {mark : Char} {text : List Char} (missing : mark ∉ text) :
    (text.dropWhile fun character => character != mark) = [] := by
  induction text with
  | nil => rfl
  | cons character text ih =>
      simp only [List.mem_cons, not_or] at missing
      simp [Ne.symm missing.1, ih missing.2]

theorem takeWhile_append_of_mem {mark : Char} {text : List Char} (member : mark ∈ text)
    (back : List Char) :
    ((text ++ back).takeWhile fun character => character != mark) =
      text.takeWhile fun character => character != mark := by
  induction text with
  | nil => cases member
  | cons character text ih =>
      by_cases same : character = mark
      · simp [same]
      · have behind := (List.mem_cons.mp member).resolve_left fun other => same other.symm
        simp [same, ih behind]

section

variable {word : String} {mark : Char} (quote : Quote word mark)

include quote

theorem startsWith_quote (caseSensitive : Bool) (text : List Char) :
    Scanner.startsWith caseSensitive word.toList text = (text.head? == some mark) := by
  rw [quote.word]
  cases text with
  | nil => rfl
  | cons character text =>
      by_cases same : character = mark
      · subst same
        simp [Scanner.startsWith, Scanner.sameChar]
      · have differs : Scanner.sameChar caseSensitive character mark = false := by
          refine Bool.eq_false_iff.mpr fun counts => same ?_
          exact Mark.eq_of_of_eq_quote ((Mark.of_sameChar counts).trans quote.quote)
        simp [Scanner.startsWith, differs, same]

theorem distanceTo_quote (caseSensitive : Bool) (text : List Char) :
    Scanner.distanceTo caseSensitive word.toList text =
      (text.takeWhile fun character => character != mark).length := by
  induction text with
  | nil => rfl
  | cons character text ih =>
      by_cases same : character = mark
      · subst same
        simp [Scanner.distanceTo, startsWith_quote quote]
      · simp [Scanner.distanceTo, startsWith_quote quote, same, ih]

theorem scanUpToLiteral_quote (scanner : Scanner) :
    ((scanner.scanUpToLiteral word).1.getD []) =
        (scanner.remaining.takeWhile fun character => character != mark) ∧
      scanner.Moves (scanner.scanUpToLiteral word).2
        (scanner.remaining.takeWhile fun character => character != mark) := by
  have taken := List.prefix_iff_eq_take.mp
    (List.takeWhile_prefix (l := scanner.remaining) fun character => character != mark)
  unfold Scanner.scanUpToLiteral
  rw [distanceTo_quote quote]
  cases length : (scanner.remaining.takeWhile fun character => character != mark).length with
  | zero =>
      rw [List.length_eq_zero_iff.mp length]
      exact ⟨rfl, .refl scanner⟩
  | succ distance =>
      rw [length] at taken
      have moves := scanner.forward_moves (distance + 1)
      rw [← taken] at moves
      exact ⟨taken.symm, moves⟩

theorem scanLiteral_quote (scanner : Scanner) (skips : scanner.skips = none) :
    scanner.scanLiteral word =
      if scanner.remaining.head? = some mark then (true, scanner.forward 1) else (false, scanner) := by
  have still : scanner.skipIgnored = scanner := by
    have nothing : scanner.isSkipped = fun _ => false := by
      funext character
      simp [Scanner.isSkipped, skips]
    unfold Scanner.skipIgnored
    rw [nothing]
    cases scanner.remaining with
    | nil => rfl
    | cons character text => rfl
  unfold Scanner.scanLiteral
  dsimp only
  rw [still, startsWith_quote quote, quote.word]
  cases scanner.remaining with
  | nil => rfl
  | cons character text => by_cases same : character = mark <;> simp [same]

omit quote in
theorem moves_setSkips {start stop : Scanner} {crossed : List Char}
    (moves : (start.setSkips none).Moves stop crossed) :
    start.Moves (stop.setSkips start.skips) crossed :=
  ⟨moves.passed, moves.remaining, rfl, moves.caseSensitive⟩

theorem quotedBody_eq (kind : String) (parser : Parser) :
    ∃ after crossed, parser.scanner.Moves after crossed ∧
      if mark ∈ parser.scanner.remaining then
        Parse.quotedBody word kind parser = .ok (String.ofList
          (parser.scanner.remaining.takeWhile fun character => character != mark))
          (parser.moved after) ∧
        crossed = (parser.scanner.remaining.takeWhile fun character => character != mark) ++ [mark]
      else ∃ error, Parse.quotedBody word kind parser = .error error (parser.moved after) := by
  obtain ⟨body, moves⟩ := scanUpToLiteral_quote quote (parser.scanner.setSkips none)
  have closing := scanLiteral_quote quote
    ((parser.scanner.setSkips none).scanUpToLiteral word).2 moves.skips
  have rest : ((parser.scanner.setSkips none).scanUpToLiteral word).2.remaining =
      parser.scanner.remaining.dropWhile fun character => character != mark :=
    (List.append_cancel_left (List.takeWhile_append_dropWhile.trans moves.remaining)).symm
  have outcome : Parse.quotedBody word kind parser =
      let closed := ((parser.scanner.setSkips none).scanUpToLiteral word).2.scanLiteral word
      let stop := parser.moved (closed.2.setSkips parser.scanner.skips)
      if closed.1 then .ok (String.ofList
        (((parser.scanner.setSkips none).scanUpToLiteral word).1.getD [])) stop
      else .error (.invalidLiteral kind stop.location) stop := by
    simp only [Parse.quotedBody, bind, EStateM.bind, Parse.scanner, Parse.move, Parse.scan,
      Parse.literal]
    split <;> rfl
  rw [closing, rest] at outcome
  by_cases closes : mark ∈ parser.scanner.remaining
  · obtain ⟨tail, behind⟩ := dropWhile_of_mem closes
    have last := Scanner.forward_moves ((parser.scanner.setSkips none).scanUpToLiteral word).2 1
    rw [rest, behind] at last
    have all := moves.trans last
    rw [behind] at outcome
    refine ⟨_, _, moves_setSkips all, ?_⟩
    rw [if_pos closes]
    refine ⟨outcome.trans ?_, rfl⟩
    simp only [List.head?_cons, if_true, body]
    rfl
  · rw [dropWhile_of_not_mem closes] at outcome
    refine ⟨_, _, moves_setSkips moves, ?_⟩
    rw [if_neg closes]
    exact ⟨_, outcome⟩

omit quote in
theorem foldl_quoted {lexis : Lexis} (inside : lexis.quote = some mark) {text : List Char}
    (missing : mark ∉ text) : text.foldl Lexis.step lexis = lexis := by
  induction text with
  | nil => rfl
  | cons character text ih =>
      simp only [List.mem_cons, not_or] at missing
      have still : lexis.step character = lexis := by
        unfold Lexis.step
        simp [inside, Ne.symm missing.1]
      rw [List.foldl_cons, still]
      exact ih missing.2

theorem ahead_of_meets {scanner : Scanner} (meets : scanner.meets word = true) :
    scanner.ahead = mark :: scanner.ahead.drop 1 := by
  unfold Scanner.meets at meets
  rw [startsWith_quote quote] at meets
  cases ahead : scanner.ahead with
  | nil => simp [ahead] at meets
  | cons character text =>
      have same : character = mark := by simpa [ahead] using meets
      rw [same]
      rfl

theorem lexis_opened {start : Parser} (place : start.At room depth)
    (meets : start.scanner.meets word = true) :
    (start.moved (start.scanner.skipIgnored.forward word.toList.length)).lexis =
      { start.lexis with quote := some mark } := by
  have moves := Scanner.forward_skipIgnored_moves place.skips word.toList.length
  have first : start.scanner.ahead.take word.toList.length = [mark] := by
    rw [ahead_of_meets quote meets, quote.word]
    rfl
  rw [lexis_moves moves, List.foldl_append, first,
    Lexis.foldl_idle place.outside (idle_gap start.scanner)]
  show start.lexis.step mark = _
  unfold Lexis.step
  simp only [place.outside, quote.quote]

omit quote in
theorem quotedBy_eq (kind : String) {parser : Parser}
    (skips : parser.scanner.skips = some CharClass.skipped) :
    Parse.quotedBy word kind parser =
      if parser.scanner.meets word then
        match Parse.quotedBody word kind
            (parser.moved (parser.scanner.skipIgnored.forward word.toList.length)) with
        | .ok body after => .ok (some (.constant (.string body))) after
        | .error error after => .error error after
      else .ok none (parser.moved parser.scanner.skipIgnored) := by
  simp only [Parse.quotedBy, bind, EStateM.bind, Parse.literal, Parse.scan,
    Scanner.scanLiteral_eq skips]
  cases parser.scanner.meets word with
  | false => rfl
  | true =>
      simp only [if_true, EStateM.bind, Parser.moved]
      generalize Parse.quotedBody word kind _ = outcome
      cases outcome <;> rfl

omit quote in
theorem not_mem_takeWhile (text : List Char) :
    mark ∉ text.takeWhile fun character => character != mark := by
  intro member
  have differs := List.all_eq_true.mp List.all_takeWhile mark member
  simp at differs

theorem quotedBody_open (kind : String) (parser : Parser) (missing : mark ∉ parser.scanner.remaining) :
    ∃ error after crossed, Parse.quotedBody word kind parser = .error error (parser.moved after) ∧
      parser.scanner.Moves after crossed := by
  obtain ⟨after, crossed, moves, outcome⟩ := quotedBody_eq quote kind parser
  rw [if_neg missing] at outcome
  obtain ⟨error, failed⟩ := outcome
  exact ⟨error, after, crossed, failed, moves⟩

theorem quotedBody_closed (kind : String) (parser longer : Parser) {back : List Char}
    (behind : longer.scanner.remaining = parser.scanner.remaining ++ back)
    (closes : mark ∈ parser.scanner.remaining) :
    ∃ body after afterLonger, mark ∉ body ∧
      Parse.quotedBody word kind parser = .ok (String.ofList body) (parser.moved after) ∧
      parser.scanner.Moves after (body ++ [mark]) ∧
      Parse.quotedBody word kind longer = .ok (String.ofList body) (longer.moved afterLonger) ∧
      longer.scanner.Moves afterLonger (body ++ [mark]) ∧
      afterLonger.remaining = after.remaining ++ back := by
  obtain ⟨after, crossed, moves, outcome⟩ := quotedBody_eq quote kind parser
  obtain ⟨afterLonger, crossedLonger, movesLonger, outcomeLonger⟩ := quotedBody_eq quote kind longer
  rw [if_pos closes] at outcome
  rw [behind, if_pos (List.mem_append_left _ closes), takeWhile_append_of_mem closes back] at outcomeLonger
  obtain ⟨ok, rfl⟩ := outcome
  obtain ⟨okLonger, rfl⟩ := outcomeLonger
  have whole := movesLonger.remaining.symm.trans (behind.trans (congrArg (· ++ back) moves.remaining))
  exact ⟨_, after, afterLonger, not_mem_takeWhile _, ok, moves, okLonger, movesLonger,
    List.append_cancel_left (whole.trans (List.append_assoc _ _ _))⟩

theorem quoted_reads {start : Parser} {after : Scanner} {body : List Char}
    (place : start.At (room + 1) depth) (meets : start.scanner.meets word = true)
    (moves : (start.scanner.skipIgnored.forward word.toList.length).Moves after (body ++ [mark]))
    (missing : mark ∉ body) :
    Advance start (start.moved after) ∧ (start.moved after).At room depth := by
  have opening := Scanner.forward_skipIgnored_moves place.skips word.toList.length
  have all := opening.trans moves
  have inside : ({ start.lexis with quote := some mark } : Lexis).quote = some mark := rfl
  have closed : ({ start.lexis with quote := some mark } : Lexis).step mark = start.lexis := by
    have outside := place.outside
    unfold Lexis.step
    simp only [if_true]
    rw [← outside]
  have lexis : (start.moved after).lexis = start.lexis := by
    refine (lexis_moves all).trans ?_
    have opened := lexis_opened quote place meets
    rw [lexis_moves opening] at opened
    rw [List.foldl_append]
    refine (congrArg (fun lexis => (body ++ [mark]).foldl Lexis.step lexis) opened).trans ?_
    rw [List.foldl_append, foldl_quoted inside missing]
    exact closed
  refine ⟨advance_moved all (congrArg Lexis.placeholders lexis), ?_⟩
  exact {
    skips := all.skips.trans place.skips
    room := by
      rw [List.append_assoc] at all
      have whole := congrArg List.length all.ahead
      have shorter := (start.moved after).ahead_length
      have := place.room
      simp only [List.length_append, List.length_cons, Parser.moved] at whole shorter ⊢
      omega
    outside := lexis ▸ place.outside
    depth := lexis ▸ place.depth }

/-- A string that the text does not close ends the longer text, too. -/
theorem closed_of_open {start longer : Parser} (place : start.At room depth)
    (related : setting.Related start longer) (meets : start.scanner.meets word = true)
    (open_ : mark ∉ (start.scanner.skipIgnored.forward word.toList.length).remaining) :
    setting.back = [] := by
  by_cases continues : setting.back = []
  · exact continues
  · have closed := (related.closed continues).1
    have moves := Scanner.forward_skipIgnored_moves place.skips word.toList.length
    have whole : start.scanner.text.reverse =
        (start.scanner.skipIgnored.forward word.toList.length).remaining.reverse ++
          (start.scanner.skipIgnored.forward word.toList.length).passed := by
      rw [← moves.text]
      simp [Scanner.text]
    have opened : Lexis.after (start.scanner.skipIgnored.forward word.toList.length).passed =
        { start.lexis with quote := some mark } := lexis_opened quote place meets
    have inside : ({ start.lexis with quote := some mark } : Lexis).quote = some mark := rfl
    rw [whole, Lexis.after_append, opened, foldl_quoted inside open_] at closed
    cases closed

theorem quotedBy_reads (kind : String) {start : Parser} (place : start.At (room + 1) depth) :
    Reads start (fun result => At (if result.isSome then room else room + 1) depth)
      (Parse.quotedBy word kind start) := by
  rw [quotedBy_eq kind place.skips]
  cases meets : start.scanner.meets word with
  | false => exact skip_reads place
  | true =>
      obtain ⟨after, crossed, moves, outcome⟩ := quotedBody_eq quote kind
        (start.moved (start.scanner.skipIgnored.forward word.toList.length))
      simp only [if_true]
      split at outcome
      next closes =>
        obtain ⟨ok, rfl⟩ := outcome
        rw [ok]
        exact quoted_reads quote place meets moves (not_mem_takeWhile _)
      next =>
        obtain ⟨error, failed⟩ := outcome
        rw [failed]
        have opened := kept_moved
          (Scanner.forward_skipIgnored_moves place.skips word.toList.length)
        exact opened.trans (kept_moved moves)

theorem quotedBy_limits (kind : String) {start : Parser} (place : start.At (room + 1) depth) :
    setting.Limits start (Parse.quotedBy word kind start) := by
  rw [quotedBy_eq kind place.skips]
  cases meets : start.scanner.meets word with
  | false => exact fun _ => Nat.le_max_left _ _
  | true =>
      obtain ⟨after, crossed, moves, outcome⟩ := quotedBody_eq quote kind
        (start.moved (start.scanner.skipIgnored.forward word.toList.length))
      simp only [if_true]
      split at outcome
      next closes =>
        rw [outcome.1]
        exact fun _ => Nat.le_max_left _ _
      next =>
        obtain ⟨error, failed⟩ := outcome
        rw [failed]
        exact fun _ => Nat.le_max_left _ _

theorem solid_quote : ∀ character ∈ word.toList, Mark.of character ≠ .space := by
  intro character member same
  rw [quote.word] at member
  obtain rfl := List.mem_singleton.mp member
  rw [quote.quote] at same
  cases same

theorem quotedBy_mirrors (kind : String) (quiet : Silent word setting.rest) {start longer : Parser}
    (place : start.At (room + 1) depth) (related : setting.Related start longer) (base : Nat) :
    setting.Mirrors id base start longer (Parse.quotedBy word kind start)
      (Parse.quotedBy word kind longer) := by
  rw [quotedBy_eq kind place.skips, quotedBy_eq kind related.skips,
    meets_longer related (solid_quote quote) place (.inr quiet)]
  cases meets : start.scanner.meets word with
  | false =>
      intro counted
      exact ⟨_, rfl, related.moved (skip_reads place).1
        ⟨_, Scanner.skipIgnored_moves related.skips⟩ rfl related.taken counted
        (ahead_behind_gap place related)⟩
  | true =>
      have behind := ahead_behind_word place related meets
      have opened := Scanner.forward_skipIgnored_moves related.skips word.toList.length
      simp only [if_true]
      by_cases closes : mark ∈ (start.scanner.skipIgnored.forward word.toList.length).remaining
      · obtain ⟨body, after, afterLonger, missing, ok, moves, okLonger, movesLonger, remaining⟩ :=
          quotedBody_closed quote kind (start.moved (start.scanner.skipIgnored.forward word.toList.length))
            (longer.moved (longer.scanner.skipIgnored.forward word.toList.length)) behind closes
        rw [ok, okLonger]
        intro counted
        exact ⟨longer.moved afterLonger, rfl, related.moved (quoted_reads quote place meets moves missing).1
          ⟨_, opened.trans movesLonger⟩ rfl related.taken counted
          (congrArg (List.dropWhile CharClass.skipped) remaining)⟩
      · have openLonger : mark ∉ (longer.scanner.skipIgnored.forward word.toList.length).remaining := by
          rw [behind, closed_of_open quote place related meets closes, List.append_nil]
          exact closes
        obtain ⟨error, after, _, failed, _⟩ := quotedBody_open quote kind
          (start.moved (start.scanner.skipIgnored.forward word.toList.length)) closes
        obtain ⟨errorLonger, afterLonger, _, failedLonger, movesLonger⟩ := quotedBody_open quote kind
          (longer.moved (longer.scanner.skipIgnored.forward word.toList.length)) openLonger
        rw [failed, failedLonger]
        intro _ _
        exact ⟨_, _, rfl, movesLonger.skips.trans opened.skips,
          movesLonger.caseSensitive.trans opened.caseSensitive, rfl, rfl⟩

theorem quotedBy (kind : String) (quiet : Silent word setting.rest) :
    setting.Finds room (Parse.quotedBy word kind) (Parse.quotedBy word kind) := fun _ _ base _ _ => {
  reads := fun _ place => quotedBy_reads quote kind place
  limits := fun _ place => quotedBy_limits quote kind place
  mirrors := fun _ _ place related => quotedBy_mirrors quote kind quiet place related base }

end

theorem quoted? : setting.Finds room Parse.quoted? Parse.quoted? := by
  intro less bound base depth inside
  have double : Quote "\"" '\x22' := ⟨rfl, by decide⟩
  have single : Quote "'" '\x27' := ⟨rfl, by decide⟩
  refine Follows.bind (quotedBy double _ (setting.silent _ (by decide)) less bound base depth inside)
    fun found => ?_
  cases found with
  | some string => exact Follows.pure fun _ place => place
  | none => exact quotedBy single _ (setting.silent _ (by decide)) less bound base depth inside

end Setting

end PredicateRules
