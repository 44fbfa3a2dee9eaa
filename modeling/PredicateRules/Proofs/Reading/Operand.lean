import PredicateRules.Proofs.Reading.Numeral
import PredicateRules.Proofs.Reading.Token
import PredicateRules.Proofs.Scanner.Numeral

namespace PredicateRules

open PredicateRules.Parser

namespace Scanner

theorem Moves.ahead {start stop : Scanner} {run : List Char}
    (moves : Moves start stop (start.gap ++ run)) : start.ahead = run ++ stop.remaining := by
  have whole := moves.remaining
  rw [← gap_append_ahead, List.append_assoc] at whole
  exact List.append_cancel_left whole

end Scanner

namespace Setting

variable {setting : Setting} {room depth base : Nat}

theorem run_reads {start : Parser} {scanner : Scanner} {run : List Char}
    (place : start.At (room + 1) depth) (moves : start.scanner.Moves scanner (start.scanner.gap ++ run))
    (some : run ≠ []) (idle : ∀ character ∈ run, (Mark.of character).idle = true) :
    Advance start (start.moved scanner) ∧ (start.moved scanner).At room depth := by
  have lexis : (start.moved scanner).lexis = start.lexis := by
    refine (lexis_moves moves).trans ?_
    rw [List.foldl_append, Lexis.foldl_idle place.outside (idle_gap start.scanner)]
    exact Lexis.foldl_idle place.outside idle
  refine ⟨advance_moved moves (congrArg Lexis.placeholders lexis), ?_⟩
  exact {
    skips := moves.skips.trans place.skips
    room := by
      have shorter := (start.moved scanner).ahead_length
      have positive := List.length_pos_iff.mpr some
      have whole := congrArg List.length moves.ahead
      have := place.room
      simp only [List.length_append, Parser.moved] at whole shorter ⊢
      omega
    outside := lexis ▸ place.outside
    depth := lexis ▸ place.depth }

theorem behind_run {start longer : Parser} {scanner scannerLonger : Scanner} {run : List Char}
    (behind : longer.scanner.ahead = start.scanner.ahead ++ setting.back)
    (moves : start.scanner.Moves scanner (start.scanner.gap ++ run))
    (movesLonger : longer.scanner.Moves scannerLonger (longer.scanner.gap ++ run)) :
    scannerLonger.remaining = scanner.remaining ++ setting.back := by
  rw [moves.ahead, movesLonger.ahead, List.append_assoc] at behind
  exact List.append_cancel_left behind

section

variable {set : CharClass} (error : Location → ParseError)

theorem characters_some {parser : Parser} (skips : parser.scanner.skips = some CharClass.skipped)
    (solid : ∀ character ∈ CharClass.blanks, set character = false)
    (found : parser.scanner.ahead.takeWhile set ≠ []) :
    ∃ scanner, Parse.characters set error parser =
        .ok (parser.scanner.ahead.takeWhile set) (parser.moved scanner) ∧
      parser.scanner.Moves scanner
        (parser.scanner.gap ++ parser.scanner.ahead.takeWhile set) := by
  obtain ⟨scanner, scanned, moves⟩ := Scanner.scanCharacters_some skips solid found
  refine ⟨scanner, ?_, moves⟩
  simp only [Parse.characters, Parse.scan, bind, EStateM.bind, scanned]
  rfl

theorem characters_none {parser : Parser} (skips : parser.scanner.skips = some CharClass.skipped)
    (missing : parser.scanner.ahead.takeWhile set = []) :
    ∃ cause scanner, Parse.characters set error parser = .error cause (parser.moved scanner) ∧
      ∃ crossed, parser.scanner.Moves scanner crossed := by
  obtain ⟨scanner, scanned, moves⟩ := Scanner.scanCharacters_none skips missing
  refine ⟨error (parser.moved scanner).location, scanner, ?_, moves⟩
  simp only [Parse.characters, Parse.scan, bind, EStateM.bind, scanned]
  rfl

theorem takeWhile_longer {start longer : Parser} (related : setting.Related start longer)
    (excluded : set ' ' = false) (more : start.scanner.ahead ≠ []) :
    longer.scanner.ahead.takeWhile set = start.scanner.ahead.takeWhile set := by
  rw [(related.ahead_cases.resolve_left fun ends => more ends.1).2]
  exact (Scanner.takeWhile_append setting.spaced excluded _).1

theorem takeWhile_longer_nil {start longer : Parser} (place : start.At room depth)
    (related : setting.Related start longer) (excluded : set ' ' = false)
    (unnamed : setting.exact → ∀ character ∈ setting.rest.head?, set character = false)
    (inside : base ≤ depth) (follows : setting.exact ∨ 0 < base)
    (missing : start.scanner.ahead.takeWhile set = []) :
    longer.scanner.ahead.takeWhile set = [] := by
  rcases related.ahead_cases with ⟨none, behind⟩ | ⟨more, _⟩
  · rw [behind]
    rcases related.at_end place none with outside | ends
    · have exact_ := follows.resolve_right (by omega)
      cases rest : setting.rest with
      | nil => rfl
      | cons character text =>
          have unnamed := unnamed exact_ character (by rw [rest]; rfl)
          simp [unnamed]
    · simp [rest, ends]
  · rw [takeWhile_longer related excluded more, missing]

theorem characters (solid : ∀ character ∈ CharClass.blanks, set character = false)
    (idle : ∀ character ∈ Mark.special, set character = false)
    (unnamed : setting.exact → ∀ character ∈ setting.rest.head?, set character = false)
    (inside : base ≤ depth) :
    setting.Follows base (At (room + 1) depth) (Parse.characters set error)
      (Parse.characters set error) fun _ => At room depth where
  reads start place := by
    by_cases found : start.scanner.ahead.takeWhile set = []
    · obtain ⟨cause, scanner, same, crossed, moves⟩ := characters_none error place.skips found
      rw [same]
      exact kept_moved moves
    · obtain ⟨scanner, same, moves⟩ := characters_some error place.skips solid found
      rw [same]
      refine run_reads place moves found fun character member => ?_
      have member := List.all_eq_true.mp List.all_takeWhile character member
      exact Mark.idle_of_class idle member
  limits start place := by
    by_cases found : start.scanner.ahead.takeWhile set = []
    · obtain ⟨cause, scanner, same, _⟩ := characters_none error place.skips found
      rw [same]
      exact fun _ => Nat.le_max_left _ _
    · obtain ⟨scanner, same, _⟩ := characters_some error place.skips solid found
      rw [same]
      exact fun _ => Nat.le_max_left _ _
  mirrors start longer place related := by
    have excluded : set ' ' = false := solid ' ' (by decide)
    by_cases found : start.scanner.ahead.takeWhile set = []
    · obtain ⟨cause, scanner, same, crossed, moves⟩ := characters_none error place.skips found
      rw [same]
      intro taken follows
      obtain ⟨cause, scanner, same, crossed, moves⟩ := characters_none error related.skips
        (takeWhile_longer_nil place related excluded unnamed inside follows found)
      exact ⟨cause, _, same, moves.skips, moves.caseSensitive, rfl, rfl⟩
    · obtain ⟨scanner, same, moves⟩ := characters_some error place.skips solid found
      have reads := run_reads place moves found fun character member =>
        Mark.idle_of_class idle (List.all_eq_true.mp List.all_takeWhile character member)
      have more : start.scanner.ahead ≠ [] := by
        intro none
        simp [none] at found
      -- The longer text goes on with a space, at which the run ends, too.
      have sameRun := takeWhile_longer related excluded more
      obtain ⟨scannerLonger, sameLonger, movesLonger⟩ :=
        characters_some error related.skips solid (sameRun ▸ found)
      rw [sameRun] at sameLonger movesLonger
      rw [same]
      intro counted
      refine ⟨_, sameLonger, related.moved reads.1 ⟨_, movesLonger⟩ rfl related.taken counted ?_⟩
      have behind := (related.ahead_cases.resolve_left fun ends => more ends.1).2
      have remaining := behind_run behind moves movesLonger
      exact congrArg (List.dropWhile CharClass.skipped) remaining

end

theorem identifier (inside : base ≤ depth) :
    setting.Follows base (At (room + 1) depth) Parse.identifier Parse.identifier
      fun _ => At room depth := by
  refine Follows.bind (characters _ (by decide) (by decide) ?_ inside) fun name => ?_
  · exact fun exact_ character found => (setting.unnamed exact_ character found).1
  · exact Follows.pure fun _ place => place

theorem numeral_moves {scanner : Scanner} (skips : scanner.skips = some CharClass.skipped)
    {numeral : Numeral} {rest : List Char}
    (scanned : Numeral.scan scanner.ahead = some (numeral, rest)) :
    scanner.Moves (scanner.skipIgnored.forward numeral.text.length) (scanner.gap ++ numeral.text) := by
  have moves := Scanner.forward_skipIgnored_moves skips numeral.text.length
  rwa [← Numeral.text_append_of_scan scanned, List.take_left] at moves

theorem scanNumeral : setting.Follows base (At (room + 1) depth) (Parse.scan Scanner.scanNumeral)
    (Parse.scan Scanner.scanNumeral) fun found => At (if found.isSome then room else room + 1) depth := by
  refine follows_scan (fun start place => ?_) (fun start longer place related => ?_)
  · rw [Scanner.scanNumeral_eq place.skips]
    cases scanned : Numeral.scan start.scanner.ahead with
    | none => exact skip_reads place
    | some pair =>
        exact run_reads place (numeral_moves place.skips scanned) (Numeral.text_ne_nil scanned)
          (Numeral.idle_text scanned)
  · rw [Scanner.scanNumeral_eq place.skips, Scanner.scanNumeral_eq related.skips]
    rcases related.ahead_cases with ⟨none, behind⟩ | ⟨more, behind⟩
    · rw [none, behind, rest, setting.unnumbered]
      exact ⟨rfl, ⟨_, Scanner.skipIgnored_moves related.skips⟩, ahead_behind_gap place related⟩
    · have same := Numeral.scan_append_stop (fun character found => .inl (setting.spaced character found))
        start.scanner.ahead
      rw [← behind] at same
      cases scanned : Numeral.scan start.scanner.ahead with
      | none =>
          rw [same, scanned]
          exact ⟨rfl, ⟨_, Scanner.skipIgnored_moves related.skips⟩, ahead_behind_gap place related⟩
      | some pair =>
          rw [scanned] at same
          have moves := numeral_moves place.skips scanned
          have movesLonger := numeral_moves related.skips same
          rw [same]
          exact ⟨rfl, ⟨_, movesLonger⟩, congrArg (List.dropWhile CharClass.skipped)
            (behind_run behind moves movesLonger)⟩

theorem numericLiteral? : setting.Finds room Parse.numericLiteral? Parse.numericLiteral? := by
  intro less _ base depth _
  rw [Parse.numericLiteral?_eq]
  refine Follows.bind scanNumeral fun found => ?_
  cases found with
  | none => exact Follows.pure fun _ place => place
  | some numeral => exact Follows.pure fun _ place => place

def scanColon (scanner : Scanner) : Bool × Scanner :=
  match scanner.scanLiteral ":" with
  | (true, after) =>
    if after.peek = some '=' then (false, after.backTo scanner) else (true, after)
  | (false, after) => (false, after)

theorem selectorColon_eq : Parse.selectorColon = Parse.scan scanColon := by
  funext parser
  unfold Parse.selectorColon Parse.scan scanColon
  simp only [bind, EStateM.bind, Parse.scanner, Parse.literal, Parse.scan]
  cases parser.scanner.scanLiteral ":" with
  | mk found after =>
      cases found with
      | false => rfl
      | true =>
          by_cases equals : after.peek = some '=' <;>
            simp [EStateM.bind, Parse.scanner, equals, Parse.backTo, Parse.move, Parse.scan, pure,
              EStateM.pure]

theorem scanColon_reads {start : Parser} (place : start.At (room + 1) depth) :
    Advance start (start.moved (scanColon start.scanner).2) ∧
      (start.moved (scanColon start.scanner).2).At
        (if (scanColon start.scanner).1 then room else room + 1) depth := by
  unfold scanColon
  rw [Scanner.scanLiteral_eq place.skips]
  cases meets : start.scanner.meets ":" with
  | false => exact skip_reads place
  | true =>
      simp only [if_true]
      split
      next =>
        have kept := kept_moved (Scanner.forward_skipIgnored_moves place.skips ":".toList.length)
        exact ⟨kept.advance_back, place.back kept⟩
      next => exact word_reads (.of_even (by decide) depth) place meets

theorem scanColon_mirrors {start longer : Parser} (place : start.At room depth)
    (related : setting.Related start longer) :
    (scanColon longer.scanner).1 = (scanColon start.scanner).1 ∧
      (∃ crossed, longer.scanner.Moves (scanColon longer.scanner).2 crossed) ∧
      (scanColon longer.scanner).2.ahead =
        ((scanColon start.scanner).2.remaining ++ setting.back).dropWhile CharClass.skipped := by
  have quiet : 0 < depth ∨ Silent ":" setting.rest := .inr (setting.silent ":" (by decide))
  unfold scanColon
  rw [Scanner.scanLiteral_eq place.skips, Scanner.scanLiteral_eq related.skips,
    meets_longer related (by decide) place quiet]
  cases meets : start.scanner.meets ":" with
  | false =>
      exact ⟨rfl, ⟨_, Scanner.skipIgnored_moves related.skips⟩, ahead_behind_gap place related⟩
  | true =>
      have behind := ahead_behind_word place related meets
      have moves := Scanner.forward_skipIgnored_moves related.skips ":".toList.length
      have equals : (longer.scanner.skipIgnored.forward ":".toList.length).peek = some '=' ↔
          (start.scanner.skipIgnored.forward ":".toList.length).peek = some '=' := by
        simp only [Scanner.peek, behind]
        exact Scanner.head?_append setting.spaced (by decide) _
      simp only [if_true, equals]
      split
      next =>
        exact ⟨rfl, ⟨[], Scanner.backTo_moves _ _ moves.skips moves.caseSensitive⟩, related.ahead⟩
      next =>
        exact ⟨rfl, ⟨_, moves⟩, congrArg (List.dropWhile CharClass.skipped) behind⟩

theorem selectorColon : setting.Follows base (At (room + 1) depth) Parse.selectorColon
    Parse.selectorColon fun found =>
      At (if found then room else room + 1) (if found then depth else depth) := by
  rw [selectorColon_eq]
  simp only [ite_self]
  exact follows_scan (fun _ place => scanColon_reads place)
    fun _ _ place related => scanColon_mirrors place related

theorem scanColon_behind {longer : Scanner} (skips : longer.skips = some CharClass.skipped)
    (behind : longer.ahead =
      (setting.rest.dropWhile CharClass.identifier).dropWhile CharClass.skipped) :
    (scanColon longer).1 = false ∧ ∃ crossed, longer.Moves (scanColon longer).2 crossed := by
  have silent : longer.meets ":" = false := by
    unfold Scanner.meets
    rw [behind, rest, setting.unselected, Bool.and_false]
  unfold scanColon
  rw [Scanner.scanLiteral_eq skips, silent]
  exact ⟨rfl, _, Scanner.skipIgnored_moves skips⟩

def scanPart (scanner : Scanner) : Option String × Scanner :=
  match scanner.scanCharacters CharClass.identifier with
  | (some part, after) =>
    match scanColon after with
    | (true, behind) => (some (String.ofList part ++ ":"), behind)
    | (false, behind) => (none, behind.backTo scanner)
  | (none, after) => (none, after.backTo scanner)

theorem selectorPart?_eq : Parse.selectorPart? = Parse.scan scanPart := by
  funext parser
  unfold Parse.selectorPart? Parse.scan scanPart
  simp only [bind, EStateM.bind, Parse.scanner, selectorColon_eq]
  cases parser.scanner.scanCharacters CharClass.identifier with
  | mk part after =>
      cases part with
      | none => rfl
      | some part =>
          cases colon : scanColon after with
          | mk found behind =>
              cases found <;>
                simp [EStateM.bind, Parse.backTo, Parse.move, Parse.scan, pure, EStateM.pure, colon]

theorem scanPart_reads {start : Parser} (place : start.At (room + 1) depth) :
    Advance start (start.moved (scanPart start.scanner).2) ∧
      (start.moved (scanPart start.scanner).2).At
        (if (scanPart start.scanner).1.isSome then room else room + 1) depth := by
  unfold scanPart
  by_cases found : start.scanner.ahead.takeWhile CharClass.identifier = []
  · obtain ⟨after, scanned, crossed, moves⟩ := Scanner.scanCharacters_none place.skips found
    have kept := kept_moved moves
    rw [scanned]
    exact ⟨kept.advance_back, place.back kept⟩
  · obtain ⟨after, scanned, moves⟩ := Scanner.scanCharacters_some place.skips (by decide) found
    obtain ⟨advance, there⟩ := run_reads place moves found fun character member =>
      Mark.idle_of_class (by decide) (List.all_eq_true.mp List.all_takeWhile character member)
    rw [scanned]
    cases room with
    | zero => exact absurd there.room (Nat.not_lt_zero _)
    | succ room =>
        obtain ⟨advanceColon, thereColon⟩ := scanColon_reads there
        cases colon : scanColon after with
        | mk joined behind =>
            have same : scanColon (start.moved after).scanner = (joined, behind) := colon
            rw [same] at advanceColon thereColon
            simp only [colon]
            cases joined with
            | true => exact ⟨advance.trans advanceColon, thereColon.weaken (Nat.le_succ room)⟩
            | false =>
                have kept : Kept start (start.moved behind) := advance.kept.trans advanceColon.kept
                exact ⟨kept.advance_back, place.back kept⟩

theorem scanPart_unnamed {scanner : Scanner} (skips : scanner.skips = some CharClass.skipped)
    (missing : scanner.ahead.takeWhile CharClass.identifier = []) :
    ∃ after : Scanner, scanPart scanner = (none, after.backTo scanner) ∧
      scanner.Moves (after.backTo scanner) [] := by
  obtain ⟨after, scanned, crossed, moves⟩ := Scanner.scanCharacters_none skips missing
  refine ⟨after, ?_, Scanner.backTo_moves _ _ moves.skips moves.caseSensitive⟩
  rw [scanPart, scanned]

/-- Behind the text there is no part, with or without a name. -/
theorem scanPart_behind {longer : Scanner} (skips : longer.skips = some CharClass.skipped)
    (behind : longer.ahead = setting.rest) :
    ∃ after : Scanner, scanPart longer = (none, after.backTo longer) ∧
      longer.Moves (after.backTo longer) [] := by
  by_cases found : longer.ahead.takeWhile CharClass.identifier = []
  · exact scanPart_unnamed skips found
  · obtain ⟨after, scanned, moves⟩ := Scanner.scanCharacters_some skips (by decide) found
    have remaining : after.remaining = setting.rest.dropWhile CharClass.identifier := by
      have whole := moves.ahead
      rw [behind] at whole
      exact (List.append_cancel_left (List.takeWhile_append_dropWhile.trans whole)).symm
    obtain ⟨missing, crossed, movesColon⟩ := scanColon_behind (moves.skips.trans skips)
      (congrArg (List.dropWhile CharClass.skipped) remaining)
    rw [scanPart, scanned]
    cases colon : scanColon after with
    | mk joined last =>
        rw [colon] at missing movesColon
        cases missing
        have both := moves.trans movesColon
        exact ⟨last, by simp only [colon], Scanner.backTo_moves _ _ both.skips both.caseSensitive⟩

theorem scanPart_named {start longer : Parser} (place : start.At (room + 1) depth)
    (related : setting.Related start longer) (found : start.scanner.ahead.takeWhile CharClass.identifier ≠ []) :
    (scanPart longer.scanner).1 = (scanPart start.scanner).1 ∧
      (∃ crossed, longer.scanner.Moves (scanPart longer.scanner).2 crossed) ∧
      (scanPart longer.scanner).2.ahead =
        ((scanPart start.scanner).2.remaining ++ setting.back).dropWhile CharClass.skipped := by
  have more : start.scanner.ahead ≠ [] := by
    intro none
    simp [none] at found
  have behind := (related.ahead_cases.resolve_left fun ends => more ends.1).2
  have sameRun := takeWhile_longer related (by decide : CharClass.identifier ' ' = false) more
  obtain ⟨after, scanned, moves⟩ := Scanner.scanCharacters_some place.skips (by decide) found
  obtain ⟨afterLonger, scannedLonger, movesLonger⟩ :=
    Scanner.scanCharacters_some related.skips (by decide) (sameRun ▸ found)
  rw [sameRun] at scannedLonger movesLonger
  obtain ⟨advance, there⟩ := run_reads place moves found fun character member =>
    Mark.idle_of_class (by decide) (List.all_eq_true.mp List.all_takeWhile character member)
  have relatedThere : setting.Related (start.moved after) (longer.moved afterLonger) :=
    related.moved advance ⟨_, movesLonger⟩ rfl related.taken
      (related.counted ▸ advance.placeholders)
      (congrArg (List.dropWhile CharClass.skipped) (behind_run behind moves movesLonger))
  obtain ⟨same, ⟨crossed, movesColon⟩, aheadColon⟩ := scanColon_mirrors there relatedThere
  rw [scanPart, scanPart, scanned, scannedLonger]
  cases colon : scanColon after with
  | mk joined behindColon =>
      cases colonLonger : scanColon afterLonger with
      | mk joinedLonger behindLonger =>
          have here : scanColon (start.moved after).scanner = (joined, behindColon) := colon
          have hereLonger : scanColon (longer.moved afterLonger).scanner =
            (joinedLonger, behindLonger) := colonLonger
          rw [here, hereLonger] at same aheadColon
          rw [hereLonger] at movesColon
          obtain rfl : joinedLonger = joined := same
          have both := movesLonger.trans movesColon
          simp only [colon, colonLonger]
          cases joinedLonger with
          | true => exact ⟨rfl, ⟨_, both⟩, aheadColon⟩
          | false =>
              exact ⟨rfl, ⟨[], Scanner.backTo_moves _ _ both.skips both.caseSensitive⟩, related.ahead⟩

theorem scanPart_mirrors {start longer : Parser} (place : start.At (room + 1) depth)
    (related : setting.Related start longer) :
    (scanPart longer.scanner).1 = (scanPart start.scanner).1 ∧
      (∃ crossed, longer.scanner.Moves (scanPart longer.scanner).2 crossed) ∧
      (scanPart longer.scanner).2.ahead =
        ((scanPart start.scanner).2.remaining ++ setting.back).dropWhile CharClass.skipped := by
  by_cases found : start.scanner.ahead.takeWhile CharClass.identifier = []
  · obtain ⟨after, same, _⟩ := scanPart_unnamed place.skips found
    obtain ⟨afterLonger, sameLonger, moves⟩ : ∃ after : Scanner,
        scanPart longer.scanner = (none, after.backTo longer.scanner) ∧
          longer.scanner.Moves (after.backTo longer.scanner) [] := by
      rcases related.ahead_cases with ⟨_, behind⟩ | ⟨more, _⟩
      · exact scanPart_behind related.skips behind
      · exact scanPart_unnamed related.skips ((takeWhile_longer related (by decide) more).trans found)
    rw [same, sameLonger]
    exact ⟨rfl, ⟨_, moves⟩, related.ahead⟩
  · exact scanPart_named place related found

theorem selectorPart? : setting.Finds room Parse.selectorPart? Parse.selectorPart? := by
  intro less _ base depth _
  rw [selectorPart?_eq]
  exact follows_scan (fun _ place => scanPart_reads place)
    fun _ _ place related => scanPart_mirrors place related

end Setting

end PredicateRules
