import PredicateRules.Proofs.Reading.Expression

namespace PredicateRules

open PredicateRules.Parser

namespace Setting

variable {setting : Setting} {room less base depth : Nat}

theorem bracketed {word : String} (listed : word ∈ ["[cd]", "[c]", "[d]"]) (depth : Nat) :
    Word word depth depth := by
  simp only [List.mem_cons, List.not_mem_nil, or_false] at listed
  rcases listed with rfl | rfl | rfl <;> exact ⟨by decide, by decide, by decide, fun _ => rfl⟩

theorem comparisonOptions : setting.Follows base (At less depth) Parse.comparisonOptions
    Parse.comparisonOptions fun _ => At less depth := by
  refine Follows.branch (literalWithin (bracketed (by decide) depth) (quiet (by decide) depth))
    (Follows.pure fun _ place => place) ?_
  refine Follows.branch (literalWithin (bracketed (by decide) depth) (quiet (by decide) depth))
    (Follows.pure fun _ place => place) ?_
  exact Follows.branch (literalWithin (bracketed (by decide) depth) (quiet (by decide) depth))
    (Follows.pure fun _ place => place) (Follows.pure fun _ place => place)

theorem modifierWords_listed : ∀ word ∈ Parse.modifierWords.map Prod.fst,
    Even word ∧ word ∈ operandWords := by
  decide

theorem operatorWords_listed : ∀ word ∈ Parse.operatorWords.map Prod.fst,
    Even word ∧ word ∈ operandWords := by
  decide

theorem conjunctionWords_even : ∀ word ∈ Parse.conjunctionWords.map Prod.fst, Even word := by
  decide

theorem comparison (room : Nat) :
    setting.Consumes room (Parse.comparison setting.which) (Parse.comparison setting.other) := by
  intro less _ base depth inside
  refine Follows.bind (firstKeyword (fun word member => (modifierWords_listed word member).1)
    (fun word member => quiet (modifierWords_listed word member).2 depth)) fun modifier => ?_
  have operand : setting.Consumes less (Parse.expressionWith setting.which)
    (Parse.expressionWith setting.other) := expressionWith less
  have left : setting.Follows base (At (if modifier.isSome then less else less + 1) depth)
      (Parse.expressionWith setting.which) (Parse.expressionWith setting.other)
      fun _ => At less depth := by
    cases modifier with
    | some _ => exact operand.tracks less (Nat.le_succ less) base depth inside
    | none => exact operand less (Nat.le_refl less) base depth inside
  refine Follows.bind left fun left => ?_
  refine Follows.bind (firstKeywordWithin
    (fun word member => (operatorWords_listed word member).1)
    (fun word member => quiet (operatorWords_listed word member).2 depth)) fun operator => ?_
  cases operator with
  | none => exact FollowsAs.fail
  | some operator =>
      refine Follows.bind comparisonOptions fun options => ?_
      refine Follows.bind (operand.tracks less (Nat.le_succ less) base depth inside) fun right => ?_
      exact Follows.pure fun _ place => place

section

variable {term termLonger : Parse Predicate} (tracks : setting.Tracks room term termLonger)

include tracks

theorem furtherTerm (joined : 0 < depth ∨ setting.exact) (bound : less ≤ room)
    (inside : base ≤ depth) :
    setting.Follows base (At (less + 1) depth) (Parse.furtherTerm term)
      (Parse.furtherTerm termLonger) fun further =>
        At (if further.isSome then less else less + 1) depth := by
  have silent : ∀ word ∈ Parse.conjunctionWords.map Prod.fst, 0 < depth ∨ Silent word setting.rest :=
    fun word member => joined.imp_right fun exact_ => setting.unjoined exact_ word member
  refine Follows.bind (firstKeyword conjunctionWords_even silent) fun kind => ?_
  cases kind with
  | none => exact Follows.pure fun _ place => place
  | some kind =>
      exact Follows.bind (tracks less bound base depth inside) fun right =>
        Follows.pure fun _ place => place

section

variable {α β : Type} {join : CompoundKind → α → Predicate → α}
  {joinLonger : CompoundKind → β → Predicate → β} {image : α → β}
  (maps : ∀ kind left right, image (join kind left right) = joinLonger kind (image left) right)

include maps

theorem joinStep (joined : 0 < depth ∨ setting.exact) (bound : less ≤ room) (inside : base ≤ depth)
    (left : α) :
    setting.FollowsAs (Option.map image) base (At (less + 1) depth) (Parse.joinStep join term left)
      (Parse.joinStep joinLonger termLonger (image left)) fun next =>
        At (if next.isSome then less else less + 1) depth := by
  refine Follows.bind (furtherTerm tracks joined bound inside) fun further => ?_
  cases further with
  | none => exact FollowsAs.pure fun _ place => place
  | some further =>
      simp only [Option.map_some, ← maps]
      exact FollowsAs.pure fun _ place => place

theorem joinFrom (joined : 0 < depth ∨ setting.exact) (bound : less ≤ room + 1)
    (inside : base ≤ depth) (left : α) :
    setting.FollowsAs image base (At less depth) (Parse.joinFrom join term left)
      (Parse.joinFrom joinLonger termLonger (image left)) fun _ => At less depth := by
  unfold Parse.joinFrom Parse.repeatWhile
  refine FollowsAs.recurse (ι := α) (room + 1) 0 (fun _ => base) (fun _ => depth) (fun _ => depth)
    id image ?_ left bound
  intro rest below again againLonger follows left
  refine FollowsAs.bind (joinStep tracks maps joined (by omega) inside left) fun next => ?_
  cases next with
  | none => exact FollowsAs.pure fun _ place => place
  | some next =>
      exact (follows next rest (Nat.le_refl _)).weaken (fun _ => id)
        fun _ _ place => place.weaken (Nat.le_succ rest)

end

theorem terms (joined : 0 < depth ∨ setting.exact) (bound : less ≤ room) (inside : base ≤ depth) :
    setting.Follows base (At less depth) (Parse.terms term) (Parse.terms termLonger)
      fun _ => At less depth := by
  refine Follows.bind (tracks less bound base depth inside) fun first => ?_
  exact joinFrom tracks (fun _ _ _ => rfl) joined (by omega) inside first

theorem parenthesized (bound : less ≤ room) (inside : base ≤ depth + 1) :
    setting.Follows base (At less (depth + 1)) (Parse.parenthesized term)
      (Parse.parenthesized termLonger) fun _ => At less depth := by
  refine Follows.bind (terms tracks (.inl (Nat.succ_pos depth)) bound inside) fun inner => ?_
  exact Follows.bind (closing rfl (by decide) _) fun _ => Follows.pure fun _ place => place

end

theorem Related.word {word : String} {stop : Nat} {start longer : Parser}
    (related : setting.Related start longer) (token : Word word depth stop)
    (place : start.At (room + 1) depth) (meets : start.scanner.meets word = true) :
    setting.Related (start.moved (start.scanner.skipIgnored.forward word.toList.length))
      (longer.moved (longer.scanner.skipIgnored.forward word.toList.length)) := by
  have advance := (word_reads token place meets).1
  have behind := ahead_behind_word place related meets
  have moves := Scanner.forward_skipIgnored_moves related.skips word.toList.length
  have counted := related.counted ▸ advance.placeholders
  exact related.moved advance ⟨_, moves⟩ rfl related.taken counted
    (congrArg (List.dropWhile CharClass.skipped) behind)

theorem opened?_literal (which : Parser → Nat) (term : Parse Predicate) (parser : Parser) :
    Parse.opened? which term parser =
      match Parse.literal "(" parser with
      | .ok true opened =>
        match Parse.parenthesized term opened with
        | .ok inner stop => .ok (some inner) stop
        | .error error stop =>
          match Parse.comparison which (stop.back parser) with
          | .ok operands last => .ok (some operands) last
          | .error _ last => .error error last
      | .ok false stop => .ok none stop
      | .error error stop => .error error stop := by
  simp only [Parse.opened?, bind, EStateM.bind, Parse.scanner]
  cases Parse.literal "(" parser with
  | error error stop => rfl
  | ok found opened =>
      cases found with
      | false => rfl
      | true =>
          simp only [if_true, EStateM.bind, Parse.attempt]
          generalize Parse.parenthesized term _ = outcome
          cases outcome with
          | ok inner stop => rfl
          | error error stop =>
              simp only [Parse.backTo, Parse.move, Parse.scan, Parse.attempt, EStateM.bind, Parser.back,
                Parser.moved]
              generalize Parse.comparison which _ = second
              cases second <;> rfl

theorem opened?_eq (which : Parser → Nat) (term : Parse Predicate) {parser : Parser}
    (skips : parser.scanner.skips = some CharClass.skipped) :
    Parse.opened? which term parser =
      if parser.scanner.meets "(" then
        match Parse.parenthesized term
            (parser.moved (parser.scanner.skipIgnored.forward "(".toList.length)) with
        | .ok inner stop => .ok (some inner) stop
        | .error error stop =>
          match Parse.comparison which (stop.back parser) with
          | .ok operands last => .ok (some operands) last
          | .error _ last => .error error last
      else .ok none (parser.moved parser.scanner.skipIgnored) := by
  rw [opened?_literal]
  simp only [Parse.literal, Parse.scan, Scanner.scanLiteral_eq skips]
  cases parser.scanner.meets "(" <;> rfl

theorem parenthesis (depth : Nat) : Word "(" depth (depth + 1) := .opening rfl (by decide) depth

section

variable {term termLonger : Parse Predicate} {start : Parser}
  (inner : setting.Follows (depth + 1) (At less (depth + 1)) (Parse.parenthesized term)
    (Parse.parenthesized termLonger) fun _ => At less depth)
  (again : setting.Follows base (At (less + 1) depth) (Parse.comparison setting.which)
    (Parse.comparison setting.other) fun _ => At less depth)
  (place : start.At (less + 1) depth)

include inner again place

theorem opened?_reads : Reads start (fun result => At (if result.isSome then less else less + 1) depth)
    (Parse.opened? setting.which term start) := by
  rw [opened?_eq _ _ place.skips]
  cases meets : start.scanner.meets "(" with
  | false => exact skip_reads place
  | true =>
      obtain ⟨advance, there⟩ := word_reads (parenthesis depth) place meets
      have reads := inner.reads _ there
      simp only [if_true]
      cases outcome : Parse.parenthesized term
          (start.moved (start.scanner.skipIgnored.forward "(".toList.length)) with
      | ok found stop =>
          rw [outcome] at reads
          exact ⟨advance.trans reads.1, reads.2⟩
      | error error stop =>
          rw [outcome] at reads
          have kept : Kept start stop := advance.kept.trans reads
          have reads := again.reads _ (place.back kept)
          dsimp only
          cases outcomeAgain : Parse.comparison setting.which (stop.back start) with
          | ok operands last =>
              rw [outcomeAgain] at reads
              exact ⟨kept.advance_back.trans reads.1, reads.2⟩
          | error cause last =>
              rw [outcomeAgain] at reads
              exact kept.advance_back.kept.trans reads

theorem opened?_limits : setting.Limits start (Parse.opened? setting.which term start) := by
  rw [opened?_eq _ _ place.skips]
  cases meets : start.scanner.meets "(" with
  | false => exact fun _ => Nat.le_max_left _ _
  | true =>
      obtain ⟨advance, there⟩ := word_reads (parenthesis depth) place meets
      have reads := inner.reads _ there
      have limits := inner.limits _ there
      simp only [if_true]
      cases outcome : Parse.parenthesized term
          (start.moved (start.scanner.skipIgnored.forward "(".toList.length)) with
      | ok found stop =>
          rw [outcome] at limits
          exact limits
      | error error stop =>
          rw [outcome] at reads limits
          have kept : Kept start stop := advance.kept.trans reads
          have limitsAgain := again.limits _ (place.back kept)
          have same : (stop.back start).arguments.length = start.arguments.length :=
            congrArg List.length kept.arguments
          have taken : (stop.back start).nextArgument = stop.nextArgument := rfl
          have few : setting.which = Parser.nextArgument →
              stop.nextArgument ≤ max start.nextArgument start.arguments.length := limits
          dsimp only
          cases outcomeAgain : Parse.comparison setting.which (stop.back start) with
          | ok operands last =>
              rw [outcomeAgain] at limitsAgain
              intro inOrder
              have := few inOrder
              have := limitsAgain inOrder
              omega
          | error cause last =>
              rw [outcomeAgain] at limitsAgain
              intro inOrder
              have := few inOrder
              have := limitsAgain inOrder
              omega

omit again in
/-- An argument that is taken in vain is missing at the end, so where the text is read to its end,
what failed in parentheses took none and fails in the longer text, too. -/
theorem parenthesized_retried {longer stop : Parser} (related : setting.Related start longer)
    (meets : start.scanner.meets "(" = true) {error : ParseError}
    (outcome : Parse.parenthesized term
      (start.moved (start.scanner.skipIgnored.forward "(".toList.length)) = .error error stop)
    (taken : stop.nextArgument ≤ start.nextArgument) :
    ∃ cause longerStop, Parse.parenthesized termLonger
        (longer.moved (longer.scanner.skipIgnored.forward "(".toList.length)) =
      .error cause longerStop ∧
      setting.Related (stop.back start) (longerStop.back longer) := by
  obtain ⟨advance, there⟩ := word_reads (parenthesis depth) place meets
  have relatedThere := related.word (parenthesis depth) place meets
  have reads := inner.reads _ there
  have mirrors := inner.mirrors _ _ there relatedThere
  rw [outcome] at reads mirrors
  obtain ⟨cause, longerStop, same, spent⟩ := mirrors taken (.inr (Nat.succ_pos depth))
  have unchanged : Spent longer longerStop :=
    (related.spent relatedThere advance.kept rfl).trans spent
  exact ⟨cause, longerStop, same, related.back (advance.kept.trans reads) unchanged taken⟩

theorem opened?_compared {longer stop : Parser} (related : setting.Related start longer)
    (meets : start.scanner.meets "(" = true) (meetsLonger : longer.scanner.meets "(" = true)
    {error : ParseError}
    (outcome : Parse.parenthesized term
      (start.moved (start.scanner.skipIgnored.forward "(".toList.length)) = .error error stop) :
    setting.Mirrors id base start longer (Parse.opened? setting.which term start)
      (Parse.opened? setting.other termLonger longer) := by
  obtain ⟨advance, there⟩ := word_reads (parenthesis depth) place meets
  have reads := inner.reads _ there
  rw [outcome] at reads
  have kept : Kept start stop := advance.kept.trans reads
  have back := place.back kept
  have retried := parenthesized_retried inner place related meets outcome
  have readsAgain := again.reads _ back
  have mirrorsAgain := fun place => again.mirrors _ place back
  rw [opened?_eq _ _ place.skips, opened?_eq _ _ related.skips, meets, meetsLonger, outcome]
  simp only [if_true]
  cases outcomeAgain : Parse.comparison setting.which (stop.back start) with
  | ok operands last =>
      rw [outcomeAgain] at readsAgain mirrorsAgain
      intro counted
      have passed : (stop.back start).lexis = start.lexis := rfl
      have taken : (stop.back start).nextArgument = stop.nextArgument := rfl
      have advanced := readsAgain.1.taken
      have := related.counted
      rw [passed, taken] at advanced
      obtain ⟨cause, longerStop, same, relatedBack⟩ := retried (by omega)
      obtain ⟨longerLast, sameLast, relatedLast⟩ := mirrorsAgain _ relatedBack counted
      refine ⟨longerLast, ?_, relatedLast⟩
      rw [same]
      simp only [sameLast]
      rfl
  | error other last =>
      rw [outcomeAgain] at readsAgain mirrorsAgain
      intro taken exact_
      have fewer : stop.nextArgument ≤ last.nextArgument := readsAgain.taken
      have none := Nat.le_trans fewer taken
      obtain ⟨cause, longerStop, same, relatedBack⟩ := retried none
      obtain ⟨otherLonger, longerLast, sameLast, spent⟩ :=
        mirrorsAgain _ relatedBack (Nat.le_trans taken kept.taken) exact_
      have unchanged := related.spent relatedBack kept.advance_back.kept
        (Nat.le_antisymm none kept.taken)
      refine ⟨cause, longerLast, ?_, unchanged.trans spent⟩
      rw [same]
      simp only [sameLast]

theorem opened?_mirrors {longer : Parser} (related : setting.Related start longer) :
    setting.Mirrors id base start longer (Parse.opened? setting.which term start)
      (Parse.opened? setting.other termLonger longer) := by
  have quiet : 0 < depth ∨ Silent "(" setting.rest := quiet (by decide) depth
  have sameMeets := meets_longer related (parenthesis depth).solid place quiet
  cases meets : start.scanner.meets "(" with
  | false =>
      rw [opened?_eq _ _ place.skips, opened?_eq _ _ related.skips, sameMeets, meets]
      intro counted
      exact ⟨_, rfl, related.moved (skip_reads place).1
        ⟨_, Scanner.skipIgnored_moves related.skips⟩ rfl related.taken counted
        (ahead_behind_gap place related)⟩
  | true =>
      cases outcome : Parse.parenthesized term
          (start.moved (start.scanner.skipIgnored.forward "(".toList.length)) with
      | error error stop =>
          exact opened?_compared inner again place related meets (sameMeets.trans meets) outcome
      | ok found stop =>
          obtain ⟨_, there⟩ := word_reads (parenthesis depth) place meets
          have mirrors := inner.mirrors _ _ there (related.word (parenthesis depth) place meets)
          rw [outcome] at mirrors
          rw [opened?_eq _ _ place.skips, opened?_eq _ _ related.skips, sameMeets, meets, outcome]
          intro counted
          obtain ⟨longerStop, same, relatedStop⟩ := mirrors counted
          exact ⟨longerStop, by rw [same]; rfl, relatedStop⟩

end

section

variable {term termLonger : Parse Predicate} (tracks : setting.Tracks room term termLonger)

include tracks

theorem opened? : setting.Finds room (Parse.opened? setting.which term)
    (Parse.opened? setting.other termLonger) := by
  intro less bound base depth inside
  have inner : setting.Follows (depth + 1) (At less (depth + 1)) (Parse.parenthesized term)
      (Parse.parenthesized termLonger) fun _ => At less depth :=
    parenthesized tracks bound (Nat.le_refl (depth + 1))
  have again : setting.Follows base (At (less + 1) depth) (Parse.comparison setting.which)
      (Parse.comparison setting.other) fun _ => At less depth :=
    comparison less less (Nat.le_refl less) base depth inside
  exact {
    reads := fun _ place => opened?_reads inner again place
    limits := fun _ place => opened?_limits inner again place
    mirrors := fun _ _ place related => opened?_mirrors inner again place related }

theorem termWith : setting.Consumes room (Parse.termWith setting.which term)
    (Parse.termWith setting.other termLonger) := by
  intro less bound base depth inside
  unfold Parse.termWith
  refine Follows.bind (opened? tracks less bound base depth inside) fun opened => ?_
  cases opened with
  | some opened => exact Follows.pure fun _ place => place
  | none => ?_
  have negation : setting.Follows base (At less depth) (do return Predicate.negation (← term))
      (do return Predicate.negation (← termLonger)) fun _ => At less depth :=
    Follows.bind (tracks less bound base depth inside) fun _ => Follows.pure fun _ place => place
  have word : ∀ {word : String}, Even word → word ∈ operandWords →
      setting.Follows base (At (less + 1) depth) (Parse.keyword word) (Parse.keyword word)
        fun found => At (if found then less else less + 1) (if found then depth else depth) :=
    fun even listed => keyword (.of_even even depth) (quiet listed depth)
  refine Follows.branch (word (by decide) (by decide)) negation ?_
  refine Follows.branch (word (by decide) (by decide)) negation ?_
  refine Follows.branch (word (by decide) (by decide)) (Follows.pure fun _ place => place) ?_
  refine Follows.branch (word (by decide) (by decide)) (Follows.pure fun _ place => place) ?_
  exact comparison less less (Nat.le_refl less) base depth inside

end

theorem termOf (room : Nat) :
    setting.Consumes room (Parse.termOf setting.which) (Parse.termOf setting.other) :=
  Consumes.recurse (fun _ _ _ tracks => termWith tracks) room

theorem predicateWith (joined : 0 < depth ∨ setting.exact) (inside : base ≤ depth) :
    setting.Follows base (At (room + 1) depth) (Parse.predicateWith setting.which)
      (Parse.predicateWith setting.other) fun _ => At room depth := by
  have takes : setting.Consumes room (Parse.termOf setting.which) (Parse.termOf setting.other) :=
    termOf room
  refine Follows.bind (takes room (Nat.le_refl room) base depth inside) fun first => ?_
  exact joinFrom takes.tracks (fun _ _ _ => rfl) joined (Nat.le_add_right room 2) inside first

theorem expectEnd (ends : setting.back = []) :
    setting.Follows base (At room depth) Parse.expectEnd Parse.expectEnd fun _ parser =>
      parser.At room depth ∧ parser.scanner.ahead = [] := by
  have scan : setting.Follows base (At room depth) (Parse.scan Scanner.atEnd)
      (Parse.scan Scanner.atEnd) fun found parser =>
        parser.At room depth ∧ (found = true → parser.scanner.ahead = []) := by
    refine follows_scan (fun start place => ?_) (fun start longer place related => ?_)
    · rw [Scanner.atEnd_eq place.skips]
      have kept := kept_moved (Scanner.skipIgnored_moves place.skips)
      exact ⟨kept.advance_back, place.back kept, List.isEmpty_iff.mp⟩
    · have moves := Scanner.backTo_skipIgnored_moves related.skips
      have ahead := related.ahead
      rw [Scanner.atEnd_eq place.skips, Scanner.atEnd_eq related.skips]
      refine ⟨?_, ⟨_, moves⟩, ahead⟩
      rw [ahead, ends, List.append_nil]
      rfl
  refine Follows.bind scan fun found => ?_
  cases found with
  | true => exact Follows.pure fun _ place => ⟨place.1, place.2 rfl⟩
  | false => exact FollowsAs.fail

theorem wholePredicate (ends : setting.back = []) (exact_ : setting.exact) :
    setting.Follows 0 (At room 0) (Parse.wholePredicate setting.which)
      (Parse.wholePredicate setting.other) fun _ parser =>
        parser.At room 0 ∧ parser.scanner.ahead = [] := by
  have predicate : setting.Follows 0 (At room 0) (Parse.predicateWith setting.which)
      (Parse.predicateWith setting.other) fun _ => At room 0 :=
    FollowsAs.within (fun _ => predicateWith (.inr exact_) (Nat.le_refl 0)) room
  refine Follows.bind predicate fun predicate => ?_
  exact Follows.bind (expectEnd ends) fun _ => Follows.pure fun _ place => place

end Setting

end PredicateRules
