import PredicateRules.Proofs.Reading.Beginning
import PredicateRules.Proofs.Reading.Repetition
import PredicateRules.Proofs.Reading.Whole

namespace PredicateRules

open PredicateRules.Parser

/-- The first term, and the further ones with the conjunctions before them, the latest first. -/
structure Chain where
  first : Predicate
  further : List (CompoundKind × Predicate)

namespace Chain

def add (kind : CompoundKind) (chain : Chain) (right : Predicate) : Chain :=
  { chain with further := (kind, right) :: chain.further }

/-- What further terms make of what is before them. -/
def foldFrom (left : Predicate) : List (CompoundKind × Predicate) → Predicate
  | [] => left
  | (kind, right) :: before => .fold kind (foldFrom left before) right

def predicate (chain : Chain) : Predicate := foldFrom chain.first chain.further

def append (chain behind : Chain) : Chain :=
  { chain with further := behind.further ++ (.and, behind.first) :: chain.further }

end Chain

namespace Parse

def termsWith (join : CompoundKind → α → Predicate → α) (begin : Predicate → α)
    (term : Parse Predicate) : Parse α := do
  joinFrom join term (begin (← term))

def wholeTerms (join : CompoundKind → α → Predicate → α) (begin : Predicate → α) : Parse α := do
  let joined ← termsWith join begin (termOf Parser.nextArgument)
  expectEnd
  return joined

def wholeChain : Parse Chain := wholeTerms Chain.add fun first => ⟨first, []⟩

end Parse

theorem Predicate.parse_iff_outcome? {text : String} {caseSensitive : Bool} {predicate : Predicate} :
    Predicate.parse text [] caseSensitive = .ok predicate ↔
      Parse.outcome? (Parse.wholePredicate Parser.nextArgument)
        (Parser.ofText text [] caseSensitive) = some predicate := by
  unfold Predicate.parse Parse.outcome?
  cases Parse.wholePredicate Parser.nextArgument (Parser.ofText text [] caseSensitive) with
  | ok found stop => simp
  | error error stop => simp

/-- The terms that the whole text joins. -/
def Chain.parse? (text : String) (caseSensitive : Bool) : Option Chain :=
  Parse.outcome? Parse.wholeChain (Parser.ofText text [] caseSensitive)

namespace Setting

theorem term (setting : Setting) (inOrder : setting.which = Parser.nextArgument)
    (same : setting.other = Parser.nextArgument) (room : Nat) :
    setting.Consumes room (Parse.termOf Parser.nextArgument) (Parse.termOf Parser.nextArgument) := by
  have term : setting.Consumes room (Parse.termOf setting.which) (Parse.termOf setting.other) :=
    termOf room
  rwa [inOrder, same] at term

theorem firstTerm (setting : Setting) (inOrder : setting.which = Parser.nextArgument)
    (same : setting.other = Parser.nextArgument) (room : Nat) :
    setting.Follows 0 (At (room + 1) 0) (Parse.termOf Parser.nextArgument)
      (Parse.termOf Parser.nextArgument) fun _ => At room 0 :=
  term setting inOrder same room room (Nat.le_refl room) 0 0 (Nat.le_refl 0)

theorem wholeTerms {α : Type} {join : CompoundKind → α → Predicate → α} {begin : Predicate → α}
    {image : Chain → α} (front : List Char) (room : Nat)
    (begins : ∀ first, image ⟨first, []⟩ = begin first)
    (maps : ∀ kind chain right, image (chain.add kind right) = join kind (image chain) right) :
    (behind front).FollowsAs image 0 (At room 0) Parse.wholeChain (Parse.wholeTerms join begin)
      fun _ parser => parser.At room 0 ∧ parser.scanner.ahead = [] := by
  have tracks := (term (behind front) rfl rfl room).tracks
  have terms : (behind front).FollowsAs image 0 (At room 0)
      (Parse.termsWith Chain.add (fun first => ⟨first, []⟩) (Parse.termOf Parser.nextArgument))
      (Parse.termsWith join begin (Parse.termOf Parser.nextArgument)) fun _ => At room 0 := by
    refine Follows.bind (tracks room (Nat.le_succ room) 0 0 (Nat.le_refl 0)) fun first => ?_
    show (behind front).FollowsAs image 0 (At room 0) _
      (Parse.joinFrom join _ (begin first)) fun _ => At room 0
    rw [← begins first]
    exact joinFrom tracks maps (.inr trivial) (by omega) (Nat.le_refl 0) _
  refine FollowsAs.bind terms fun chain => ?_
  exact Follows.bind (expectEnd rfl) fun _ => FollowsAs.pure fun _ place => place

end Setting

namespace Setting

variable {front : List Char} {text : String} {caseSensitive : Bool} {place : Parser} {room : Nat}

/-- A place where AND comes, and a text behind it. -/
structure BeforeAnd (front : List Char) (text : String) (caseSensitive : Bool) (place : Parser) :
    Prop where
  inside : place.Inside (front ++ text.toList) caseSensitive
  ahead : place.scanner.ahead = "AND".toList ++ ' ' :: text.toList

def behindAnd (place : Parser) : Parser :=
  place.moved (place.scanner.skipIgnored.forward "AND".toList.length)

theorem BeforeAnd.keyword (before : BeforeAnd front text caseSensitive place)
    (there : place.At room 0) :
    Parse.firstKeyword Parse.conjunctionWords place = .ok (some .and) (behindAnd place) := by
  have meets : place.scanner.meetsKeyword "AND" = true := by
    unfold Scanner.meetsKeyword Scanner.meets
    rw [before.ahead, Scanner.startsWith_self]
    rfl
  simp only [Parse.conjunctionWords, Parse.firstKeyword, bind, EStateM.bind, Parse.keyword,
    Parse.scan, Scanner.scanKeyword_eq there.skips, meets]
  rfl

theorem BeforeAnd.related (before : BeforeAnd front text caseSensitive place)
    (there : place.At room 0) :
    (behind front).Related (Parser.ofText text [] caseSensitive) (behindAnd place) := by
  have moves := Scanner.forward_skipIgnored_moves there.skips "AND".toList.length
  have remaining : (behindAnd place).scanner.remaining = ' ' :: text.toList := by
    show (place.scanner.skipIgnored.forward _).remaining = _
    simp only [Scanner.forward, Scanner.remaining_skipIgnored there.skips, before.ahead,
      List.drop_left]
  exact {
    text := by
      refine moves.text.trans (before.inside.whole.trans ?_)
      exact (List.append_nil _).symm
    ahead := by
      unfold Scanner.ahead
      rw [remaining]
      show (' ' :: text.toList).dropWhile _ = (text.toList ++ []).dropWhile _
      rw [List.append_nil]
      rfl
    skips := moves.skips.trans there.skips
    caseSensitive := moves.caseSensitive.trans before.inside.caseSensitive
    arguments := before.inside.arguments
    taken := before.inside.taken
    counted := rfl
    closed := fun some => absurd rfl some }

theorem joinStep_takes (chain : Chain) {parser : Parser} (there : parser.At (room + 1) 0)
    {next : Chain} {after : Parser}
    (outcome : Parse.joinStep Chain.add (Parse.termOf Parser.nextArgument) chain parser =
      .ok (some next) after) : after.At room 0 := by
  have follows : (behind []).FollowsAs (Option.map id) 0 (At (room + 1) 0)
      (Parse.joinStep Chain.add (Parse.termOf Parser.nextArgument) chain)
      (Parse.joinStep Chain.add (Parse.termOf Parser.nextArgument) chain) fun next =>
        At (if next.isSome then room else room + 1) 0 :=
    joinStep (Consumes.tracks (termOf room)) (fun _ _ _ => rfl) (.inr trivial) (Nat.le_succ room)
      (Nat.le_refl 0) chain
  have reads := follows.reads parser there
  rw [outcome] at reads
  exact reads.2

theorem joinFrom_and (before : BeforeAnd front text caseSensitive place) (there : place.At room 0)
    (chain : Chain) :
    Parse.joinFrom Chain.add (Parse.termOf Parser.nextArgument) chain place =
      Parse.termsWith Chain.add (chain.add .and) (Parse.termOf Parser.nextArgument)
        (behindAnd place) := by
  have unrolled := Parse.repeatWhile_eq
    (fun room chain parser there next after => joinStep_takes chain there) chain there
  refine unrolled.trans ?_
  simp only [Parse.joinStep, Parse.furtherTerm, bind, EStateM.bind, before.keyword there,
    Parse.termsWith]
  cases Parse.termOf Parser.nextArgument (behindAnd place) with
  | ok right after => rfl
  | error error after => rfl

/-- Behind AND the terms of the text come behind those before. -/
theorem wholeTerms_and (before : BeforeAnd front text caseSensitive place) (there : place.At room 0)
    (chain : Chain) :
    Parse.outcome? (do
        let joined ← Parse.joinFrom Chain.add (Parse.termOf Parser.nextArgument) chain
        Parse.expectEnd
        return joined) place =
      (Chain.parse? text caseSensitive).map chain.append := by
  have follows : ∀ room, (behind front).FollowsAs chain.append 0 (At room 0) Parse.wholeChain
      (Parse.wholeTerms Chain.add (chain.add .and)) fun _ parser =>
        parser.At room 0 ∧ parser.scanner.ahead = [] :=
    fun room => wholeTerms front room (fun _ => rfl) fun _ _ _ => rfl
  have same := FollowsAs.outcome?_eq (follows _) rfl rfl (Parser.at_ofText text [] caseSensitive)
    (before.related there) (.inl trivial)
  refine Eq.trans ?_ same
  unfold Parse.outcome? Parse.wholeTerms
  simp only [bind, EStateM.bind, joinFrom_and before there]

theorem truePredicate_and (text : String) (caseSensitive : Bool) :
    Chain.parse? ("TRUEPREDICATE AND " ++ text) caseSensitive =
      (Chain.parse? text caseSensitive).map (⟨.value true, []⟩ : Chain).append := by
  have letters : ("TRUEPREDICATE AND " ++ text).toList =
      "TRUEPREDICATE".toList ++ ' ' :: ("AND".toList ++ ' ' :: text.toList) := by
    simp [String.toList_append]
  have start := Parser.at_ofText ("TRUEPREDICATE AND " ++ text) [] caseSensitive
  have inside := Parser.inside_ofText ("TRUEPREDICATE AND " ++ text) caseSensitive
  have faces : (Parser.ofText ("TRUEPREDICATE AND " ++ text) [] caseSensitive).Faces
      ("TRUEPREDICATE".toList ++ ' ' :: ("AND".toList ++ ' ' :: text.toList)) := by
    refine ⟨rfl, ?_⟩
    show ("TRUEPREDICATE AND " ++ text).toList.dropWhile CharClass.skipped = _
    rw [letters]
    rfl
  obtain ⟨place, found, remaining⟩ := Parse.termOf_true Parser.nextArgument _ faces
  have reads := (firstTerm (behind []) rfl rfl _).reads _ start
  rw [found] at reads
  have before : BeforeAnd "TRUEPREDICATE AND ".toList text caseSensitive place := by
    refine ⟨?_, ?_⟩
    · rw [← String.toList_append]
      exact (firstTerm (behind []) rfl rfl _).inside rfl rfl start inside found
    · unfold Scanner.ahead
      rw [remaining]
      rfl
  refine Eq.trans ?_ (wholeTerms_and before reads.2 ⟨.value true, []⟩)
  unfold Chain.parse? Parse.outcome? Parse.wholeChain Parse.wholeTerms Parse.termsWith
  simp only [bind, EStateM.bind, found]

/-- A text with AND and another text behind it. The other text must not make a selector of AND. -/
def beforeAnd (text : String)
    (apart : Silent ":" (text.toList.dropWhile CharClass.skipped)) : Setting where
  front := []
  back := ' ' :: ("AND".toList ++ ' ' :: text.toList)
  which := Parser.nextArgument
  other := Parser.nextArgument
  exact := False
  spaced := by simp
  silent := by
    have solid : ∀ word ∈ operandWords, ∀ character ∈ word.toList, Mark.of character ≠ .space := by
      decide
    have other : ∀ word ∈ operandWords, Silent word "AND".toList := by
      decide
    exact fun word member => Parse.silent_before_space (solid word member) (other word member)
  unnumbered := rfl
  unselected := apart
  unjoined := False.elim
  unnamed := False.elim
  agree _ _ _ taken _ := taken

theorem furtherTerms (front : List Char) (room : Nat) (chain : Chain) :
    (behind front).FollowsAs id 0 (At room 0)
      (Parse.joinFrom Chain.add (Parse.termOf Parser.nextArgument) chain)
      (Parse.joinFrom Chain.add (Parse.termOf Parser.nextArgument) chain) fun _ => At room 0 := by
  have tracks := (term (behind front) rfl rfl room).tracks
  exact joinFrom tracks (fun _ _ _ => rfl) (.inr trivial) (by omega) (Nat.le_refl 0) chain

theorem joinFrom_eq (chain : Chain) {parser : Parser} (there : parser.At room 0) :
    Parse.joinFrom Chain.add (Parse.termOf Parser.nextArgument) chain parser =
      match Parse.furtherTerm (Parse.termOf Parser.nextArgument) parser with
      | .ok (some further) after =>
        Parse.joinFrom Chain.add (Parse.termOf Parser.nextArgument)
          (chain.add further.1 further.2) after
      | .ok none after => .ok chain after
      | .error error after => .error error after := by
  have unrolled := Parse.repeatWhile_eq
    (fun room chain parser there next after => joinStep_takes chain there) chain there
  refine unrolled.trans ?_
  simp only [Parse.joinStep, bind, EStateM.bind]
  cases Parse.furtherTerm (Parse.termOf Parser.nextArgument) parser with
  | error error after => rfl
  | ok further after => cases further <;> rfl

theorem furtherTermBeforeEnd (setting : Setting) (inOrder : setting.which = Parser.nextArgument)
    (same : setting.other = Parser.nextArgument) (room : Nat) :
    setting.Follows 0 (fun parser => parser.At (room + 1) 0 ∧ parser.scanner.ahead ≠ [])
      (Parse.furtherTerm (Parse.termOf Parser.nextArgument))
      (Parse.furtherTerm (Parse.termOf Parser.nextArgument)) fun further parser =>
        if further.isSome then parser.At room 0
        else parser.At (room + 1) 0 ∧ parser.scanner.ahead ≠ [] := by
  refine Follows.bind (firstKeywordBeforeEnd conjunctionWords_even) fun kind => ?_
  cases kind with
  | none => exact Follows.pure fun _ place => place
  | some kind =>
      have tracks := (term setting inOrder same room).tracks room (Nat.le_succ room)
      exact Follows.bind (tracks 0 0 (Nat.le_refl 0)) fun right => Follows.pure fun _ place => place

theorem furtherTermWithin (room : Nat) :
    (behind []).Follows 0 (At room 0) (Parse.furtherTerm (Parse.termOf Parser.nextArgument))
      (Parse.furtherTerm (Parse.termOf Parser.nextArgument)) fun _ => At room 0 := by
  cases room with
  | zero => exact FollowsAs.vacuous
  | succ room =>
      have tracks := (term (behind []) rfl rfl room).tracks
      refine (furtherTerm tracks (.inr trivial) (Nat.le_succ room) (Nat.le_refl 0)).weaken
        (fun _ => id) fun further _ place => place.weaken ?_
      cases further <;> simp

theorem furtherTerm_at_end {parser : Parser} (there : parser.At room 0)
    (ends : parser.scanner.ahead = []) :
    ∃ after, Parse.furtherTerm (Parse.termOf Parser.nextArgument) parser = .ok none after := by
  have passes : Parse.Passes [] (Parse.firstKeyword Parse.conjunctionWords) none :=
    Parse.firstKeyword_passes (by decide)
  obtain ⟨after, same, _⟩ := passes parser ⟨there.skips, ends⟩
  refine ⟨after, ?_⟩
  simp only [Parse.furtherTerm, bind, EStateM.bind, same]
  rfl

theorem joinFrom_before_and {text : String}
    {apart : Silent ":" (text.toList.dropWhile CharClass.skipped)} {whole : List Char}
    {caseSensitive : Bool} {roomLonger : Nat} {parser longer stop : Parser} {chain last : Chain}
    (there : parser.At room 0) (none : parser.arguments = [])
    (longerThere : longer.At roomLonger 0) (longerInside : longer.Inside whole caseSensitive)
    (related : (beforeAnd text apart).Related parser longer)
    (outcome : Parse.joinFrom Chain.add (Parse.termOf Parser.nextArgument) chain parser =
      .ok last stop)
    (ends : stop.scanner.ahead = []) :
    ∃ place, place.At roomLonger 0 ∧ place.Inside whole caseSensitive ∧
      place.scanner.ahead = "AND".toList ++ ' ' :: text.toList ∧
      Parse.joinFrom Chain.add (Parse.termOf Parser.nextArgument) chain longer =
        Parse.joinFrom Chain.add (Parse.termOf Parser.nextArgument) last place := by
  induction room generalizing parser longer chain with
  | zero => exact absurd there.room (Nat.not_lt_zero _)
  | succ room ih =>
      rw [joinFrom_eq chain there] at outcome
      by_cases more : parser.scanner.ahead = []
      · obtain ⟨after, same⟩ := furtherTerm_at_end there more
        rw [same] at outcome
        obtain ⟨rfl, rfl⟩ : chain = last ∧ after = stop := by simpa using outcome
        -- Where the one text ends, the other goes on with the conjunction.
        have behind := (related.ahead_cases.resolve_right fun other => other.1 more).2
        exact ⟨longer, longerThere, longerInside, behind, rfl⟩
      · have follows := furtherTermBeforeEnd (beforeAnd text apart) rfl rfl room
        have reads := follows.reads parser ⟨there, more⟩
        cases found : Parse.furtherTerm (Parse.termOf Parser.nextArgument) parser with
        | error error after =>
            rw [found] at outcome
            cases outcome
        | ok further after =>
            rw [found] at outcome reads
            obtain ⟨advance, place⟩ := reads
            cases further with
            | none =>
                obtain ⟨rfl, rfl⟩ : chain = last ∧ after = stop := by simpa using outcome
                exact absurd ends place.2
            | some further =>
                obtain ⟨longerAfter, longerFound, relatedAfter⟩ :=
                  follows.found rfl none ⟨there, more⟩ related found
                have longerTerm := furtherTermWithin roomLonger
                have longerReads := longerTerm.reads longer longerThere
                rw [longerFound] at longerReads
                have insideAfter := longerTerm.inside rfl longerInside.arguments longerThere
                  longerInside longerFound
                obtain ⟨place, placeThere, placeInside, behind, same⟩ :=
                  ih place (advance.arguments.trans none) longerReads.2 insideAfter relatedAfter outcome
                refine ⟨place, placeThere, placeInside, behind, ?_⟩
                rw [joinFrom_eq chain longerThere, longerFound]
                exact same

theorem wholeChain_ok {start stop : Parser} {chain : Chain}
    (outcome : Parse.wholeChain start = .ok chain stop) :
    ∃ first middle after, Parse.termOf Parser.nextArgument start = .ok first middle ∧
      Parse.joinFrom Chain.add (Parse.termOf Parser.nextArgument) ⟨first, []⟩ middle =
        .ok chain after ∧
      Parse.expectEnd after = .ok () stop := by
  simp only [Parse.wholeChain, Parse.wholeTerms, Parse.termsWith, bind, EStateM.bind] at outcome
  cases head : Parse.termOf Parser.nextArgument start with
  | error error middle => simp [head] at outcome
  | ok first middle =>
      simp only [head] at outcome
      cases tail : Parse.joinFrom Chain.add (Parse.termOf Parser.nextArgument) ⟨first, []⟩ middle with
      | error error after => simp [tail] at outcome
      | ok last after =>
          simp only [tail] at outcome
          cases ending : Parse.expectEnd after with
          | error error stop => simp [ending] at outcome
          | ok _ stop =>
              simp only [ending] at outcome
              cases outcome
              exact ⟨first, middle, after, rfl, tail, ending⟩

theorem expectEnd_ok {parser stop : Parser} (there : parser.At room 0)
    (outcome : Parse.expectEnd parser = .ok () stop) : parser.scanner.ahead = [] := by
  simp only [Parse.expectEnd, bind, EStateM.bind, Parse.scan, Scanner.atEnd_eq there.skips] at outcome
  cases empty : parser.scanner.ahead.isEmpty with
  | true => exact List.isEmpty_iff.mp empty
  | false => simp [empty, Parse.fail] at outcome

theorem related_beforeAnd {text other : String} {caseSensitive : Bool}
    (apart : Silent ":" (other.toList.dropWhile CharClass.skipped))
    (outside : (Lexis.after text.toList.reverse).quote = none)
    (depth : (Lexis.after text.toList.reverse).depth = 0) :
    (beforeAnd other apart).Related (Parser.ofText text [] caseSensitive)
      (Parser.ofText (text ++ " AND " ++ other) [] caseSensitive) where
  text := by
    show (text ++ " AND " ++ other).toList = [] ++ text.toList ++ _
    simp [String.toList_append, beforeAnd]
  ahead := by
    show (text ++ " AND " ++ other).toList.dropWhile _ = (text.toList ++ _).dropWhile _
    simp [String.toList_append, beforeAnd]
  skips := rfl
  caseSensitive := rfl
  arguments := rfl
  taken := rfl
  counted := rfl
  closed _ := ⟨outside, depth⟩

/-- The terms of a text come before those of the text behind AND. -/
theorem chain_and {text other : String} {caseSensitive : Bool} {chain : Chain}
    (apart : Silent ":" (other.toList.dropWhile CharClass.skipped))
    (accepted : Chain.parse? text caseSensitive = some chain) :
    Chain.parse? (text ++ " AND " ++ other) caseSensitive =
      (Chain.parse? other caseSensitive).map chain.append := by
  have start := Parser.at_ofText text [] caseSensitive
  have longerStart := Parser.at_ofText (text ++ " AND " ++ other) [] caseSensitive
  have longerInside := Parser.inside_ofText (text ++ " AND " ++ other) caseSensitive
  obtain ⟨stop, outcome⟩ := Parse.ok_of_outcome? accepted
  obtain ⟨first, middle, after, head, tail, ending⟩ := wholeChain_ok outcome
  have headReads := (firstTerm (behind []) rfl rfl _).reads _ start
  rw [head] at headReads
  obtain ⟨headAdvance, middleThere⟩ := headReads
  have tailReads := (furtherTerms [] _ ⟨first, []⟩).reads middle middleThere
  rw [tail] at tailReads
  obtain ⟨tailAdvance, afterThere⟩ := tailReads
  have ends := expectEnd_ok afterThere ending
  have whole : after.scanner.text = text.toList := (headAdvance.trans tailAdvance).text
  have last := Parser.lexis_at_end afterThere.outside ends
  rw [whole] at last
  have related : (beforeAnd other apart).Related (Parser.ofText text [] caseSensitive)
      (Parser.ofText (text ++ " AND " ++ other) [] caseSensitive) :=
    related_beforeAnd apart (last ▸ afterThere.outside) (last ▸ afterThere.depth)
  obtain ⟨longerMiddle, longerHead, relatedMiddle⟩ :=
    (firstTerm (beforeAnd other apart) rfl rfl _).found rfl rfl start related head
  have longerReads := (firstTerm (behind []) rfl rfl _).reads _ longerStart
  rw [longerHead] at longerReads
  have middleInside := (firstTerm (behind []) rfl rfl _).inside rfl rfl longerStart longerInside longerHead
  obtain ⟨place, placeThere, placeInside, ahead, same⟩ := joinFrom_before_and middleThere
    headAdvance.arguments longerReads.2 middleInside relatedMiddle tail ends
  have before : BeforeAnd (text ++ " AND ").toList other caseSensitive place := by
    refine ⟨?_, ahead⟩
    rw [← String.toList_append]
    exact placeInside
  refine Eq.trans ?_ (wholeTerms_and before placeThere chain)
  unfold Chain.parse? Parse.outcome? Parse.wholeChain Parse.wholeTerms Parse.termsWith
  simp only [bind, EStateM.bind, longerHead, id, same]

end Setting

namespace Chain

theorem parse_eq (text : String) (caseSensitive : Bool) (predicate : Predicate) :
    Predicate.parse text [] caseSensitive = .ok predicate ↔
      ∃ chain, parse? text caseSensitive = some chain ∧ chain.predicate = predicate := by
  have follows : ∀ room, (Setting.behind []).FollowsAs Chain.predicate 0 (At room 0)
      Parse.wholeChain (Parse.wholePredicate Parser.nextArgument) fun _ parser =>
        parser.At room 0 ∧ parser.scanner.ahead = [] :=
    fun room => Setting.wholeTerms [] room (fun _ => rfl) fun _ _ _ => rfl
  have same := Setting.FollowsAs.outcome?_eq (follows _) rfl rfl
    (Parser.at_ofText text [] caseSensitive) (Setting.related_ofText rfl rfl text [] caseSensitive)
    (.inl trivial)
  rw [Predicate.parse_iff_outcome?, same, Option.map_eq_some_iff]
  rfl

theorem toOption_parse (text : String) (caseSensitive : Bool) :
    (Predicate.parse text [] caseSensitive).toOption =
      (parse? text caseSensitive).map Chain.predicate := by
  cases parsed : Predicate.parse text [] caseSensitive with
  | ok predicate =>
      obtain ⟨chain, found, same⟩ := (parse_eq text caseSensitive predicate).mp parsed
      rw [found, Option.map_some, same]
      rfl
  | error cause =>
      cases found : parse? text caseSensitive with
      | none => rfl
      | some chain =>
          have read := (parse_eq text caseSensitive _).mpr ⟨chain, found, rfl⟩
          rw [parsed] at read
          cases read

variable {text other : String} {caseSensitive : Bool}

theorem silent_of_accepted {chain : Chain} (accepted : parse? text caseSensitive = some chain) :
    Silent ":" (text.toList.dropWhile CharClass.skipped) := by
  intro caseMatters
  refine Bool.eq_false_iff.mpr fun colon => ?_
  obtain ⟨stop, outcome⟩ := Parse.ok_of_outcome? accepted
  obtain ⟨first, middle, _, head, _⟩ := Setting.wholeChain_ok outcome
  cases front : text.toList.dropWhile CharClass.skipped with
  | nil => simp [front, Scanner.startsWith] at colon
  | cons character rest =>
      rw [front] at colon
      have same : Scanner.sameChar caseMatters character ':' = true :=
        (Bool.and_eq_true_iff.mp colon).1
      obtain rfl := Mark.eq_of_of_eq_colon (Mark.of_sameChar same)
      obtain ⟨error, other, refused⟩ := Parse.termOf_refuses Parser.nextArgument
        (Parser.ofText text [] caseSensitive) ⟨rfl, front⟩
      rw [refused] at head
      cases head

/-- Texts that are joined with AND join their terms. -/
theorem parse?_and {chain behind : Chain} (accepted : parse? text caseSensitive = some chain)
    (acceptedBehind : parse? other caseSensitive = some behind) :
    parse? (text ++ " AND " ++ other) caseSensitive = some (chain.append behind) := by
  rw [Setting.chain_and (silent_of_accepted acceptedBehind) accepted, acceptedBehind]
  rfl

end Chain

end PredicateRules
