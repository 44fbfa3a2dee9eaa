import PredicateRules.Proofs.Cutting.Terms
import PredicateRules.Proofs.Printing.Predicate
import PredicateRules.Proofs.Reading.Whole

/-!
What begins with a parenthesis before a cut. Where it was read as an operand, because it is no predicate
in parentheses, it must not become one behind the cut. Such a predicate would end at a parenthesis of
the text before the cut, where the first reading would have ended as well; or it would reach over the
whole operand, but then the brackets of one of both readings would not be balanced.
-/

namespace PredicateRules

open PredicateRules.Parser

namespace Lexis

/-- Inside of the same quotation marks, and of no more brackets. -/
structure Shallower (lexis other : Lexis) : Prop where
  quote : lexis.quote = other.quote
  depth : lexis.depth ≤ other.depth

namespace Shallower

theorem step {lexis other : Lexis} (shallower : Shallower lexis other) (character : Char) :
    Shallower (lexis.step character) (other.step character) := by
  obtain ⟨quote, depth⟩ := shallower
  unfold Lexis.step
  rw [quote]
  cases other.quote with
  | some mark =>
      dsimp only
      split
      · exact ⟨rfl, depth⟩
      · exact ⟨quote, depth⟩
  | none =>
      cases Mark.of character with
      | quote mark => exact ⟨rfl, depth⟩
      | opening => exact ⟨rfl, Nat.succ_le_succ depth⟩
      | closing => exact ⟨rfl, Nat.sub_le_sub_right depth 1⟩
      | percent => exact ⟨rfl, depth⟩
      | _ => exact ⟨quote, depth⟩

theorem foldl {lexis other : Lexis} (shallower : Shallower lexis other) (text : List Char) :
    Shallower (text.foldl Lexis.step lexis) (text.foldl Lexis.step other) := by
  induction text generalizing lexis other with
  | nil => exact shallower
  | cons character text ih => exact ih (shallower.step character)

end Shallower

end Lexis

namespace Parser

def fresh (caseSensitive : Bool) (passed text : List Char) : Parser :=
  { scanner := { Scanner.ofText text with passed := passed, caseSensitive := caseSensitive }
    arguments := []
    nextArgument := 0
    trackLines := false }

theorem facing_fresh (caseSensitive : Bool) (passed text : List Char) :
    (fresh caseSensitive passed text).Facing caseSensitive text := ⟨rfl, rfl, rfl⟩

theorem at_fresh (caseSensitive : Bool) {passed text : List Char} {room : Nat}
    (outside : (Lexis.after passed).quote = none) (inside : (front text).length < room) :
    (fresh caseSensitive passed text).At room (Lexis.after passed).depth :=
  ⟨rfl, inside, outside, rfl⟩

theorem At.crossed {room depth : Nat} {start stop : Parser} (place : stop.At room depth)
    (advance : Advance start stop) {crossed : List Char}
    (remaining : start.scanner.remaining = crossed ++ stop.scanner.ahead) :
    (crossed.foldl Lexis.step start.lexis).quote = none ∧
      (crossed.foldl Lexis.step start.lexis).depth = depth := by
  obtain ⟨through, moves⟩ := advance.moves
  have same : through ++ stop.scanner.gap = crossed := by
    have whole : through ++ stop.scanner.gap ++ stop.scanner.ahead = crossed ++ stop.scanner.ahead := by
      rw [List.append_assoc, Scanner.gap_append_ahead, ← moves.remaining, remaining]
    exact List.append_cancel_right whole
  rw [← same, List.foldl_append, ← lexis_moves moves, Lexis.foldl_idle place.outside (idle_gap _)]
  exact ⟨place.outside, place.depth⟩

end Parser

namespace Parse

namespace Draws

variable {α : Type} {room roomAgain : Nat} {step again : Parse α} {spends : α → Bool}
  {caseSensitive : Bool} {text : List Char} {start place stop : Parser}

section

variable (draws : Draws room roomAgain step again spends) (facing : start.Facing caseSensitive text)
  (facingAgain : place.Facing caseSensitive text) (none : place.arguments = [])
  (inside : (front text).length < room) (insideAgain : (front text).length < roomAgain)

include facing facingAgain none

theorem shared_whole : Shared caseSensitive [] [] (front text) start place := by
  have shared := Shared.whole (facingAgain.ahead.trans facing.ahead.symm) facing.skips facingAgain.skips
    (facingAgain.caseSensitive.trans facing.caseSensitive.symm) none
  rwa [facing.ahead, facing.caseSensitive] at shared

include draws inside insideAgain

theorem rerun {result : α} (same : step start = .ok result stop)
    (untaken : stop.nextArgument = start.nextArgument) :
    ∃ last, again place = .ok result last ∧ last.scanner.ahead = stop.scanner.ahead := by
  have final : Cut stop.scanner.ahead [] [] := .final rfl fun _ _ _ found => nomatch found
  have fronted : Fronted stop.scanner.ahead := fronted_front stop.scanner.remaining
  obtain ⟨last, sameAgain, shared⟩ := draws.draws (by rwa [facing.ahead]) (by rwa [facingAgain.ahead])
    (shared_whole facing facingAgain none) same untaken final fronted
    (by rw [List.append_nil]; exact fronted.symm)
  refine ⟨last, sameAgain, ?_⟩
  rw [shared.aheadAgain, List.append_nil]
  exact fronted

theorem refail {error : ParseError} (same : step start = .error error stop)
    (untaken : stop.nextArgument = start.nextArgument) :
    ∃ error last, again place = .error error last :=
  draws.fails (by rwa [facing.ahead]) (by rwa [facingAgain.ahead])
    (shared_whole facing facingAgain none) same untaken

end

/-- The brackets in what is taken are balanced. -/
theorem balanced {crossed rest : List Char} (draws : Draws room room step step spends)
    (level : ∀ depth, (Setting.behind []).Follows 0 (At room depth) step step fun _ => At room depth)
    (facing : start.Facing caseSensitive (crossed ++ rest))
    (inside : (front (crossed ++ rest)).length < room) {result : α} (same : step start = .ok result stop)
    (untaken : stop.nextArgument = start.nextArgument) (ahead : stop.scanner.ahead = rest)
    {passed : List Char} (outside : (Lexis.after passed).quote = none) :
    (crossed.foldl Lexis.step (Lexis.after passed)).quote = none ∧
      (crossed.foldl Lexis.step (Lexis.after passed)).depth = (Lexis.after passed).depth := by
  obtain ⟨last, sameAgain, aheadAgain⟩ := draws.rerun facing
    (facing_fresh caseSensitive passed (crossed ++ rest)) rfl inside inside same untaken
  have reads := (level _).reads _ (at_fresh caseSensitive outside inside)
  rw [sameAgain] at reads
  exact reads.2.crossed reads.1 (by rw [aheadAgain, ahead]; rfl)

end Draws

section

variable {room roomAgain : Nat} {term termAgain : Parse Predicate} {caseSensitive : Bool}
  {text behind back other rest : List Char} {start place stop failed last : Parser}

theorem parenthesized_ok (self : Draws room room term term fun _ => true)
    (skips : place.scanner.skips = some CharClass.skipped) (inside : place.scanner.ahead.length < room)
    {result : Predicate} (same : parenthesized term place = .ok result stop) :
    ∃ inner middle taken rest, terms term place = .ok inner middle ∧ Spared place middle ∧
      middle.scanner.ahead = ')' :: rest ∧ place.scanner.ahead = taken ++ ')' :: rest := by
  have behaves := (Draws.terms self).behaves place skips inside
  simp only [parenthesized, bind, EStateM.bind] at same
  cases outcome : terms term place with
  | error error middle =>
      rw [outcome] at same
      cases same
  | ok inner middle =>
      rw [outcome] at behaves same
      obtain ⟨spared, ⟨crossed, moves⟩, _⟩ := behaves
      have closes : Scanner.startsWith middle.scanner.caseSensitive [')'] middle.scanner.ahead = true := by
        by_contra unclosed
        have rejects : Rejects middle.scanner.caseSensitive middle.scanner.remaining
            (expect ")" "predicate") :=
          expect_rejected ")" (by decide) "predicate" (Bool.eq_false_iff.mpr unclosed)
        obtain ⟨error, stop, rejected, _⟩ := rejects middle ⟨spared.skips.trans skips, rfl, rfl⟩
        dsimp only at same
        rw [rejected] at same
        cases same
      rw [startsWith_one (by decide)] at closes
      cases ahead : middle.scanner.ahead with
      | nil =>
          rw [ahead] at closes
          cases closes
      | cons first rest =>
          rw [ahead] at closes
          obtain rfl : first = ')' := by simpa using closes
          obtain ⟨taken, whole⟩ := moves.ahead_suffix
          exact ⟨inner, middle, taken, rest, rfl, spared, ahead, by rw [← ahead]; exact whole.symm⟩

section

variable (cut : Cut ('(' :: behind) back other)
  (facing : start.Facing caseSensitive ('(' :: (behind ++ back))) {result : Predicate}
  (compared : comparison Parser.nextArgument start = .ok result stop)
  (untaken : stop.nextArgument = start.nextArgument) (cutRest : Cut rest back other)
  (ahead : stop.scanner.ahead = front (rest ++ back)) (fronted : Fronted rest)

include facing compared untaken ahead fronted

theorem comparison_crossed (some : rest ≠ []) :
    ∃ crossed, behind = crossed ++ rest ∧
      (crossed.foldl Lexis.step (Lexis.after ['('])).quote = none ∧
      (crossed.foldl Lexis.step (Lexis.after ['('])).depth = 0 := by
  have aheadStart : start.scanner.ahead = '(' :: (behind ++ back) := facing.ahead
  have draws : Draws (start.scanner.ahead.length + 1) (start.scanner.ahead.length + 1)
      (comparison Parser.nextArgument) (comparison Parser.nextArgument) fun _ => true :=
    .comparison _
  have behaves := draws.behaves start facing.skips (Nat.lt_succ_self _)
  rw [compared] at behaves
  obtain ⟨_, ⟨_, moves⟩, shorter, _⟩ := behaves
  rw [fronted.append some] at ahead
  obtain ⟨crossed, whole⟩ := moves.ahead_suffix
  cases crossed with
  | nil =>
      have lengths := congrArg List.length whole
      rw [List.nil_append] at lengths
      exact absurd shorter (by rw [lengths]; exact Nat.not_succ_le_self _)
  | cons first crossed =>
      rw [aheadStart, ahead, List.cons_append, List.cons.injEq, ← List.append_assoc] at whole
      obtain ⟨rfl, whole⟩ := whole
      obtain rfl := List.append_cancel_right whole
      rw [List.append_assoc] at facing
      have level : ∀ depth, (Setting.behind []).Follows 0 (At (start.scanner.ahead.length + 1) depth)
          (comparison Parser.nextArgument) (comparison Parser.nextArgument)
          fun _ => At (start.scanner.ahead.length + 1) depth := fun depth =>
        (Setting.comparison _).tracks _ (Nat.le_succ _) 0 depth (Nat.zero_le depth)
      have inside : (front ('(' :: crossed ++ (rest ++ back))).length < start.scanner.ahead.length + 1 := by
        rw [facing.ahead]
        exact Nat.lt_succ_self _
      have outside : (Lexis.after []).quote = none := rfl
      exact ⟨crossed, rfl, draws.balanced level facing inside compared untaken ahead outside⟩

section

variable (self : Draws roomAgain roomAgain termAgain termAgain fun _ => true)
  (tracks : (Setting.behind []).Tracks roomAgain termAgain termAgain)
  (facingAgain : place.Facing caseSensitive (behind ++ other))
  (within : (front (behind ++ other)).length < roomAgain) {inner : Predicate} {taken closed : List Char}
  (outcome : terms termAgain place = .ok inner last) (untakenInner : last.nextArgument = place.nextArgument)
  (aheadInner : last.scanner.ahead = ')' :: closed)

include self tracks facingAgain within outcome untakenInner aheadInner

/-- Otherwise the brackets are balanced behind the comparison, and at the closing parenthesis they are as
many as before it, whether or not the opening one is counted. -/
theorem unclosed_behind (some : rest ≠ []) (gap : List Char) (same : other = gap ++ ')' :: closed) : False := by
  obtain ⟨crossed, rfl, outside, none⟩ := comparison_crossed facing compared untaken ahead fronted some
  have level : ∀ depth, (Setting.behind []).Follows 0 (At roomAgain depth) (terms termAgain)
      (terms termAgain) fun _ => At roomAgain depth := fun depth =>
    Setting.terms tracks (.inr trivial) (Nat.le_refl roomAgain) (Nat.zero_le depth)
  rw [same, ← List.append_assoc, List.append_assoc crossed] at facingAgain within
  have counts : ∀ passed, (Lexis.after passed).quote = Option.none →
      ((crossed ++ (rest ++ gap)).foldl Lexis.step (Lexis.after passed)).depth =
        (Lexis.after passed).depth := fun passed outside =>
    ((Draws.terms self).balanced level facingAgain within outcome untakenInner aheadInner outside).2
  have shallow : Lexis.Shallower (Lexis.after []) (Lexis.after ['(']) := ⟨rfl, Nat.zero_le _⟩
  have crossing := shallow.foldl crossed
  have deep : Lexis.Shallower (crossed.foldl Lexis.step (Lexis.after ['(']))
      (crossed.foldl Lexis.step (Lexis.after [])) :=
    ⟨crossing.quote.symm, none ▸ Nat.zero_le _⟩
  have less := (deep.foldl (rest ++ gap)).depth
  rw [← List.foldl_append, ← List.foldl_append, counts ['('] rfl, counts [] rfl] at less
  exact absurd less (by decide)

include cut cutRest

/-- A closing parenthesis behind the cut does not belong to the opening one. -/
theorem closes_before_cut (whole : front (behind ++ other) = taken ++ ')' :: closed) :
    ∃ further, front behind = taken ++ ')' :: further ∧ closed = further ++ other := by
  cases cut with
  | final none _ =>
      subst none
      rw [List.append_nil] at whole
      exact ⟨closed, whole, (List.append_nil closed).symm⟩
  | closing closing =>
      have closing : behind.getLast? = some ')' := by
        cases behind with
        | nil => cases closing
        | cons first behind => rwa [List.getLast?_cons_cons] at closing
      rw [front_of_solid ⟨')', List.mem_of_getLast? closing, by decide⟩] at whole
      have unclosed : ∀ gap, other = gap ++ ')' :: closed → False := fun gap same => by
        have some : rest ≠ [] := by
          cases cutRest with
          | final none _ => simp [none] at same
          | closing last => rintro rfl; cases last
        exact unclosed_behind facing compared untaken ahead fronted self tracks facingAgain within outcome
          untakenInner aheadInner some gap same
      rcases List.append_eq_append_iff.mp whole.symm with ⟨gap, same, sameRest⟩ | ⟨gap, same, sameRest⟩
      · cases gap with
        | nil => exact (unclosed [] sameRest.symm).elim
        | cons first gap =>
            rw [List.cons_append, List.cons.injEq] at sameRest
            obtain ⟨rfl, sameRest⟩ := sameRest
            exact ⟨gap, same, sameRest⟩
      · exact (unclosed gap sameRest).elim

end

end

end

/-- Two steps that repeat each other, and themselves. -/
structure Mutual (room roomAgain : Nat) (step again : Parse α) (spends : α → Bool) : Prop where
  there : Draws room roomAgain step again spends
  back : Draws roomAgain room again step spends
  self : Draws room room step step spends
  selfAgain : Draws roomAgain roomAgain again again spends

section

variable {room roomAgain : Nat} {term termAgain : Parse Predicate} (terms : Mutual room roomAgain term
    termAgain fun _ => true) (tracks : (Setting.behind []).Tracks roomAgain termAgain termAgain)
  {caseSensitive : Bool} {behind back other rest : List Char} {start stop opened place failed last : Parser}

include terms

theorem parenthesized_before_cut (facing : place.Facing caseSensitive (behind ++ other))
    (insideAgain : place.scanner.ahead.length < roomAgain)
    (inside : (front (behind ++ back)).length < room) {taken further : List Char}
    (closes : front behind = taken ++ ')' :: further) {inner : Predicate}
    (outcome : Parse.terms termAgain place = .ok inner last) (untaken : last.nextArgument = place.nextArgument)
    (ahead : last.scanner.ahead = ')' :: (further ++ other)) :
    ∃ finish, parenthesized term (fresh caseSensitive [] (behind ++ back)) = .ok inner finish := by
  have text : ∀ behindCut, taken ++ ')' :: (further ++ behindCut) =
      taken ++ [')'] ++ (further ++ behindCut) := by
    intro behindCut
    rw [List.append_assoc, List.singleton_append]
  have fronted : Fronted (taken ++ [')']) := by
    have whole := fronted_front behind
    rw [closes, ← List.append_nil further, text] at whole
    exact whole.of_append
  have fronts : ∀ behindCut,
      front (behind ++ behindCut) = front (taken ++ [')'] ++ (further ++ behindCut)) := by
    intro behindCut
    rw [← front_append, closes, List.append_assoc taken, ← text]
    rfl
  have closing : ∀ before, Cut (before ++ [')']) (further ++ other) (further ++ back) :=
    fun before => .closing List.getLast?_concat
  have shared : Shared caseSensitive (further ++ other) (further ++ back) (taken ++ [')']) place
      (fresh caseSensitive [] (behind ++ back)) := {
    cut := closing taken
    fronted := fronted
    facing := ⟨facing.skips, facing.caseSensitive, facing.ahead.trans (fronts other)⟩
    again := ⟨rfl, rfl, fronts back⟩
    arguments := rfl }
  have insideBack : (fresh caseSensitive [] (behind ++ back)).scanner.ahead.length < room := inside
  obtain ⟨after, repeated, sharedAfter⟩ := (Draws.terms terms.back).draws insideAgain insideBack shared
    outcome untaken (closing []) rfl ahead
  obtain ⟨finish, closed, _⟩ := expect_taken ")" (by decide) "predicate" after sharedAfter.again
  refine ⟨finish, ?_⟩
  simp only [parenthesized, bind, EStateM.bind, repeated, closed]
  rfl

include tracks

theorem unopened (cut : Cut ('(' :: behind) back other)
    (facing : start.Facing caseSensitive ('(' :: (behind ++ back))) {result : Predicate}
    (compared : comparison Parser.nextArgument start = .ok result stop)
    (untaken : stop.nextArgument = start.nextArgument) (cutRest : Cut rest back other)
    (ahead : stop.scanner.ahead = front (rest ++ back)) (fronted : Fronted rest)
    (facingOpened : opened.Facing caseSensitive (behind ++ back))
    (inside : (front (behind ++ back)).length < room) {error : ParseError}
    (rejected : parenthesized term opened = .error error failed)
    (untakenFailed : failed.nextArgument = opened.nextArgument)
    (facingPlace : place.Facing caseSensitive (behind ++ other)) (none : place.arguments = [])
    (insideAgain : (front (behind ++ other)).length < roomAgain) :
    ∃ error last, parenthesized termAgain place = .error error last := by
  cases outcome : parenthesized termAgain place with
  | error error last => exact ⟨error, last, rfl⟩
  | ok found last =>
      exfalso
      have short : place.scanner.ahead.length < roomAgain := by
        rw [facingPlace.ahead]
        exact insideAgain
      obtain ⟨inner, middle, taken, closed, outcomeTerms, spared, aheadTerms, whole⟩ :=
        parenthesized_ok terms.selfAgain facingPlace.skips short outcome
      obtain ⟨further, frontBehind, rfl⟩ := closes_before_cut cut facing compared untaken cutRest ahead
        fronted terms.selfAgain tracks facingPlace insideAgain outcomeTerms (spared.untaken none) aheadTerms
        (facingPlace.ahead.symm.trans whole)
      -- The second reading ended at a parenthesis of the first text, so the first would have, too.
      obtain ⟨finish, succeeds⟩ := parenthesized_before_cut terms facingPlace short inside frontBehind
        outcomeTerms (spared.untaken none) aheadTerms
      obtain ⟨error, last, failedAgain⟩ := (Draws.parenthesized terms.self).refail facingOpened
        (facing_fresh caseSensitive [] (behind ++ back)) rfl inside inside rejected untakenFailed
      rw [succeeds] at failedAgain
      cases failedAgain

end

section

variable {caseSensitive : Bool} {back other text rest behind : List Char} {start stop opened place : Parser}

theorem starts_opening (skips : start.scanner.skips = some CharClass.skipped)
    (found : literal "(" start = .ok true opened) : ∃ behind, start.scanner.ahead = '(' :: behind := by
  have solid : Solid "(" := by decide
  simp only [literal, scan, Scanner.scanLiteral_eq skips, meets_eq solid] at found
  cases starts : Scanner.startsWith start.scanner.caseSensitive ['('] start.scanner.ahead with
  | false =>
      rw [show "(".toList = ['('] from rfl, starts] at found
      cases found
  | true =>
      rw [startsWith_one (by decide)] at starts
      cases ahead : start.scanner.ahead with
      | nil =>
          rw [ahead] at starts
          cases starts
      | cons first behind =>
          rw [ahead] at starts
          exact ⟨behind, by rw [show first = '(' by simpa using starts]⟩

theorem Shared.text_opened (shared : Shared caseSensitive back other text start place)
    (found : literal "(" start = .ok true opened) (fronted : Fronted rest)
    (ahead : stop.scanner.ahead = front (rest ++ back))
    (shorter : stop.scanner.ahead.length + 1 ≤ start.scanner.ahead.length) :
    ∃ behind, text = '(' :: behind := by
  obtain ⟨behindStart, opening⟩ := starts_opening shared.facing.skips found
  have whole := shared.ahead
  cases text with
  | nil =>
      have least := fronted.length_le back
      rw [whole, ahead] at shorter
      simp only [List.nil_append] at shorter
      omega
  | cons first behind =>
      rw [shared.fronted.append (List.cons_ne_nil _ _), opening, List.cons_append, List.cons.injEq] at whole
      exact ⟨behind, by rw [whole.1]⟩

structure Opened (caseSensitive : Bool) (back other behind : List Char) (start place opened : Parser)
    (openedAgain : Parser) : Prop where
  again : literal "(" place = .ok true openedAgain
  shared : Shared caseSensitive back other (front behind) opened openedAgain
  spared : Spared start opened
  sparedAgain : Spared place openedAgain
  shorter : opened.scanner.ahead.length + 1 ≤ start.scanner.ahead.length
  shorterAgain : openedAgain.scanner.ahead.length + 1 ≤ place.scanner.ahead.length

theorem Shared.opens (shared : Shared caseSensitive back other ('(' :: behind) start place)
    (found : literal "(" start = .ok true opened) :
    ∃ openedAgain, Opened caseSensitive back other behind start place opened openedAgain := by
  have opens : ∀ room roomAgain, Draws room roomAgain (literal "(") (literal "(") id :=
    fun _ _ => .literal (by decide) (by decide)
  have solid : Solid "(" := by decide
  have aheadStart : start.scanner.ahead = '(' :: (behind ++ back) := shared.ahead
  have exactly := found
  simp only [literal, scan, Scanner.scanLiteral_eq shared.facing.skips, aheadStart, meets_eq solid] at exactly
  rw [show "(".toList = ['('] from rfl, startsWith_one (by decide)] at exactly
  cases exactly
  have untaken : (start.moved (start.scanner.skipIgnored.forward 1)).nextArgument = start.nextArgument := rfl
  have ahead : (start.moved (start.scanner.skipIgnored.forward 1)).scanner.ahead =
      front (front behind ++ back) := by
    rw [front_append]
    exact (ahead_forward_drop shared.facing.skips 1).trans (by rw [aheadStart]; rfl)
  obtain ⟨openedAgain, again, sharedAgain⟩ := (opens _ _).draws (Nat.lt_succ_self _) (Nat.lt_succ_self _)
    shared found untaken (shared.cut.behind (by decide)) (fronted_front behind) ahead
  have behaves := (opens _ 0).behaves start shared.facing.skips (Nat.lt_succ_self _)
  have behavesAgain := (opens _ 0).behaves place shared.again.skips (Nat.lt_succ_self _)
  rw [found] at behaves
  rw [again] at behavesAgain
  exact ⟨openedAgain, again, sharedAgain, behaves.1, behavesAgain.1, behaves.2.2.1, behavesAgain.2.2.1⟩

end

theorem isSome_opened? {term : Parse Predicate} {start opened stop : Parser} {result : Option Predicate}
    (found : literal "(" start = .ok true opened)
    (same : Parse.opened? Parser.nextArgument term start = .ok result stop) : result.isSome = true := by
  rw [Setting.opened?_literal, found] at same
  dsimp only at same
  revert same
  cases parenthesized term opened with
  | ok inner stop => rintro ⟨⟩; rfl
  | error error failed =>
      dsimp only
      cases comparison Parser.nextArgument (failed.back start) <;> rintro ⟨⟩
      rfl

namespace Draws

section

variable {room roomAgain : Nat} {term termAgain : Parse Predicate}
  (terms : Mutual (room - 1) (roomAgain - 1) term termAgain fun _ => true)

include terms

theorem behaves_opened? {start : Parser} (skips : start.scanner.skips = some CharClass.skipped)
    (inside : start.scanner.ahead.length < room) :
    Behaves start Option.isSome (Parse.opened? Parser.nextArgument term start) := by
  have opens : Draws room room (Parse.literal "(") (Parse.literal "(") id := .literal (by decide) (by decide)
  have behaves := opens.behaves start skips inside
  rw [Setting.opened?_literal]
  cases outcome : Parse.literal "(" start with
  | error error stop =>
      rw [outcome] at behaves
      exact behaves
  | ok found opened =>
      rw [outcome] at behaves
      cases found with
      | false => exact behaves
      | true =>
          have less : opened.scanner.ahead.length < room - 1 := by
            have : opened.scanner.ahead.length + 1 ≤ start.scanner.ahead.length := behaves.2.2.1
            omega
          have behavesInner := (Draws.parenthesized terms.self).behaves opened
            (behaves.1.skips.trans skips) less
          dsimp only
          cases outcomeInner : Parse.parenthesized term opened with
          | ok inner stop =>
              rw [outcomeInner] at behavesInner
              obtain ⟨spared, moves, shorter, crosses⟩ := behavesInner
              refine behaves.trans ⟨spared, moves, ?_, crosses⟩
              exact Nat.le_of_add_right_le shorter
          | error error failed =>
              rw [outcomeInner] at behavesInner
              have spared : Spared start failed := behaves.1.trans behavesInner
              have compares : Draws room room (Parse.comparison Parser.nextArgument)
                  (Parse.comparison Parser.nextArgument) fun _ => true := .comparison _
              have again :=
                (compares.behaves (failed.back start) (spared.skips.trans skips) inside).back spared
              dsimp only
              cases outcomeAgain : Parse.comparison Parser.nextArgument (failed.back start) with
              | ok operands stop =>
                  rw [outcomeAgain] at again
                  exact again
              | error _ stop =>
                  rw [outcomeAgain] at again
                  exact again

section

variable {caseSensitive : Bool} {back other behind : List Char} {start place opened openedAgain failed : Parser}
  (inside : start.scanner.ahead.length < room) (insideAgain : place.scanner.ahead.length < roomAgain)
  (shared : Shared caseSensitive back other ('(' :: behind) start place)
  (opens : Opened caseSensitive back other behind start place opened openedAgain) {error : ParseError}
  (rejected : Parse.parenthesized term opened = .error error failed)

include inside shared opens rejected

theorem spared_rejected : Spared opened failed ∧
    (failed.back start).Facing caseSensitive ('(' :: (behind ++ back)) := by
  have less : opened.scanner.ahead.length < room - 1 := by
    have := opens.shorter
    omega
  have behaves := (Draws.parenthesized terms.self).behaves opened opens.shared.facing.skips less
  rw [rejected] at behaves
  have spared : Spared start failed := opens.spared.trans behaves
  exact ⟨behaves, spared.skips.trans shared.facing.skips,
    spared.caseSensitive.trans shared.facing.caseSensitive, shared.ahead⟩

include insideAgain

theorem shared_rejected {cause : ParseError} {failedAgain : Parser}
    (rejectedAgain : Parse.parenthesized termAgain openedAgain = .error cause failedAgain) :
    Shared caseSensitive back other ('(' :: behind) (failed.back start) (failedAgain.back place) := by
  obtain ⟨spared, _⟩ := spared_rejected terms inside shared opens rejected
  have lessAgain : openedAgain.scanner.ahead.length < roomAgain - 1 := by
    have := opens.shorterAgain
    omega
  have behaves := (Draws.parenthesized terms.selfAgain).behaves openedAgain opens.shared.again.skips lessAgain
  rw [rejectedAgain] at behaves
  exact shared.returned (opens.spared.trans spared).toKept (opens.sparedAgain.trans behaves).toKept

theorem draws_rejected (tracks : (Setting.behind []).Tracks (roomAgain - 1) termAgain termAgain)
    {operands : Predicate} {rest : List Char} {last : Parser}
    (compared : Parse.comparison Parser.nextArgument (failed.back start) = .ok operands last)
    (untaken : last.nextArgument = start.nextArgument) (cut : Cut rest back other) (fronted : Fronted rest)
    (ahead : last.scanner.ahead = front (rest ++ back)) :
    ∃ cause failedAgain final, Parse.parenthesized termAgain openedAgain = .error cause failedAgain ∧
      Parse.comparison Parser.nextArgument (failedAgain.back place) = .ok operands final ∧
      Shared caseSensitive back other rest last final := by
  obtain ⟨spared, facing⟩ := spared_rejected terms inside shared opens rejected
  have compares : Draws room roomAgain (Parse.comparison Parser.nextArgument)
      (Parse.comparison Parser.nextArgument) fun _ => true := .comparison _
  have insideBack : (failed.back start).scanner.ahead.length < room := inside
  have behaves := compares.behaves (failed.back start) facing.skips insideBack
  rw [compared] at behaves
  obtain ⟨untakenBack, untakenLast⟩ := (opens.spared.trans spared).back.between behaves.1 untaken
  have untakenFailed := (opens.spared.between spared untakenBack).2
  have facingOpened := opens.shared.facing
  have facingAgain := opens.shared.again
  have less := opens.shorter
  have lessAgain := opens.shorterAgain
  obtain ⟨cause, failedAgain, rejectedAgain⟩ := unopened terms tracks shared.cut facing compared
    untakenLast cut ahead fronted
    ⟨facingOpened.skips, facingOpened.caseSensitive, facingOpened.ahead.trans (front_append behind back)⟩
    (by rw [← front_append, ← opens.shared.ahead]; omega) rejected untakenFailed
    ⟨facingAgain.skips, facingAgain.caseSensitive, facingAgain.ahead.trans (front_append behind other)⟩
    opens.shared.arguments (by rw [← front_append, ← opens.shared.aheadAgain]; omega)
  have insidePlace : (failedAgain.back place).scanner.ahead.length < roomAgain := insideAgain
  obtain ⟨final, comparedAgain, sharedFinal⟩ := compares.draws insideBack insidePlace
    (shared_rejected terms inside insideAgain shared opens rejected rejectedAgain) compared untakenLast
    cut fronted ahead
  exact ⟨cause, failedAgain, final, rejectedAgain, comparedAgain, sharedFinal⟩

end

theorem fails_rejected {caseSensitive : Bool} {behind : List Char}
    {start place opened openedAgain failed last : Parser} (inside : start.scanner.ahead.length < room)
    (insideAgain : place.scanner.ahead.length < roomAgain)
    (shared : Shared caseSensitive [] [] ('(' :: behind) start place)
    (opens : Opened caseSensitive [] [] behind start place opened openedAgain) {error other : ParseError}
    (rejected : Parse.parenthesized term opened = .error error failed)
    (compared : Parse.comparison Parser.nextArgument (failed.back start) = .error other last)
    (untaken : last.nextArgument = start.nextArgument) :
    ∃ cause failedAgain otherAgain final,
      Parse.parenthesized termAgain openedAgain = .error cause failedAgain ∧
      Parse.comparison Parser.nextArgument (failedAgain.back place) = .error otherAgain final := by
  obtain ⟨spared, facing⟩ := spared_rejected terms inside shared opens rejected
  have compares : Draws room roomAgain (Parse.comparison Parser.nextArgument)
      (Parse.comparison Parser.nextArgument) fun _ => true := .comparison _
  have insideBack : (failed.back start).scanner.ahead.length < room := inside
  have behaves := compares.behaves (failed.back start) facing.skips insideBack
  rw [compared] at behaves
  obtain ⟨untakenBack, untakenLast⟩ := (opens.spared.trans spared).back.between behaves untaken
  have untakenFailed := (opens.spared.between spared untakenBack).2
  have less := opens.shorter
  have lessAgain := opens.shorterAgain
  obtain ⟨cause, failedAgain, rejectedAgain⟩ := (Draws.parenthesized terms.there).fails
    (by omega) (by omega) opens.shared rejected untakenFailed
  have insidePlace : (failedAgain.back place).scanner.ahead.length < roomAgain := insideAgain
  obtain ⟨otherAgain, final, comparedAgain⟩ := compares.fails insideBack insidePlace
    (shared_rejected terms inside insideAgain shared opens rejected rejectedAgain) compared untakenLast
  exact ⟨cause, failedAgain, otherAgain, final, rejectedAgain, comparedAgain⟩

theorem fails_opened {caseSensitive : Bool} {behind : List Char} {start place opened stop : Parser}
    (inside : start.scanner.ahead.length < room) (insideAgain : place.scanner.ahead.length < roomAgain)
    (shared : Shared caseSensitive [] [] ('(' :: behind) start place)
    (found : Parse.literal "(" start = .ok true opened) {error : ParseError}
    (same : Parse.opened? Parser.nextArgument term start = .error error stop)
    (untaken : stop.nextArgument = start.nextArgument) :
    ∃ error last, Parse.opened? Parser.nextArgument termAgain place = .error error last := by
  obtain ⟨openedAgain, opens⟩ := shared.opens found
  rw [Setting.opened?_literal, found] at same
  rw [Setting.opened?_literal, opens.again]
  dsimp only at same ⊢
  cases outcome : Parse.parenthesized term opened with
  | ok inner innerStop =>
      rw [outcome] at same
      cases same
  | error cause failed =>
      rw [outcome] at same
      dsimp only at same
      cases compared : Parse.comparison Parser.nextArgument (failed.back start) with
      | ok operands last =>
          rw [compared] at same
          cases same
      | error other last =>
          rw [compared] at same
          cases same
          obtain ⟨error, failedAgain, _, last, rejectedAgain, comparedAgain⟩ :=
            fails_rejected terms inside insideAgain shared opens outcome compared untaken
          exact ⟨error, last, by rw [rejectedAgain]; simp only [comparedAgain]⟩

variable (tracks : (Setting.behind []).Tracks (roomAgain - 1) termAgain termAgain)

include tracks

/-- What is read behind an opening parenthesis is read again: the predicate in parentheses, or the
comparison that begins with them. -/
theorem draws_opened {caseSensitive : Bool} {back other behind rest : List Char}
    {start place opened stop : Parser} (inside : start.scanner.ahead.length < room)
    (insideAgain : place.scanner.ahead.length < roomAgain)
    (shared : Shared caseSensitive back other ('(' :: behind) start place)
    (found : Parse.literal "(" start = .ok true opened) {result : Option Predicate}
    (same : Parse.opened? Parser.nextArgument term start = .ok result stop)
    (untaken : stop.nextArgument = start.nextArgument) (cut : Cut rest back other) (fronted : Fronted rest)
    (ahead : stop.scanner.ahead = front (rest ++ back)) :
    ∃ last, Parse.opened? Parser.nextArgument termAgain place = .ok result last ∧
      Shared caseSensitive back other rest stop last := by
  obtain ⟨openedAgain, opens⟩ := shared.opens found
  have less := opens.shorter
  have lessAgain := opens.shorterAgain
  rw [Setting.opened?_literal, found] at same
  rw [Setting.opened?_literal, opens.again]
  dsimp only at same ⊢
  cases outcome : Parse.parenthesized term opened with
  | ok inner innerStop =>
      rw [outcome] at same
      cases same
      have behaves := (Draws.parenthesized terms.self).behaves opened opens.shared.facing.skips (by omega)
      rw [outcome] at behaves
      have untakenInner := (opens.spared.between behaves.1 untaken).2
      obtain ⟨last, sameAgain, sharedLast⟩ := (Draws.parenthesized terms.there).draws (by omega)
        (by omega) opens.shared outcome untakenInner cut fronted ahead
      exact ⟨last, by rw [sameAgain], sharedLast⟩
  | error error failed =>
      rw [outcome] at same
      dsimp only at same
      cases compared : Parse.comparison Parser.nextArgument (failed.back start) with
      | error other stop =>
          rw [compared] at same
          cases same
      | ok operands last =>
          rw [compared] at same
          cases same
          obtain ⟨cause, failedAgain, last, rejectedAgain, comparedAgain, sharedLast⟩ :=
            draws_rejected terms inside insideAgain shared opens outcome tracks compared untaken cut
              fronted ahead
          exact ⟨last, by rw [rejectedAgain]; simp only [comparedAgain], sharedLast⟩

theorem opened? : Draws room roomAgain (Parse.opened? Parser.nextArgument term)
    (Parse.opened? Parser.nextArgument termAgain) Option.isSome where
  behaves start skips inside := behaves_opened? terms skips inside
  draws {caseSensitive back other text rest start place result stop} inside insideAgain shared same
      untaken cut fronted ahead := by
    have literals : Draws room roomAgain (Parse.literal "(") (Parse.literal "(") id :=
      .literal (by decide) (by decide)
    cases outcome : Parse.literal "(" start with
    | error error stop =>
        rw [Setting.opened?_literal, outcome] at same
        cases same
    | ok found opened =>
        cases found with
        | false =>
            rw [Setting.opened?_literal, outcome] at same
            cases same
            obtain ⟨last, sameAgain, sharedLast⟩ := literals.draws inside insideAgain shared outcome untaken
              cut fronted ahead
            exact ⟨last, by rw [Setting.opened?_literal, sameAgain], sharedLast⟩
        | true =>
            have behaves := behaves_opened? terms shared.facing.skips inside
            rw [same] at behaves
            have shorter := behaves.2.2.1
            rw [isSome_opened? outcome same] at shorter
            obtain ⟨behind, rfl⟩ := shared.text_opened outcome fronted ahead shorter
            exact draws_opened terms tracks inside insideAgain shared outcome same untaken cut fronted ahead
  fails {caseSensitive text start place error stop} inside insideAgain shared same untaken := by
    have literals : Draws room roomAgain (Parse.literal "(") (Parse.literal "(") id :=
      .literal (by decide) (by decide)
    cases outcome : Parse.literal "(" start with
    | error cause stop =>
        rw [Setting.opened?_literal, outcome] at same
        cases same
        obtain ⟨error, last, failed⟩ := literals.fails inside insideAgain shared outcome untaken
        exact ⟨error, last, by rw [Setting.opened?_literal, failed]⟩
    | ok found opened =>
        cases found with
        | false =>
            rw [Setting.opened?_literal, outcome] at same
            cases same
        | true =>
            obtain ⟨behind, opening⟩ := starts_opening shared.facing.skips outcome
            obtain rfl : text = '(' :: behind := by
              have whole := shared.ahead
              rw [List.append_nil] at whole
              exact (whole.trans shared.fronted).symm.trans opening
            exact fails_opened terms inside insideAgain shared outcome same untaken

end

end Draws

end Parse

end PredicateRules
