import PredicateRules.Proofs.Reading.Scan
import PredicateRules.Scanner.Call

/-!
Alternatives that are tried one after the other at the same place. A call that does not find what it looks
for may leave the cursor behind what is skipped there; the next one skips it as well, so it finds what it
would have found first. Only a question that leaves the cursor where it is tells the two places apart.
-/

namespace PredicateRules.Scanner

variable {left middle right scanner : Scanner}

/-- The cursors are at the same place, and the same is skipped and taken for equal. How far the scanners
have been, and in which line, may differ. -/
structure Coincides (left right : Scanner) : Prop where
  passed : left.passed = right.passed
  remaining : left.remaining = right.remaining
  skips : left.skips = right.skips
  caseSensitive : left.caseSensitive = right.caseSensitive

namespace Coincides

theorem refl (scanner : Scanner) : Coincides scanner scanner := ⟨rfl, rfl, rfl, rfl⟩

theorem symm (same : Coincides left right) : Coincides right left :=
  ⟨same.passed.symm, same.remaining.symm, same.skips.symm, same.caseSensitive.symm⟩

theorem trans (same : Coincides left middle) (further : Coincides middle right) : Coincides left right :=
  ⟨same.passed.trans further.passed, same.remaining.trans further.remaining,
    same.skips.trans further.skips, same.caseSensitive.trans further.caseSensitive⟩

theorem isSkipped (same : Coincides left right) : left.isSkipped = right.isSkipped := by
  funext character
  simp only [Scanner.isSkipped, same.skips]

theorem moves {crossed : List Char} {leftStop rightStop : Scanner} (same : Coincides left right)
    (moves : Moves left leftStop crossed) (movesRight : Moves right rightStop crossed) :
    Coincides leftStop rightStop where
  passed := by rw [moves.passed, movesRight.passed, same.passed]
  remaining := by
    have whole := moves.remaining.symm.trans (same.remaining.trans movesRight.remaining)
    exact List.append_cancel_left whole
  skips := moves.skips.trans (same.skips.trans movesRight.skips.symm)
  caseSensitive := moves.caseSensitive.trans (same.caseSensitive.trans movesRight.caseSensitive.symm)

theorem forward (same : Coincides left right) (count : Nat) :
    Coincides (left.forward count) (right.forward count) := by
  have moves := forward_moves right count
  rw [← same.remaining] at moves
  exact same.moves (forward_moves left count) moves

theorem skipIgnored (same : Coincides left right) : Coincides left.skipIgnored right.skipIgnored := by
  have moves := right.skipIgnored_crosses
  rw [← same.remaining, ← same.isSkipped] at moves
  exact same.moves left.skipIgnored_crosses moves

end Coincides

theorem coincides_backTo {crossed : List Char} {later : Scanner} (moves : Moves scanner later crossed) :
    Coincides (later.backTo scanner) scanner := ⟨rfl, rfl, moves.skips, moves.caseSensitive⟩

/-- The cursors are at the same place once what is skipped is passed over. -/
def Alike (left right : Scanner) : Prop := Coincides left.skipIgnored right.skipIgnored

theorem Coincides.alike (same : Coincides left right) : Alike left right := same.skipIgnored

theorem alike_skipIgnored (scanner : Scanner) : Alike scanner.skipIgnored scanner := by
  unfold Alike
  rw [skipIgnored_skipIgnored]
  exact .refl _

/-- An operation that leaves no trace where it finds nothing, and does not see the traces of others. -/
structure Traceless {α : Type} (found : α → Bool) (operation : Scanner → α × Scanner) : Prop where
  answers {left right : Scanner} : Alike left right → (operation left).1 = (operation right).1
  takes {left right : Scanner} : Alike left right → found (operation left).1 = true →
    Coincides (operation left).2 (operation right).2
  misses {scanner : Scanner} : found (operation scanner).1 = false → Alike (operation scanner).2 scanner

section

variable {α : Type} {found : α → Bool} {operation : Scanner → α × Scanner}

/-- Such is an operation that skips, looks at what is ahead and takes some of it or nothing. -/
theorem traceless_of_look (missing : α) (look : Bool → List Char → Option (α × Nat))
    (misses : found missing = false)
    (hits : ∀ caseSensitive text answer count, look caseSensitive text = some (answer, count) →
      found answer = true)
    (looks : ∀ scanner, operation scanner =
      match look scanner.skipIgnored.caseSensitive scanner.skipIgnored.remaining with
      | some (answer, count) => (answer, scanner.skipIgnored.forward count)
      | none => (missing, scanner.skipIgnored)) :
    Traceless found operation where
  answers {left right} alike := by
    rw [looks, looks, alike.caseSensitive, alike.remaining]
    cases look right.skipIgnored.caseSensitive right.skipIgnored.remaining <;> rfl
  takes {left right} alike hit := by
    rw [looks, alike.caseSensitive, alike.remaining] at hit ⊢
    rw [looks]
    cases seen : look right.skipIgnored.caseSensitive right.skipIgnored.remaining with
    | none =>
        rw [seen, misses] at hit
        cases hit
    | some outcome => exact alike.forward _
  misses {scanner} missed := by
    rw [looks] at missed ⊢
    cases seen : look scanner.skipIgnored.caseSensitive scanner.skipIgnored.remaining with
    | none => exact scanner.alike_skipIgnored
    | some outcome =>
        rw [seen, hits _ _ _ _ seen] at missed
        cases missed

theorem Traceless.map {β : Type} {foundMapped : β → Bool} (traceless : Traceless found operation)
    (say : α → β) (same : ∀ answer, foundMapped (say answer) = found answer) :
    Traceless foundMapped fun scanner => (operation scanner).map say id where
  answers alike := congrArg say (traceless.answers alike)
  takes alike hit := traceless.takes alike ((same _).symm.trans hit)
  misses missed := traceless.misses ((same _).symm.trans missed)

end

theorem traceless_scanLiteral (literal : String) : Traceless id fun scanner => scanner.scanLiteral literal := by
  refine traceless_of_look false (fun caseSensitive text =>
    if !text.isEmpty && startsWith caseSensitive literal.toList text then some (true, literal.toList.length)
    else none) rfl (fun caseSensitive text answer count seen => ?_) fun scanner => ?_
  · split at seen
    · cases seen
      rfl
    · cases seen
  · simp only [scanLiteral]
    split <;> rfl

theorem traceless_scanNumber {α : Type} (parse : List Char → Option α) :
    Traceless Option.isSome fun scanner => scanner.scanNumber parse := by
  refine traceless_of_look none (fun _ text =>
    if text.head?.any fun first => first.isDigit || first == '.' then
      (lastNumber parse [] none text).map fun (length, number) => (some number, length)
    else none) rfl (fun _ text answer count seen => ?_) fun scanner => ?_
  · split at seen
    · obtain ⟨⟨length, number⟩, -, same⟩ := Option.map_eq_some_iff.mp seen
      cases same
      rfl
    · cases seen
  · simp only [scanNumber]
    split
    · cases lastNumber parse [] none scanner.skipIgnored.remaining <;> rfl
    · rfl

theorem coincides_atEnd (scanner : Scanner) : Coincides scanner.atEnd.2 scanner :=
  coincides_backTo scanner.skipIgnored_crosses

/-- The run of characters right at the cursor, less the skipped ones among them. -/
def runHere (scanner : Scanner) (wanted : CharClass) : Option (List Char) × Scanner :=
  let run := scanner.remaining.takeWhile wanted
  match run.filter fun character => !scanner.isSkipped character with
  | [] => (none, scanner)
  | kept => (some kept, scanner.forward run.length)

theorem scanRun_eq (scanner : Scanner) (wanted : CharClass) :
    scanner.scanRun wanted =
      if scanner.skipIgnored.remaining.isEmpty then (none, scanner.atEnd.2)
      else scanner.atEnd.2.skipIgnored.runHere wanted := by
  unfold scanRun runHere
  simp only [atEnd]
  cases scanner.skipIgnored.remaining.isEmpty <;> rfl

theorem Coincides.runHere (same : Coincides left right) (wanted : CharClass) :
    (left.runHere wanted).1 = (right.runHere wanted).1 ∧
      Coincides (left.runHere wanted).2 (right.runHere wanted).2 := by
  unfold Scanner.runHere
  rw [same.remaining, same.isSkipped]
  dsimp only
  split
  · exact ⟨rfl, same⟩
  · exact ⟨rfl, same.forward _⟩

theorem runHere_of_none {wanted : CharClass} (missed : (scanner.runHere wanted).1.isSome = false) :
    (scanner.runHere wanted).2 = scanner := by
  unfold runHere at missed ⊢
  dsimp only at missed ⊢
  cases kept : (scanner.remaining.takeWhile wanted).filter fun character => !scanner.isSkipped character with
  | nil => rfl
  | cons =>
      rw [kept] at missed
      cases missed

theorem traceless_scanRun (wanted : CharClass) :
    Traceless Option.isSome fun scanner => scanner.scanRun wanted := by
  have ahead : ∀ {left right : Scanner}, Alike left right →
      Coincides left.atEnd.2.skipIgnored right.atEnd.2.skipIgnored := fun {left right} alike =>
    left.coincides_atEnd.skipIgnored.trans (alike.trans right.coincides_atEnd.skipIgnored.symm)
  constructor
  case answers =>
    intro left right alike
    simp only [scanRun_eq, alike.remaining]
    split
    · rfl
    · exact ((ahead alike).runHere wanted).1
  case takes =>
    intro left right alike hit
    simp only [scanRun_eq, alike.remaining] at hit ⊢
    split at hit
    · cases hit
    next more =>
      rw [if_neg more, if_neg more]
      exact ((ahead alike).runHere wanted).2
  case misses =>
    intro scanner missed
    simp only [scanRun_eq] at missed ⊢
    split at missed
    next none =>
      rw [if_pos none]
      exact scanner.coincides_atEnd.alike
    next more =>
      rw [if_neg more, runHere_of_none missed]
      exact Coincides.trans (alike_skipIgnored _) scanner.coincides_atEnd.alike

theorem scanLiteral_moves (scanner : Scanner) (literal : String) :
    ∃ crossed, Moves scanner (scanner.scanLiteral literal).2 crossed := by
  unfold scanLiteral
  dsimp only
  split
  · exact ⟨_, scanner.skipIgnored_crosses.trans (forward_moves _ _)⟩
  · exact ⟨_, scanner.skipIgnored_crosses⟩

theorem Alike.scanKeyword (alike : Alike left right) (keyword : String) :
    (left.scanKeyword keyword).1 = (right.scanKeyword keyword).1 ∧
      ((left.scanKeyword keyword).1 = true →
        Coincides (left.scanKeyword keyword).2 (right.scanKeyword keyword).2) := by
  have same := (traceless_scanLiteral keyword).answers alike
  have takes := (traceless_scanLiteral keyword).takes alike
  unfold Scanner.scanKeyword
  generalize left.scanLiteral keyword = outcome at same takes ⊢
  generalize right.scanLiteral keyword = other at same takes ⊢
  obtain ⟨found, after⟩ := outcome
  obtain ⟨foundRight, afterRight⟩ := other
  obtain rfl : found = foundRight := same
  cases found with
  | false => exact ⟨rfl, nofun⟩
  | true =>
      have here : Coincides after afterRight := takes rfl
      have peeks : after.peek = afterRight.peek := congrArg List.head? here.remaining
      dsimp only
      rw [peeks]
      split
      next => exact ⟨rfl, nofun⟩
      next => exact ⟨rfl, fun _ => here⟩

theorem traceless_scanKeyword (keyword : String) :
    Traceless id fun scanner => scanner.scanKeyword keyword where
  answers alike := (alike.scanKeyword keyword).1
  takes alike hit := (alike.scanKeyword keyword).2 hit
  misses {scanner} missed := by
    have untraced : (scanner.scanLiteral keyword).1 = false → Alike (scanner.scanLiteral keyword).2 scanner :=
      (traceless_scanLiteral keyword).misses
    obtain ⟨crossed, moves⟩ := scanner.scanLiteral_moves keyword
    unfold scanKeyword at missed ⊢
    generalize scanner.scanLiteral keyword = outcome at untraced moves missed ⊢
    obtain ⟨found, after⟩ := outcome
    cases found with
    | false => exact untraced rfl
    | true =>
        -- The longer word that was begun is given back.
        dsimp only at missed ⊢
        split at missed
        next longer =>
          rw [if_pos longer]
          exact (coincides_backTo moves).alike
        next => cases missed

namespace Call

def isAlternative : Call → Bool
  | literal _ | keyword _ | characters _ | upToCharacters _ | float | int64 => true
  | _ => false

theorem traceless_run {call : Call} (isAlternative : call.isAlternative = true) :
    Traceless Answer.succeeds call.run := by
  cases call with
  | literal text => exact (traceless_scanLiteral text).map Answer.flag fun _ => rfl
  | keyword word => exact (traceless_scanKeyword word).map Answer.flag fun _ => rfl
  | characters set => exact (traceless_scanRun set).map Answer.text fun _ => rfl
  | upToCharacters set => exact (traceless_scanRun _).map Answer.text fun _ => rfl
  | float => exact (traceless_scanNumber _).map Answer.float fun _ => rfl
  | int64 => exact (traceless_scanNumber _).map Answer.int64 fun _ => rfl
  | _ => cases isAlternative

/-- The calls are alternatives, and each fails where the one before it has left the cursor. -/
def FailInTurn : List Call → Scanner → Prop
  | [], _ => True
  | call :: calls, scanner => call.isAlternative = true ∧ (call.run scanner).1.succeeds = false ∧
      FailInTurn calls (call.run scanner).2

instance FailInTurn.decidable : (calls : List Call) → (scanner : Scanner) →
    Decidable (FailInTurn calls scanner)
  | [], _ => inferInstanceAs (Decidable True)
  | call :: calls, scanner =>
      have := FailInTurn.decidable calls (call.run scanner).2
      inferInstanceAs (Decidable (call.isAlternative = true ∧ (call.run scanner).1.succeeds = false ∧
        FailInTurn calls (call.run scanner).2))

theorem FailInTurn.alike {calls : List Call} (fail : FailInTurn calls scanner) :
    Alike (runAll calls scanner) scanner := by
  induction calls generalizing scanner with
  | nil => exact (Coincides.refl scanner).alike
  | cons call calls ih =>
      obtain ⟨isAlternative, fails, others⟩ := fail
      exact (ih others).trans ((traceless_run isAlternative).misses fails)

theorem atEnd_of_alike (alike : Alike left right) : (atEnd.run left).1 = (atEnd.run right).1 := by
  show Answer.flag left.skipIgnored.remaining.isEmpty = Answer.flag right.skipIgnored.remaining.isEmpty
  rw [alike.remaining]

/-- After alternatives that failed, one more or the question for the end answers what it would have
answered first. When it succeeds, it also leaves the cursor where it would have been left, except that the
question for the end leaves it where the alternatives have; so it does just if they have not moved it. -/
theorem failures_unseen_iff (scanner : Scanner) (calls : List Call) (fail : FailInTurn calls scanner)
    (call : Call) (asked : call.isAlternative = true ∨ call = .atEnd) :
    let after := runAll calls scanner
    (call.run after).1 = (call.run scanner).1 ∧
      (((call.run scanner).1.succeeds = true → Coincides (call.run after).2 (call.run scanner).2) ↔
        (call = .atEnd → (call.run scanner).1.succeeds = true → Coincides after scanner)) := by
  intro after
  have alike : Alike after scanner := fail.alike
  rcases asked with isAlternative | rfl
  · have traceless := traceless_run isAlternative
    have same : (call.run after).1 = (call.run scanner).1 := traceless.answers alike
    refine ⟨same, fun _ question => ?_, fun _ succeeds => traceless.takes alike (same ▸ succeeds)⟩
    rw [question] at isAlternative
    cases isAlternative
  · refine ⟨atEnd_of_alike alike, ?_⟩
    have stays : Coincides (atEnd.run after).2 after := after.coincides_atEnd
    have staysFirst : Coincides (atEnd.run scanner).2 scanner := scanner.coincides_atEnd
    constructor
    · exact fun same _ succeeds => (stays.symm.trans (same succeeds)).trans staysFirst
    · exact fun same succeeds => (stays.trans (same rfl succeeds)).trans staysFirst.symm

/-- A literal, a keyword of which only the beginning is there, characters and numbers fail in front of
`ab`, and the literal is found behind the blanks as it would have been found first. -/
theorem failures_unseen_before_literal :
    let scanner := ofText [' ', '\t', 'a', 'b']
    let calls := [literal "x", keyword "a", characters Char.isDigit, upToCharacters Char.isAlpha, float, int64]
    FailInTurn calls scanner ∧ ((literal "ab").run (runAll calls scanner)).1 = .flag true ∧
      Coincides ((literal "ab").run (runAll calls scanner)).2 ((literal "ab").run scanner).2 := by
  intro scanner calls
  have fail : FailInTurn calls scanner := by decide +kernel
  have found : ((literal "ab").run scanner).1 = .flag true := rfl
  have unseen := failures_unseen_iff scanner calls fail (literal "ab") (.inl rfl)
  exact ⟨fail, unseen.1.trans found, unseen.2.mpr nofun (by rw [found]; rfl)⟩

/-- In front of blanks only, the end is seen before and after a literal that is not there; but the cursor
is left at the beginning and behind the blanks. -/
theorem not_failures_unseen :
    let scanner := ofText [' ', ' ']
    let after := runAll [literal "x"] scanner
    FailInTurn [literal "x"] scanner ∧
      ((atEnd.run scanner).1.succeeds = true ∧ (atEnd.run scanner).2.location = 0) ∧
      ((atEnd.run after).1.succeeds = true ∧ (atEnd.run after).2.location = 2) := by
  decide +kernel

end Call

end PredicateRules.Scanner
