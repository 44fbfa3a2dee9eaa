import PredicateRules.Proofs.Cutting.Cut

/-!
Steps that are taken again on a text that is cut off. Where a step succeeds before the cut and takes no
argument, it succeeds again and gives the same; where a whole text is the same and a step fails on it, it
fails again. Both are carried through the grammar by the rules at the end.
-/

namespace PredicateRules

open PredicateRules.Parser

namespace Scanner

theorem Moves.ahead_suffix {start stop : Scanner} {crossed : List Char} (moves : Moves start stop crossed) :
    stop.ahead <:+ start.ahead := by
  show front stop.remaining <:+ front start.remaining
  rw [moves.remaining]
  rcases front_append_cases crossed stop.remaining with ⟨_, behind⟩ | blank
  · rw [behind]
    exact (List.dropWhile_suffix _).trans (List.suffix_append _ _)
  · exact ⟨[], blank.symm⟩

end Scanner

/-- What also a failure leaves as it was. Without arguments none are taken. -/
structure Parser.Spared (start stop : Parser) : Prop extends Kept start stop where
  untaken : start.arguments = [] → stop.nextArgument = start.nextArgument

namespace Parser.Spared

theorem refl (parser : Parser) : Spared parser parser := ⟨.refl parser, fun _ => rfl⟩

theorem trans {start middle stop : Parser} (before : Spared start middle) (after : Spared middle stop) :
    Spared start stop where
  toKept := before.toKept.trans after.toKept
  untaken none := (after.untaken (before.arguments.trans none)).trans (before.untaken none)

theorem moved {parser : Parser} {scanner : Scanner} {crossed : List Char}
    (moves : parser.scanner.Moves scanner crossed) : Spared parser (parser.moved scanner) :=
  ⟨kept_moved moves, fun _ => rfl⟩

theorem back {start stop : Parser} (spared : Spared start stop) : Spared start (stop.back start) :=
  ⟨spared.advance_back.kept, spared.untaken⟩

theorem between {start middle stop : Parser} (before : Spared start middle) (after : Spared middle stop)
    (same : stop.nextArgument = start.nextArgument) :
    middle.nextArgument = start.nextArgument ∧ stop.nextArgument = middle.nextArgument := by
  have := before.taken
  have := after.taken
  omega

end Parser.Spared

namespace Parse

/-- What is taken ends where it does without a look at what is behind it. -/
def Crosses (start stop : Parser) : Prop :=
  ∃ taken rest, start.scanner.ahead = taken ++ rest ∧ stop.scanner.ahead = front rest ∧
    (∀ last ∈ taken.getLast?, CharClass.skipped last = false) ∧ Settled taken rest

namespace Crosses

theorem still {start stop : Parser} (same : stop.scanner.ahead = start.scanner.ahead) :
    Crosses start stop :=
  ⟨[], start.scanner.ahead, rfl, same.trans (fronted_front start.scanner.remaining).symm, nofun, nofun⟩

theorem trans {start middle stop : Parser} (before : Crosses start middle)
    (after : Crosses middle stop) : Crosses start stop := by
  obtain ⟨taken, rest, ahead, behind, solid, settled⟩ := before
  obtain ⟨takenAfter, restAfter, aheadAfter, behindAfter, solidAfter, settledAfter⟩ := after
  by_cases none : takenAfter = []
  · subst none
    refine ⟨taken, rest, ahead, ?_, solid, settled⟩
    rw [List.nil_append, behind] at aheadAfter
    rw [behindAfter, ← aheadAfter]
    exact fronted_front rest
  · obtain ⟨gap, whole⟩ : front rest <:+ rest := List.dropWhile_suffix _
    rw [← behind, aheadAfter] at whole
    have last : ∀ front, (front ++ takenAfter).getLast? = takenAfter.getLast? :=
      fun front => getLast?_suffix (List.suffix_append _ _) none
    refine ⟨taken ++ (gap ++ takenAfter), restAfter, ?_, behindAfter, ?_, ?_⟩
    · rw [ahead, ← whole, List.append_assoc, List.append_assoc]
    · rw [← List.append_assoc, last]
      exact solidAfter
    · unfold Settled
      rw [← List.append_assoc, last]
      exact settledAfter

end Crosses

/-- What a step does wherever it is taken. -/
def Behaves (start : Parser) (spends : α → Bool) : EStateM.Result ParseError Parser α → Prop
  | .ok result stop => Spared start stop ∧ (∃ crossed, start.scanner.Moves stop.scanner crossed) ∧
      stop.scanner.ahead.length + (spends result).toNat ≤ start.scanner.ahead.length ∧
      (stop.nextArgument = start.nextArgument → Crosses start stop)
  | .error _ stop => Spared start stop

theorem Behaves.trans {γ : Type} {start middle : Parser} {spendsFirst : γ → Bool} {spends : α → Bool}
    {found : γ} {outcome : EStateM.Result ParseError Parser α}
    (before : Behaves start spendsFirst (.ok found middle))
    (after : Behaves middle (fun result => spends result && !spendsFirst found) outcome) :
    Behaves start spends outcome := by
  obtain ⟨kept, ⟨crossed, moves⟩, shorter, crosses⟩ := before
  cases outcome with
  | error error stop => exact kept.trans after
  | ok result stop =>
      obtain ⟨keptNext, ⟨crossedNext, movesNext⟩, shorterNext, crossesNext⟩ := after
      refine ⟨kept.trans keptNext, ⟨_, moves.trans movesNext⟩, ?_, fun untaken => ?_⟩
      · cases spent : spendsFirst found <;> simp only [spent, Bool.not_true, Bool.not_false,
          Bool.and_true, Bool.and_false, Bool.toNat_true, Bool.toNat_false] at shorter shorterNext
        · omega
        · have := Bool.toNat_le (spends result)
          omega
      · have := kept.taken
        have := keptNext.taken
        exact (crosses (by omega)).trans (crossesNext (by omega))

theorem Behaves.back {start failed : Parser} {spends : α → Bool}
    {outcome : EStateM.Result ParseError Parser α} (kept : Spared start failed)
    (behaves : Behaves (failed.back start) spends outcome) : Behaves start spends outcome := by
  have before : Spared start (failed.back start) := kept.back
  cases outcome with
  | error error stop => exact before.trans behaves
  | ok result stop =>
      obtain ⟨keptNext, ⟨crossed, moves⟩, shorter, crosses⟩ := behaves
      obtain ⟨none, movesBack⟩ := kept.advance_back.moves
      refine ⟨before.trans keptNext, ⟨_, movesBack.trans moves⟩, shorter, fun untaken => ?_⟩
      have := before.taken
      have := keptNext.taken
      exact crosses (by omega)

/-- The same text ahead up to a cut. There are no arguments the second time. -/
structure Shared (caseSensitive : Bool) (back other text : List Char) (start place : Parser) : Prop where
  cut : Cut text back other
  fronted : Fronted text
  facing : start.Facing caseSensitive (text ++ back)
  again : place.Facing caseSensitive (text ++ other)
  arguments : place.arguments = []

namespace Shared

variable {caseSensitive : Bool} {back other text rest : List Char} {start stop place last : Parser}

theorem ahead (shared : Shared caseSensitive back other text start place) :
    start.scanner.ahead = front (text ++ back) := shared.facing.ahead

theorem aheadAgain (shared : Shared caseSensitive back other text start place) :
    place.scanner.ahead = front (text ++ other) := shared.again.ahead

theorem shrinks (shared : Shared caseSensitive back other text start place)
    (behind : Shared caseSensitive back other rest stop last) {spent : Bool}
    (less : stop.scanner.ahead.length + spent.toNat ≤ start.scanner.ahead.length) :
    last.scanner.ahead.length + spent.toNat ≤ place.scanner.ahead.length := by
  rw [shared.ahead, behind.ahead] at less
  rw [shared.aheadAgain, behind.aheadAgain]
  have least := behind.fronted.length_le back
  have more := front_length other
  have bit := Bool.toNat_le spent
  by_cases none : text = []
  · simp only [none, List.nil_append] at less ⊢
    obtain rfl : rest = [] := List.length_eq_zero_iff.mp (by omega)
    simp only [List.nil_append] at less ⊢
    omega
  · have whole := shared.fronted.back_le none back
    have wholeOther := shared.fronted.back_le none other
    have := List.length_pos_iff.mpr none
    by_cases noneRest : rest = []
    · simp only [noneRest, List.nil_append]
      omega
    · have wholeRest := behind.fronted.back_le noneRest back
      have wholeRestOther := behind.fronted.back_le noneRest other
      omega

theorem returned (shared : Shared caseSensitive back other text start place) {failed failedAgain : Parser}
    (kept : Kept start failed) (keptAgain : Kept place failedAgain) :
    Shared caseSensitive back other text (failed.back start) (failedAgain.back place) where
  cut := shared.cut
  fronted := shared.fronted
  facing := ⟨kept.skips.trans shared.facing.skips, kept.caseSensitive.trans shared.facing.caseSensitive,
    shared.facing.ahead⟩
  again := ⟨keptAgain.skips.trans shared.again.skips,
    keptAgain.caseSensitive.trans shared.again.caseSensitive, shared.again.ahead⟩
  arguments := keptAgain.arguments.trans shared.arguments

theorem moved (shared : Shared caseSensitive back other text start place) (cut : Cut rest back other)
    (fronted : Fronted rest) {scanner scannerAgain : Scanner} {crossed crossedAgain : List Char}
    (moves : start.scanner.Moves scanner crossed) (movesAgain : place.scanner.Moves scannerAgain crossedAgain)
    (ahead : scanner.ahead = front (rest ++ back)) (aheadAgain : scannerAgain.ahead = front (rest ++ other)) :
    Shared caseSensitive back other rest (start.moved scanner) (place.moved scannerAgain) where
  cut := cut
  fronted := fronted
  facing := ⟨moves.skips.trans shared.facing.skips,
    moves.caseSensitive.trans shared.facing.caseSensitive, ahead⟩
  again := ⟨movesAgain.skips.trans shared.again.skips,
    movesAgain.caseSensitive.trans shared.again.caseSensitive, aheadAgain⟩
  arguments := shared.arguments

theorem whole (same : place.scanner.ahead = start.scanner.ahead)
    (skips : start.scanner.skips = some CharClass.skipped)
    (skipsAgain : place.scanner.skips = some CharClass.skipped)
    (sensitive : place.scanner.caseSensitive = start.scanner.caseSensitive)
    (arguments : place.arguments = []) :
    Shared start.scanner.caseSensitive [] [] start.scanner.ahead start place where
  cut := .final rfl fun _ _ _ found => nomatch found
  fronted := fronted_front _
  facing := ⟨skips, rfl, by rw [List.append_nil]; exact (fronted_front _).symm⟩
  again := ⟨skipsAgain, sensitive, by rw [List.append_nil, same]; exact (fronted_front _).symm⟩
  arguments := arguments

end Shared

/-- The second step repeats what the first one does in `room` characters. -/
structure Draws (room roomAgain : Nat) (step again : Parse α) (spends : α → Bool) : Prop where
  behaves : ∀ start, start.scanner.skips = some CharClass.skipped →
    start.scanner.ahead.length < room → Behaves start spends (step start)
  draws : ∀ {caseSensitive back other text rest start place result stop},
    start.scanner.ahead.length < room → place.scanner.ahead.length < roomAgain →
    Shared caseSensitive back other text start place →
    step start = .ok result stop → stop.nextArgument = start.nextArgument →
    Cut rest back other → Fronted rest → stop.scanner.ahead = front (rest ++ back) →
    ∃ last, again place = .ok result last ∧ Shared caseSensitive back other rest stop last
  fails : ∀ {caseSensitive text start place error stop},
    start.scanner.ahead.length < room → place.scanner.ahead.length < roomAgain →
    Shared caseSensitive [] [] text start place →
    step start = .error error stop → stop.nextArgument = start.nextArgument →
    ∃ error last, again place = .error error last

namespace Draws

variable {α β γ : Type} {room roomAgain : Nat} {spends : α → Bool} {step again : Parse α}

theorem pure {result : α} (free : spends result = false) :
    Draws room roomAgain (Pure.pure result) (Pure.pure result) spends where
  behaves start _ _ := ⟨.refl start, ⟨[], .refl _⟩, by simp [free], fun _ => .still rfl⟩
  draws {_ _ _ _ _ start place _ _} _ _ shared same _ cut fronted ahead := by
    cases same
    obtain rfl := shared.fronted.unique fronted (shared.ahead.symm.trans ahead)
    exact ⟨place, rfl, shared⟩
  fails _ _ _ same := nomatch same

theorem fail {error other : Location → ParseError} :
    Draws room roomAgain (Parse.fail error) (Parse.fail other) spends where
  behaves start _ _ := .refl start
  draws _ _ _ same := nomatch same
  fails _ _ _ _ _ := ⟨_, _, rfl⟩

theorem mono {less lessAgain : Nat} (draws : Draws room roomAgain step again spends)
    (le : less ≤ room) (leAgain : lessAgain ≤ roomAgain) : Draws less lessAgain step again spends where
  behaves start skips inside := draws.behaves start skips (by omega)
  draws inside insideAgain := draws.draws (by omega) (by omega)
  fails inside insideAgain := draws.fails (by omega) (by omega)

theorem weaken {fewer : α → Bool} (draws : Draws room roomAgain step again spends)
    (less : ∀ result, fewer result = true → spends result = true) :
    Draws room roomAgain step again fewer where
  behaves start skips inside := by
    have behaves := draws.behaves start skips inside
    revert behaves
    cases step start with
    | error error stop => exact id
    | ok result stop =>
        rintro ⟨kept, moves, shorter, crosses⟩
        refine ⟨kept, moves, ?_, crosses⟩
        cases spent : fewer result with
        | false => exact Nat.le_trans (Nat.le_add_right _ _) shorter
        | true => rwa [less result spent] at shorter
  draws := draws.draws
  fails := draws.fails

theorem blind {other : Parse α} (draws : Draws room roomAgain step again spends) :
    Draws room 0 step other spends where
  behaves := draws.behaves
  draws _ none := absurd none (Nat.not_lt_zero _)
  fails _ none := absurd none (Nat.not_lt_zero _)

theorem vacuous : Draws 0 roomAgain step again spends where
  behaves _ _ none := absurd none (Nat.not_lt_zero _)
  draws none := absurd none (Nat.not_lt_zero _)
  fails none := absurd none (Nat.not_lt_zero _)

section

variable {first firstAgain : Parse γ} {next nextAgain : γ → Parse α} {spendsFirst : γ → Bool}
  (before : Draws room roomAgain first firstAgain spendsFirst)
  (after : ∀ found, Draws (room - (spendsFirst found).toNat) (roomAgain - (spendsFirst found).toNat)
    (next found) (nextAgain found) fun result => spends result && !spendsFirst found)

include before after

theorem behaves_bind {start : Parser} (skips : start.scanner.skips = some CharClass.skipped)
    (inside : start.scanner.ahead.length < room) : Behaves start spends ((first >>= next) start) := by
  have behaves := before.behaves start skips inside
  simp only [Bind.bind, EStateM.bind]
  cases outcome : first start with
  | error error stop =>
      rw [outcome] at behaves
      exact behaves
  | ok found middle =>
      rw [outcome] at behaves
      have less : middle.scanner.ahead.length < room - (spendsFirst found).toNat := by
        have := behaves.2.2.1
        omega
      exact behaves.trans ((after found).behaves middle (behaves.1.skips.trans skips) less)

section

variable {caseSensitive : Bool} {back other text : List Char} {start middle place : Parser} {found : γ}
  (inside : start.scanner.ahead.length < room) (insideAgain : place.scanner.ahead.length < roomAgain)
  (shared : Shared caseSensitive back other text start place) (outcome : first start = .ok found middle)

include inside shared outcome

theorem behaves_between :
    Behaves start spendsFirst (.ok found middle) ∧
      middle.scanner.ahead.length < room - (spendsFirst found).toNat ∧
      Behaves middle (fun result => spends result && !spendsFirst found) (next found middle) := by
  have behaves := before.behaves start shared.facing.skips inside
  rw [outcome] at behaves
  have shorter := behaves.2.2.1
  have less : middle.scanner.ahead.length < room - (spendsFirst found).toNat := by omega
  exact ⟨behaves, less, (after found).behaves middle (behaves.1.skips.trans shared.facing.skips) less⟩

include insideAgain

theorem draws_between (untaken : middle.nextArgument = start.nextArgument) {part : List Char}
    (cut : Cut part back other) (fronted : Fronted part) (ahead : middle.scanner.ahead = front (part ++ back)) :
    ∃ placeMiddle, firstAgain place = .ok found placeMiddle ∧
      Shared caseSensitive back other part middle placeMiddle ∧
      placeMiddle.scanner.ahead.length < roomAgain - (spendsFirst found).toNat := by
  obtain ⟨⟨_, _, shorter, _⟩, _⟩ := behaves_between before after inside shared outcome
  obtain ⟨placeMiddle, sameAgain, sharedMiddle⟩ :=
    before.draws inside insideAgain shared outcome untaken cut fronted ahead
  have := shared.shrinks sharedMiddle shorter
  exact ⟨placeMiddle, sameAgain, sharedMiddle, by omega⟩

end

theorem bind : Draws room roomAgain (first >>= next) (firstAgain >>= nextAgain) spends where
  behaves start skips inside := behaves_bind before after skips inside
  draws {caseSensitive back other text rest start place result stop} inside insideAgain shared same
      untaken cut fronted ahead := by
    simp only [Bind.bind, EStateM.bind] at same ⊢
    cases outcome : first start with
    | error error middle =>
        rw [outcome] at same
        cases same
    | ok found middle =>
        rw [outcome] at same
        have sameNext : next found middle = .ok result stop := same
        obtain ⟨⟨spared, ⟨_, moves⟩, _⟩, less, behavesNext⟩ :=
          behaves_between before after inside shared outcome
        rw [sameNext] at behavesNext
        obtain ⟨sparedNext, ⟨_, movesNext⟩, _⟩ := behavesNext
        obtain ⟨untakenFirst, untakenNext⟩ := spared.between sparedNext untaken
        -- The place between both steps is before the cut, too.
        obtain ⟨part, frontedPart, aheadPart, contains, within⟩ :=
          shared.fronted.between fronted (fronted_front middle.scanner.remaining)
            (shared.ahead ▸ moves.ahead_suffix) (ahead ▸ movesNext.ahead_suffix)
        obtain ⟨placeMiddle, sameAgain, sharedMiddle, lessAgain⟩ :=
          draws_between before after inside insideAgain shared outcome untakenFirst
            (shared.cut.between cut contains within) frontedPart aheadPart
        obtain ⟨last, sameLast, sharedLast⟩ := (after found).draws less lessAgain sharedMiddle
          sameNext untakenNext cut fronted ahead
        exact ⟨last, by rw [sameAgain]; exact sameLast, sharedLast⟩
  fails {caseSensitive text start place error stop} inside insideAgain shared same untaken := by
    simp only [Bind.bind, EStateM.bind] at same ⊢
    cases outcome : first start with
    | error error middle =>
        rw [outcome] at same
        cases same
        obtain ⟨error, last, sameAgain⟩ := before.fails inside insideAgain shared outcome untaken
        exact ⟨error, last, by rw [sameAgain]⟩
    | ok found middle =>
        rw [outcome] at same
        have sameNext : next found middle = .error error stop := same
        obtain ⟨⟨spared, _⟩, less, behavesNext⟩ := behaves_between before after inside shared outcome
        rw [sameNext] at behavesNext
        obtain ⟨untakenFirst, untakenNext⟩ := spared.between behavesNext untaken
        have ahead : middle.scanner.ahead = front (middle.scanner.ahead ++ []) := by
          rw [List.append_nil]
          exact (fronted_front _).symm
        obtain ⟨placeMiddle, sameAgain, sharedMiddle, lessAgain⟩ :=
          draws_between before after inside insideAgain shared outcome untakenFirst
            (.final rfl fun _ _ _ found => nomatch found) (fronted_front _) ahead
        obtain ⟨error, last, sameLast⟩ := (after found).fails less lessAgain sharedMiddle
          sameNext untakenNext
        exact ⟨error, last, by rw [sameAgain]; exact sameLast⟩

end

end Draws

/-- What the step finds ahead, and how much of the text it takes for it; nothing where it fails. -/
structure Looks (step : Parse α) (look : Bool → List Char → Option (α × Nat)) : Prop where
  found : ∀ {parser : Parser} {result count}, parser.scanner.skips = some CharClass.skipped →
    look parser.scanner.caseSensitive parser.scanner.ahead = some (result, count) →
    ∃ scanner, step parser = .ok result (parser.moved scanner) ∧
      (∃ crossed, parser.scanner.Moves scanner crossed) ∧
      scanner.ahead = front (parser.scanner.ahead.drop count)
  missed : ∀ {parser : Parser}, parser.scanner.skips = some CharClass.skipped →
    look parser.scanner.caseSensitive parser.scanner.ahead = none →
    ∃ error scanner, step parser = .error error (parser.moved scanner) ∧
      ∃ crossed, parser.scanner.Moves scanner crossed

/-- What is found before a cut is found again. -/
structure Steady (look : Bool → List Char → Option (α × Nat)) : Prop where
  settled : ∀ {caseSensitive text result count}, look caseSensitive text = some (result, count) →
    count ≤ text.length ∧ (∀ last ∈ (text.take count).getLast?, CharClass.skipped last = false) ∧
      Settled (text.take count) (text.drop count)
  final : ∀ {caseSensitive text back result count}, Settled text back →
    look caseSensitive (text ++ back) = some (result, count) → count ≤ text.length →
    look caseSensitive text = some (result, count)
  closing : ∀ {caseSensitive text back other result count}, text.getLast? = some ')' →
    look caseSensitive (text ++ back) = some (result, count) → count < text.length →
    look caseSensitive (text ++ other) = some (result, count)

theorem Cut.settled {text back other : List Char} (cut : Cut text back other) : Settled text back := by
  cases cut with
  | final _ settled => exact settled
  | closing closing =>
      intro last found next _
      obtain rfl := Option.some.inj (closing.symm.trans found)
      exact ⟨fun _ => unlettered_of_symbol (by decide), fun _ => by decide⟩

theorem Steady.again {look : Bool → List Char → Option (α × Nat)} (steady : Steady look)
    {caseSensitive : Bool} {text rest back other : List Char} {result : α} {count : Nat}
    (cut : Cut text back other) (cutRest : Cut rest back other) (fronted : Fronted text)
    (frontedRest : Fronted rest) (found : look caseSensitive (front (text ++ back)) = some (result, count))
    (behind : front ((front (text ++ back)).drop count) = front (rest ++ back)) :
    look caseSensitive (front (text ++ other)) = some (result, count) ∧
      front ((front (text ++ other)).drop count) = front (rest ++ other) := by
  obtain ⟨bound, solid, _⟩ := steady.settled found
  obtain ⟨within, same⟩ := fronted.taken frontedRest solid bound behind
  by_cases none : text = []
  · subst none
    obtain rfl := Nat.le_zero.mp within
    obtain rfl : rest = [] := by simpa using same.symm
    -- With nothing read, nothing may have been taken either.
    cases cut with
    | closing last => cases last
    | final none _ =>
        subst none
        exact ⟨steady.final nofun found (Nat.le_refl 0), rfl⟩
  · rw [fronted.append none] at found ⊢
    refine ⟨?_, ?_⟩
    · cases cutRest with
      | final none _ =>
          rw [none, List.append_nil]
          exact steady.final (Cut.settled cut) found within
      | closing last =>
          have some : rest ≠ [] := by
            rintro rfl
            cases last
          have inside : rest <:+ text := by
            rw [← same]
            exact (List.dropWhile_suffix _).trans (List.drop_suffix _ _)
          refine steady.closing ((getLast?_suffix inside some).trans last) found ?_
          refine Nat.lt_of_le_of_ne within ?_
          rintro rfl
          rw [List.drop_length] at same
          exact some same.symm
    · rw [List.drop_append_of_le_length within, ← front_append, same]

namespace Draws

section

variable {step : Parse α} {sees : Bool → List Char → Option (α × Nat)} {spends : α → Bool}
  (looks : Looks step sees) (steady : Steady sees)

include looks steady

theorem behaves_look (spent : ∀ {caseSensitive text result count},
      sees caseSensitive text = some (result, count) → spends result = true → 0 < count)
    {start : Parser} (skips : start.scanner.skips = some CharClass.skipped) :
    Behaves start spends (step start) := by
  cases found : sees start.scanner.caseSensitive start.scanner.ahead with
  | none =>
      obtain ⟨error, scanner, same, crossed, moves⟩ := looks.missed skips found
      rw [same]
      exact .moved moves
  | some pair =>
      obtain ⟨result, count⟩ := pair
      obtain ⟨scanner, same, ⟨crossed, moves⟩, behind⟩ := looks.found skips found
      obtain ⟨bound, solid, settled⟩ := steady.settled found
      rw [same]
      refine ⟨.moved moves, ⟨crossed, moves⟩, ?_, fun _ => ⟨start.scanner.ahead.take count,
        start.scanner.ahead.drop count, (List.take_append_drop _ _).symm, behind, solid, settled⟩⟩
      have shorter := front_length (start.scanner.ahead.drop count)
      rw [← behind, List.length_drop] at shorter
      show scanner.ahead.length + _ ≤ _
      cases free : spends result with
      | false =>
          rw [Bool.toNat_false]
          omega
      | true =>
          have := spent found free
          rw [Bool.toNat_true]
          omega

theorem draws_look {caseSensitive : Bool} {back other text rest : List Char} {start place stop : Parser}
    {result : α} (shared : Shared caseSensitive back other text start place)
    (same : step start = .ok result stop) (cut : Cut rest back other) (fronted : Fronted rest)
    (ahead : stop.scanner.ahead = front (rest ++ back)) :
    ∃ last, step place = .ok result last ∧ Shared caseSensitive back other rest stop last := by
  cases found : sees start.scanner.caseSensitive start.scanner.ahead with
  | none =>
      obtain ⟨error, scanner, failed, _⟩ := looks.missed shared.facing.skips found
      rw [failed] at same
      cases same
  | some pair =>
      obtain ⟨resultFound, count⟩ := pair
      obtain ⟨scanner, succeeded, ⟨crossed, moves⟩, behind⟩ := looks.found shared.facing.skips found
      rw [succeeded] at same
      cases same
      rw [shared.facing.caseSensitive, shared.ahead] at found
      obtain ⟨foundAgain, behindAgain⟩ := steady.again shared.cut cut shared.fronted fronted found
        (by rw [← ahead, ← shared.ahead]; exact behind.symm)
      rw [← shared.again.caseSensitive, ← shared.aheadAgain] at foundAgain
      obtain ⟨scannerAgain, sameAgain, ⟨crossedAgain, movesAgain⟩, rest⟩ :=
        looks.found shared.again.skips foundAgain
      rw [← shared.aheadAgain] at behindAgain
      exact ⟨_, sameAgain, shared.moved cut fronted moves movesAgain ahead (rest.trans behindAgain)⟩

theorem look {room roomAgain : Nat} (spent : ∀ {caseSensitive text result count},
      sees caseSensitive text = some (result, count) → spends result = true → 0 < count) :
    Draws room roomAgain step step spends where
  behaves _ skips _ := behaves_look looks steady spent skips
  draws _ _ shared same _ cut fronted ahead := draws_look looks steady shared same cut fronted ahead
  fails {caseSensitive text start place error stop} _ _ shared same _ := by
    cases found : sees start.scanner.caseSensitive start.scanner.ahead with
    | some pair =>
        obtain ⟨scanner, succeeded, _⟩ := looks.found shared.facing.skips found
        rw [succeeded] at same
        cases same
    | none =>
        rw [shared.facing.caseSensitive, shared.ahead, ← shared.again.caseSensitive,
          ← shared.aheadAgain] at found
        obtain ⟨error, scanner, failed, _⟩ := looks.missed shared.again.skips found
        exact ⟨error, _, failed⟩

end

end Draws

namespace Draws

theorem recurseTo {α β : Type} {spends : β → Bool} {step again : (α → Parse β) → α → Parse β}
    (bound boundAgain : Nat)
    (grows : ∀ room ≤ bound, ∀ roomAgain ≤ boundAgain, ∀ inner innerAgain,
      (∀ start, Draws (room - 1) (roomAgain - 1) (inner start) (innerAgain start) spends) →
      ∀ start, Draws room roomAgain (step inner start) (again innerAgain start) spends)
    (room roomAgain fuel fuelAgain : Nat) (within : room ≤ bound)
    (withinAgain : roomAgain ≤ boundAgain) (enough : room ≤ fuel) (enoughAgain : roomAgain ≤ fuelAgain)
    (start : α) : Draws room roomAgain (Parse.recurseTo step fuel start)
      (Parse.recurseTo again fuelAgain start) spends := by
  -- Both readings have depths of their own, so one may run out of room before the other.
  induction room generalizing roomAgain fuel fuelAgain start with
  | zero => exact vacuous
  | succ room ih =>
      obtain ⟨fuel, rfl⟩ : ∃ rest, fuel = rest + 1 := ⟨fuel - 1, by omega⟩
      cases roomAgain with
      | zero =>
          have inner := ih 0 fuel 0 (by omega) (Nat.zero_le _) (by omega) (Nat.zero_le _)
          exact (grows (room + 1) within 0 (Nat.zero_le _) _ _ inner start).blind
      | succ roomAgain =>
          obtain ⟨fuelAgain, rfl⟩ : ∃ rest, fuelAgain = rest + 1 := ⟨fuelAgain - 1, by omega⟩
          exact grows (room + 1) within (roomAgain + 1) withinAgain _ _
            (ih roomAgain fuel fuelAgain (by omega) (by omega) (by omega) (by omega)) start

/-- The depth of a recursion is enough for the text. -/
theorem deepens {α β : Type} {spends : β → Bool} {step again : (α → Parse β) → α → Parse β} {start : α}
    {bound boundAgain : Nat}
    (follows : ∀ room ≤ bound, ∀ roomAgain ≤ boundAgain, ∀ fuel fuelAgain, room ≤ fuel →
      roomAgain ≤ fuelAgain → Draws room roomAgain (Parse.recurseTo step fuel start)
        (Parse.recurseTo again fuelAgain start) spends) :
    Draws bound boundAgain (Parse.recurse step start) (Parse.recurse again start) spends := by
  have tight : ∀ parser place : Parser, parser.scanner.ahead.length < bound →
      place.scanner.ahead.length < boundAgain →
      Draws (parser.scanner.ahead.length + 1) (place.scanner.ahead.length + 1)
        (Parse.recurseTo step (parser.scanner.remaining.length + 1) start)
        (Parse.recurseTo again (place.scanner.remaining.length + 1) start) spends :=
    fun parser place inside insideAgain => follows _ inside _ insideAgain _ _
      (Nat.succ_le_succ parser.ahead_length) (Nat.succ_le_succ place.ahead_length)
  constructor
  · intro parser skips inside
    have least := follows (parser.scanner.ahead.length + 1) inside 0 (Nat.zero_le _)
      (parser.scanner.remaining.length + 1) 0 (Nat.succ_le_succ parser.ahead_length) (Nat.le_refl 0)
    exact least.behaves parser skips (Nat.lt_succ_self _)
  · intro caseSensitive back other text rest parser place result stop inside insideAgain
    exact (tight parser place inside insideAgain).draws (Nat.lt_succ_self _) (Nat.lt_succ_self _)
  · intro caseSensitive text parser place error stop inside insideAgain
    exact (tight parser place inside insideAgain).fails (Nat.lt_succ_self _) (Nat.lt_succ_self _)

theorem recurse {α β : Type} {spends : β → Bool} {step again : (α → Parse β) → α → Parse β}
    (bound boundAgain : Nat)
    (grows : ∀ room ≤ bound, ∀ roomAgain ≤ boundAgain, ∀ inner innerAgain,
      (∀ start, Draws (room - 1) (roomAgain - 1) (inner start) (innerAgain start) spends) →
      ∀ start, Draws room roomAgain (step inner start) (again innerAgain start) spends) (start : α) :
    Draws bound boundAgain (Parse.recurse step start) (Parse.recurse again start) spends :=
  deepens fun room within roomAgain withinAgain fuel fuelAgain enough enoughAgain =>
    recurseTo bound boundAgain grows room roomAgain fuel fuelAgain within withinAgain enough enoughAgain start

theorem repeatWhile {α : Type} {room roomAgain : Nat} {step again : α → Parse (Option α)}
    (draws : ∀ current, Draws room roomAgain (step current) (again current) Option.isSome) (current : α) :
    Draws room roomAgain (Parse.repeatWhile step current) (Parse.repeatWhile again current)
      fun _ => false := by
  refine recurse room roomAgain ?_ current
  intro less bound lessAgain boundAgain inner innerAgain follows current
  refine bind ((draws current).mono bound boundAgain) fun found => ?_
  cases found with
  | none => exact .pure rfl
  | some next => exact follows next

end Draws

end Parse

end PredicateRules
