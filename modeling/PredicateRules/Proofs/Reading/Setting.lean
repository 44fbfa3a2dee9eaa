import PredicateRules.Grammar.Predicate
import PredicateRules.Proofs.Reading.Scan

/-!
A text read by itself and as a part of a longer text. What one reading says of the other is carried
through the grammar by the rules at the end: a success is repeated unless an argument was taken that
the text does not call for once more, and inside of brackets a failure is repeated as well.
-/

namespace PredicateRules

namespace Parser

def lexis (parser : Parser) : Lexis := Lexis.after parser.scanner.passed

/-- Outside of quotation marks, inside of `depth` brackets, and with less than `room` characters
ahead. -/
structure At (room depth : Nat) (parser : Parser) : Prop where
  skips : parser.scanner.skips = some CharClass.skipped
  room : parser.scanner.ahead.length < room
  outside : parser.lexis.quote = none
  depth : parser.lexis.depth = depth

theorem At.weaken {room more depth : Nat} {parser : Parser} (place : parser.At room depth)
    (le : room ≤ more) : parser.At more depth :=
  ⟨place.skips, Nat.lt_of_lt_of_le place.room le, place.outside, place.depth⟩

theorem At.tight {room depth : Nat} {parser : Parser} (place : parser.At room depth) :
    parser.At (parser.scanner.ahead.length + 1) depth :=
  ⟨place.skips, Nat.lt_succ_self _, place.outside, place.depth⟩

theorem ahead_length (parser : Parser) :
    parser.scanner.ahead.length ≤ parser.scanner.remaining.length :=
  (List.dropWhile_sublist _).length_le

/-- What also a failure leaves as it was. -/
structure Kept (start stop : Parser) : Prop where
  skips : stop.scanner.skips = start.scanner.skips
  caseSensitive : stop.scanner.caseSensitive = start.scanner.caseSensitive
  arguments : stop.arguments = start.arguments
  taken : start.nextArgument ≤ stop.nextArgument

namespace Kept

theorem refl (parser : Parser) : Kept parser parser := ⟨rfl, rfl, rfl, Nat.le_refl _⟩

theorem trans {start middle stop : Parser} (before : Kept start middle) (after : Kept middle stop) :
    Kept start stop where
  skips := after.skips.trans before.skips
  caseSensitive := after.caseSensitive.trans before.caseSensitive
  arguments := after.arguments.trans before.arguments
  taken := Nat.le_trans before.taken after.taken

end Kept

/-- Forward in the text, with an argument taken for each placeholder passed at the least. -/
structure Advance (start stop : Parser) : Prop where
  moves : ∃ crossed, start.scanner.Moves stop.scanner crossed
  arguments : stop.arguments = start.arguments
  taken : stop.lexis.placeholders + start.nextArgument ≤
    start.lexis.placeholders + stop.nextArgument

namespace Advance

theorem refl (parser : Parser) : Advance parser parser :=
  ⟨⟨[], .refl _⟩, rfl, Nat.le_refl _⟩

theorem trans {start middle stop : Parser} (before : Advance start middle)
    (after : Advance middle stop) : Advance start stop where
  moves := by
    obtain ⟨first, movesFirst⟩ := before.moves
    obtain ⟨second, movesSecond⟩ := after.moves
    exact ⟨_, movesFirst.trans movesSecond⟩
  arguments := after.arguments.trans before.arguments
  taken := by
    have := before.taken
    have := after.taken
    omega

theorem placeholders {start stop : Parser} (advance : Advance start stop) :
    start.lexis.placeholders ≤ stop.lexis.placeholders := by
  obtain ⟨crossed, moves⟩ := advance.moves
  unfold lexis
  rw [moves.passed, Lexis.after_append]
  exact Lexis.placeholders_foldl _ crossed

theorem kept {start stop : Parser} (advance : Advance start stop) : Kept start stop := by
  obtain ⟨crossed, moves⟩ := advance.moves
  refine ⟨moves.skips, moves.caseSensitive, advance.arguments, ?_⟩
  have := advance.placeholders
  have := advance.taken
  omega

theorem text {start stop : Parser} (advance : Advance start stop) :
    stop.scanner.text = start.scanner.text := by
  obtain ⟨crossed, moves⟩ := advance.moves
  exact moves.text

end Advance

end Parser

open PredicateRules.Parser

/-- Literals and keywords that are looked for where an operand begins or ends. -/
def operandWords : List String :=
  ["-", "(", "\x7b", "$", "%", "\"", "'", "@", "#", ":", "[", ".", "**", "*", "/", "+", ":=", ",",
    "[cd]", "[c]", "[d]", "NULL", "NIL", "TRUE", "YES", "FALSE", "NO", "SELF", "FIRST", "LAST",
    "SIZE", "UNION", "INTERSECT", "MINUS", "ANY", "ALL", "NONE", "SOME", "NOT", "!",
    "TRUEPREDICATE", "FALSEPREDICATE"] ++ Parse.operatorWords.map Prod.fst

/-- Whether a word is looked for in vain at the front of a text. -/
def Silent (word : String) (text : List Char) : Prop :=
  ∀ caseSensitive, Scanner.startsWith caseSensitive word.toList text = false

instance (word : String) (text : List Char) : Decidable (Silent word text) :=
  inferInstanceAs (Decidable (∀ _, _))

/-- A longer text around a text, and which arguments are read in either. What follows the text does
not go on with it. -/
structure Setting where
  front : List Char
  back : List Char
  which : Parser → Nat
  other : Parser → Nat
  /-- Whether also what fails outside of brackets fails in the longer text. -/
  exact : Prop
  spaced : ∀ character ∈ back.head?, character = ' '
  silent : ∀ word ∈ operandWords, Silent word (back.dropWhile CharClass.skipped)
  unnumbered : Numeral.scan (back.dropWhile CharClass.skipped) = none
  unselected : Silent ":" (((back.dropWhile CharClass.skipped).dropWhile
    CharClass.identifier).dropWhile CharClass.skipped)
  unjoined : exact → ∀ word ∈ Parse.conjunctionWords.map Prod.fst,
    Silent word (back.dropWhile CharClass.skipped)
  unnamed : exact → ∀ character ∈ (back.dropWhile CharClass.skipped).head?,
    CharClass.identifier character = false ∧ CharClass.propertyKey character = false
  agree : ∀ parser longer : Parser,
    longer.scanner.passed = parser.scanner.passed ++ front.reverse →
    longer.nextArgument = parser.nextArgument →
    parser.lexis.placeholders = parser.nextArgument + 1 →
    other longer = which parser

namespace Setting

variable (setting : Setting)

def rest : List Char := setting.back.dropWhile CharClass.skipped

/-- A place in the text and the same place in the longer text, up to what is skipped. -/
structure Related (parser longer : Parser) : Prop where
  text : longer.scanner.text = setting.front ++ parser.scanner.text ++ setting.back
  ahead : longer.scanner.ahead =
    (parser.scanner.remaining ++ setting.back).dropWhile CharClass.skipped
  skips : longer.scanner.skips = some CharClass.skipped
  caseSensitive : longer.scanner.caseSensitive = parser.scanner.caseSensitive
  arguments : longer.arguments = parser.arguments
  taken : longer.nextArgument = parser.nextArgument
  /-- No placeholder was read twice. -/
  counted : parser.nextArgument = parser.lexis.placeholders
  closed : setting.back ≠ [] → (Lexis.after parser.scanner.text.reverse).quote = none ∧
    (Lexis.after parser.scanner.text.reverse).depth = 0

/-- What a failure on the longer text leaves as it was. -/
structure Spent (start stop : Parser) : Prop where
  skips : stop.scanner.skips = start.scanner.skips
  caseSensitive : stop.scanner.caseSensitive = start.scanner.caseSensitive
  arguments : stop.arguments = start.arguments
  taken : stop.nextArgument = start.nextArgument

namespace Spent

theorem trans {start middle stop : Parser} (before : Spent start middle) (after : Spent middle stop) :
    Spent start stop where
  skips := after.skips.trans before.skips
  caseSensitive := after.caseSensitive.trans before.caseSensitive
  arguments := after.arguments.trans before.arguments
  taken := after.taken.trans before.taken

end Spent

theorem Related.spent {setting : Setting} {start stop longer longerStop : Parser}
    (before : setting.Related start longer) (after : setting.Related stop longerStop)
    (kept : Kept start stop) (taken : stop.nextArgument = start.nextArgument) :
    Spent longer longerStop where
  skips := after.skips.trans before.skips.symm
  caseSensitive := (after.caseSensitive.trans kept.caseSensitive).trans before.caseSensitive.symm
  arguments := (after.arguments.trans kept.arguments).trans before.arguments.symm
  taken := (after.taken.trans taken).trans before.taken.symm

namespace Related

variable {setting : Setting} {parser longer : Parser}

theorem ahead_cases (related : setting.Related parser longer) :
    parser.scanner.ahead = [] ∧ longer.scanner.ahead = setting.rest ∨
      parser.scanner.ahead ≠ [] ∧ longer.scanner.ahead = parser.scanner.ahead ++ setting.back := by
  rw [related.ahead, List.dropWhile_append]
  unfold Scanner.ahead
  cases parser.scanner.remaining.dropWhile CharClass.skipped with
  | nil => exact .inl ⟨rfl, rfl⟩
  | cons character text => exact .inr ⟨List.cons_ne_nil _ _, rfl⟩

theorem ahead_length (related : setting.Related parser longer) :
    parser.scanner.ahead.length ≤ longer.scanner.ahead.length := by
  rcases related.ahead_cases with ⟨none, _⟩ | ⟨_, more⟩
  · simp [none]
  · simp [more]

end Related

/-- What the reading of the text by itself comes to. -/
def Reads (start : Parser) (post : α → Parser → Prop) : EStateM.Result ParseError Parser α → Prop
  | .ok result stop => Advance start stop ∧ post result stop
  | .error _ stop => Kept start stop

/-- What the reading of the longer text comes to then. -/
def Mirrors (image : α → β) (base : Nat) (start longer : Parser) :
    EStateM.Result ParseError Parser α → EStateM.Result ParseError Parser β → Prop
  | .ok result stop, outcome => stop.nextArgument ≤ stop.lexis.placeholders →
    ∃ longerStop, outcome = .ok (image result) longerStop ∧ setting.Related stop longerStop
  | .error _ stop, outcome => stop.nextArgument ≤ start.nextArgument → setting.exact ∨ 0 < base →
    ∃ error longerStop, outcome = .error error longerStop ∧ Spent longer longerStop

/-- Arguments that are taken in their order are no more than there are. -/
def Limits (start : Parser) : EStateM.Result ParseError Parser α → Prop
  | .ok _ stop => setting.which = Parser.nextArgument →
    stop.nextArgument ≤ max start.nextArgument start.arguments.length
  | .error _ stop => setting.which = Parser.nextArgument →
    stop.nextArgument ≤ max start.nextArgument start.arguments.length

/-- From places with `pre`, the first step on the text leads to `post`, and the second one on the
longer text does the same with another kind of result. Failures are followed inside of `base`
brackets. -/
structure FollowsAs (image : α → β) (base : Nat) (pre : Parser → Prop) (step : Parse α)
    (longer : Parse β) (post : α → Parser → Prop) : Prop where
  reads : ∀ start, pre start → Reads start post (step start)
  limits : ∀ start, pre start → setting.Limits start (step start)
  mirrors : ∀ start place, pre start → setting.Related start place →
    setting.Mirrors image base start place (step start) (longer place)

abbrev Follows (base : Nat) (pre : Parser → Prop) (step longer : Parse α)
    (post : α → Parser → Prop) : Prop :=
  setting.FollowsAs id base pre step longer post

variable {setting}

section

variable {α β γ δ : Type} {start middle : Parser} {post : α → Parser → Prop}
  {outcome : EStateM.Result ParseError Parser α} (advance : Advance start middle)

include advance

theorem Reads.trans (reads : Reads middle post outcome) : Reads start post outcome := by
  cases outcome with
  | ok result stop => exact ⟨advance.trans reads.1, reads.2⟩
  | error error stop => exact advance.kept.trans reads

theorem Limits.trans {found : γ} (before : setting.Limits start (.ok found middle))
    (limits : setting.Limits middle outcome) : setting.Limits start outcome := by
  have arguments := congrArg List.length advance.arguments
  cases outcome with
  | ok result stop =>
      intro inOrder
      have := before inOrder
      have := limits inOrder
      omega
  | error error stop =>
      intro inOrder
      have := before inOrder
      have := limits inOrder
      omega

theorem Mirrors.trans {image : α → β} {between : γ → δ} {base : Nat} {longer : Parser} {found : γ}
    {firstLonger : Parse δ} {nextLonger : δ → Parse β} (related : setting.Related start longer)
    (before : setting.Mirrors between base start longer (.ok found middle) (firstLonger longer))
    (reads : Reads middle post outcome)
    (after : ∀ longerMiddle, setting.Related middle longerMiddle →
      setting.Mirrors image base middle longerMiddle outcome (nextLonger (between found) longerMiddle)) :
    setting.Mirrors image base start longer outcome ((firstLonger >>= nextLonger) longer) := by
  simp only [Bind.bind, EStateM.bind]
  cases outcome with
  | ok result stop =>
      intro taken
      have := reads.1.taken
      obtain ⟨longerMiddle, same, relatedMiddle⟩ := before (by omega)
      obtain ⟨longerStop, sameLast, relatedLast⟩ := after longerMiddle relatedMiddle taken
      exact ⟨longerStop, by rw [same]; exact sameLast, relatedLast⟩
  | error error stop =>
      intro taken exact_
      have := reads.taken
      have := advance.taken
      have := advance.placeholders
      have := related.counted
      obtain ⟨longerMiddle, same, relatedMiddle⟩ := before (by omega)
      obtain ⟨cause, longerStop, sameLast, spent⟩ := after longerMiddle relatedMiddle (by omega) exact_
      have unchanged : Spent longer longerMiddle :=
        related.spent relatedMiddle advance.kept (by omega)
      exact ⟨cause, longerStop, by rw [same]; exact sameLast, unchanged.trans spent⟩

end

namespace FollowsAs

variable {α β γ δ : Type} {image : α → β} {base : Nat} {pre : Parser → Prop}
  {post : α → Parser → Prop}

theorem pure {result : α} (holds : ∀ parser, pre parser → post result parser) :
    setting.FollowsAs image base pre (Pure.pure result) (Pure.pure (image result)) post where
  reads start place := ⟨.refl start, holds start place⟩
  limits _ _ _ := Nat.le_max_left _ _
  mirrors _ longer _ related _ := ⟨longer, rfl, related⟩

theorem fail {error other : Location → ParseError} :
    setting.FollowsAs image base pre (Parse.fail error) (Parse.fail other) post where
  reads start _ := .refl start
  limits _ _ _ := Nat.le_max_left _ _
  mirrors _ longer _ _ _ _ := ⟨_, longer, rfl, rfl, rfl, rfl, rfl⟩

theorem weaken {step : Parse α} {longer : Parse β} {stronger : Parser → Prop}
    {weaker : α → Parser → Prop} (follows : setting.FollowsAs image base pre step longer post)
    (start : ∀ parser, stronger parser → pre parser)
    (stop : ∀ result parser, post result parser → weaker result parser) :
    setting.FollowsAs image base stronger step longer weaker where
  reads parser place := by
    have reads := follows.reads parser (start parser place)
    revert reads
    cases step parser with
    | ok result after => exact fun reads => ⟨reads.1, stop result after reads.2⟩
    | error error after => exact id
  limits parser place := follows.limits parser (start parser place)
  mirrors parser place holds related := follows.mirrors parser place (start parser holds) related

theorem bind {middle : γ → Parser → Prop} {first : Parse γ} {firstLonger : Parse δ}
    {next : γ → Parse α} {nextLonger : δ → Parse β} {between : γ → δ}
    (before : setting.FollowsAs between base pre first firstLonger middle)
    (after : ∀ result, setting.FollowsAs image base (middle result) (next result)
      (nextLonger (between result)) post) :
    setting.FollowsAs image base pre (first >>= next) (firstLonger >>= nextLonger) post where
  reads start place := by
    have reads := before.reads start place
    simp only [Bind.bind, EStateM.bind]
    cases outcome : first start with
    | error error parser =>
        rw [outcome] at reads
        exact reads
    | ok result parser =>
        rw [outcome] at reads
        exact ((after result).reads parser reads.2).trans reads.1
  limits start place := by
    have reads := before.reads start place
    have limits := before.limits start place
    simp only [Bind.bind, EStateM.bind]
    cases outcome : first start with
    | error error parser =>
        rw [outcome] at limits
        exact limits
    | ok result parser =>
        rw [outcome] at reads limits
        exact limits.trans reads.1 ((after result).limits parser reads.2)
  mirrors start longer place related := by
    have reads := before.reads start place
    have mirrors := before.mirrors start longer place related
    cases outcome : first start with
    | error error parser =>
        rw [outcome] at mirrors
        simp only [Bind.bind, EStateM.bind, outcome]
        intro taken exact_
        obtain ⟨cause, longerStop, same, spent⟩ := mirrors taken exact_
        exact ⟨cause, longerStop, by rw [same], spent⟩
    | ok result parser =>
        rw [outcome] at reads mirrors
        have goesOn : (first >>= next) start = next result parser := by
          simp only [Bind.bind, EStateM.bind, outcome]
        rw [goesOn]
        exact mirrors.trans reads.1 related ((after result).reads parser reads.2)
          fun longerMiddle => (after result).mirrors parser longerMiddle reads.2

theorem vacuous {step : Parse α} {longer : Parse β} {depth : Nat} :
    setting.FollowsAs image base (At 0 depth) step longer post where
  reads _ place := absurd place.room (Nat.not_lt_zero _)
  limits _ place := absurd place.room (Nat.not_lt_zero _)
  mirrors _ _ place := absurd place.room (Nat.not_lt_zero _)

theorem within {step : Parse α} {longer : Parse β} {depth stop : Nat}
    (follows : ∀ room, setting.FollowsAs image base (At (room + 1) depth) step longer
      fun _ => At room stop) (room : Nat) :
    setting.FollowsAs image base (At room depth) step longer fun _ => At room stop := by
  cases room with
  | zero => exact vacuous
  | succ room =>
      exact (follows room).weaken (fun _ => id) fun _ _ place => place.weaken (Nat.le_succ room)

section

variable {ι : Type} (bound drop : Nat) (bases depths stops : ι → Nat) (arguments : ι → γ)
  (argumentsLonger : ι → δ) {step : (γ → Parse α) → γ → Parse α}
  {longer : (δ → Parse β) → δ → Parse β}
  (grows : ∀ room < bound, ∀ again againLonger,
    (∀ index, ∀ less ≤ room, setting.FollowsAs image (bases index) (At less (depths index))
      (again (arguments index)) (againLonger (argumentsLonger index))
      fun _ => At (less - drop) (stops index)) →
    ∀ index, setting.FollowsAs image (bases index) (At (room + 1) (depths index))
      (step again (arguments index)) (longer againLonger (argumentsLonger index))
      fun _ => At (room + 1 - drop) (stops index))

include grows

/-- The depth of the recursion does not run out before the text does. -/
theorem recurseTo (room fuel fuelLonger : Nat) (within : room ≤ bound) (enough : room ≤ fuel)
    (enoughLonger : room ≤ fuelLonger) (index : ι) : ∀ less ≤ room,
    setting.FollowsAs image (bases index) (At less (depths index))
      (Parse.recurseTo step fuel (arguments index))
      (Parse.recurseTo longer fuelLonger (argumentsLonger index))
      fun _ => At (less - drop) (stops index) := by
  induction room generalizing fuel fuelLonger index with
  | zero =>
      intro less least
      obtain rfl := Nat.le_zero.mp least
      exact vacuous
  | succ room ih =>
      obtain ⟨fuel, rfl⟩ : ∃ rest, fuel = rest + 1 := ⟨fuel - 1, by omega⟩
      obtain ⟨fuelLonger, rfl⟩ : ∃ rest, fuelLonger = rest + 1 := ⟨fuelLonger - 1, by omega⟩
      intro less least
      cases less with
      | zero => exact vacuous
      | succ less =>
          refine grows less (by omega) _ _ (fun other lower lowest => ?_) index
          exact ih _ _ (by omega) (by omega) (by omega) other lower (by omega)

/-- The recursion of the longer text may have been begun before. -/
theorem recurseWithin (index : ι) {room fuelLonger : Nat} (within : room ≤ bound)
    (enough : room ≤ fuelLonger) :
    setting.FollowsAs image (bases index) (At room (depths index))
      (Parse.recurse step (arguments index))
      (Parse.recurseTo longer fuelLonger (argumentsLonger index))
      fun _ => At (room - drop) (stops index) := by
  have follows : ∀ start : Parser, start.scanner.ahead.length < room →
      setting.FollowsAs image (bases index) (At (start.scanner.ahead.length + 1) (depths index))
        (Parse.recurseTo step (start.scanner.remaining.length + 1) (arguments index))
        (Parse.recurseTo longer fuelLonger (argumentsLonger index))
        fun _ => At (room - drop) (stops index) := by
    intro start inside
    have := start.ahead_length
    have least := recurseTo bound drop bases depths stops arguments argumentsLonger grows
      (start.scanner.ahead.length + 1) (start.scanner.remaining.length + 1) fuelLonger (by omega)
      (by omega) (by omega) index _ (Nat.le_refl _)
    exact least.weaken (fun _ => id) fun _ _ stop => stop.weaken (Nat.sub_le_sub_right inside drop)
  exact {
    reads := fun start place => (follows start place.room).reads start place.tight
    limits := fun start place => (follows start place.room).limits start place.tight
    mirrors := fun start longer place => (follows start place.room).mirrors start longer place.tight }

theorem recurse (index : ι) {room : Nat} (within : room ≤ bound) :
    setting.FollowsAs image (bases index) (At room (depths index))
      (Parse.recurse step (arguments index)) (Parse.recurse longer (argumentsLonger index))
      fun _ => At (room - drop) (stops index) := by
  have follows : ∀ less ≤ bound, ∀ fuelLonger, less ≤ fuelLonger →
      setting.FollowsAs image (bases index) (At less (depths index))
        (Parse.recurse step (arguments index))
        (Parse.recurseTo longer fuelLonger (argumentsLonger index))
        fun _ => At (less - drop) (stops index) :=
    fun _ least _ => recurseWithin bound drop bases depths stops arguments argumentsLonger grows
      index least
  constructor
  · exact (follows room within room (Nat.le_refl room)).reads
  · exact (follows room within room (Nat.le_refl room)).limits
  · intro start longer place related
    have := longer.ahead_length
    have := related.ahead_length
    have inside := place.room
    have least := follows (start.scanner.ahead.length + 1) (by omega)
      (longer.scanner.remaining.length + 1) (by omega)
    exact least.mirrors start longer place.tight related

end

end FollowsAs

namespace Follows

variable {α β γ : Type} {image : α → β} {base : Nat} {pre : Parser → Prop}
  {post : α → Parser → Prop}

theorem bind {middle : γ → Parser → Prop} {first firstLonger : Parse γ} {next : γ → Parse α}
    {nextLonger : γ → Parse β} (before : setting.Follows base pre first firstLonger middle)
    (after : ∀ result, setting.FollowsAs image base (middle result) (next result)
      (nextLonger result) post) :
    setting.FollowsAs image base pre (first >>= next) (firstLonger >>= nextLonger) post :=
  FollowsAs.bind before after

theorem pure {result : α} (holds : ∀ parser, pre parser → post result parser) :
    setting.Follows base pre (Pure.pure result) (Pure.pure result) post :=
  FollowsAs.pure holds

theorem branch {some none inside outside : Nat} {test testLonger : Parse Bool}
    {yes no : Parse α} {yesLonger noLonger : Parse β}
    (tests : setting.Follows base pre test testLonger fun found =>
      At (if found then some else none) (if found then inside else outside))
    (holds : setting.FollowsAs image base (At some inside) yes yesLonger post)
    (fails : setting.FollowsAs image base (At none outside) no noLonger post) :
    setting.FollowsAs image base pre (do if ← test then yes else no)
      (do if ← testLonger then yesLonger else noLonger) post := by
  refine bind tests fun found => ?_
  cases found with
  | true => exact holds
  | false => exact fails

end Follows

/-- The step leads to no place further back, on either text. -/
def Tracks (setting : Setting) (room : Nat) (step longer : Parse α) : Prop :=
  ∀ less ≤ room, ∀ base depth, base ≤ depth →
    setting.Follows base (At less depth) step longer fun _ => At less depth

def Consumes (setting : Setting) (room : Nat) (step longer : Parse α) : Prop :=
  ∀ less ≤ room, ∀ base depth, base ≤ depth →
    setting.Follows base (At (less + 1) depth) step longer fun _ => At less depth

/-- The step takes a character at the least where it finds anything. -/
def Finds (setting : Setting) (room : Nat) (step longer : Parse (Option α)) : Prop :=
  ∀ less ≤ room, ∀ base depth, base ≤ depth →
    setting.Follows base (At (less + 1) depth) step longer fun result =>
      At (if result.isSome then less else less + 1) depth

namespace Consumes

variable {α : Type} {room : Nat}

theorem tracks {step longer : Parse α} (consumes : setting.Consumes room step longer) :
    setting.Tracks (room + 1) step longer := by
  intro less bound base depth inside
  cases less with
  | zero => exact FollowsAs.vacuous
  | succ less =>
      exact (consumes less (by omega) base depth inside).weaken (fun _ => id)
        fun _ _ stop => stop.weaken (Nat.le_succ less)

/-- A place in the recursion: how many brackets it follows failures in, and how many it is in. -/
abbrev Level := { level : Nat × Nat // level.1 ≤ level.2 }

theorem recurse {step longer : (Unit → Parse α) → Unit → Parse α}
    (grows : ∀ room again againLonger, setting.Tracks room (again ()) (againLonger ()) →
      setting.Consumes room (step again ()) (longer againLonger ())) (room : Nat) :
    setting.Consumes room (Parse.recurse step ()) (Parse.recurse longer ()) := by
  intro less _ base depth inside
  refine FollowsAs.recurse (ι := Level) (less + 1) 1 (fun level => level.1.1)
    (fun level => level.1.2) (fun level => level.1.2) (fun _ => ()) (fun _ => ()) ?_
    ⟨(base, depth), inside⟩ (Nat.le_refl _)
  intro room _ again againLonger follows level
  have tracks : setting.Tracks room (again ()) (againLonger ()) := by
    intro less bound base depth inside
    exact (follows ⟨(base, depth), inside⟩ less bound).weaken (fun _ => id)
      fun _ _ stop => stop.weaken (Nat.sub_le less 1)
  exact grows room again againLonger tracks room (Nat.le_refl _) _ _ level.2

end Consumes

theorem Finds.repeatWhile {α : Type} (room : Nat) {step longer : α → Parse (Option α)}
    (finds : ∀ current, setting.Finds room (step current) (longer current)) (current : α) :
    setting.Tracks (room + 1) (Parse.repeatWhile step current)
      (Parse.repeatWhile longer current) := by
  intro less bound base depth inside
  refine FollowsAs.recurse (ι := α) (room + 1) 0 (fun _ => base) (fun _ => depth) (fun _ => depth)
    id id ?_ current bound
  intro room lower again againLonger follows current
  refine Follows.bind (finds current room (by omega) base depth inside) fun result => ?_
  cases result with
  | none => exact Follows.pure fun _ stop => stop
  | some next =>
      exact (follows next room (Nat.le_refl _)).weaken (fun _ => id)
        fun _ _ stop => stop.weaken (Nat.le_succ room)

end Setting

end PredicateRules
