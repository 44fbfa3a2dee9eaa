import PredicateRules.Proofs.Reading.Predicate

namespace PredicateRules

def Parser.Faces (text : List Char) (parser : Parser) : Prop :=
  parser.scanner.skips = some CharClass.skipped ∧ parser.scanner.ahead = text

namespace Parse

variable {α β : Type} {text : List Char}

/-- Before the text the step comes to an outcome of some kind. -/
def Leads (text : List Char) (post : EStateM.Result ParseError Parser α → Prop) (step : Parse α) :
    Prop :=
  ∀ parser : Parser, parser.Faces text → post (step parser)

/-- The step finds only what it finds where there is nothing. -/
def Passes (text : List Char) (step : Parse α) (result : α) : Prop :=
  Leads text (fun outcome => ∃ stop, outcome = .ok result stop ∧ stop.Faces text) step

def Refuses (text : List Char) (step : Parse α) : Prop :=
  Leads text (fun outcome => ∃ error stop, outcome = .error error stop) step

theorem Passes.leads {first : Parse α} {result : α} {next : α → Parse β}
    {post : EStateM.Result ParseError Parser β → Prop} (passes : Passes text first result)
    (after : Leads text post (next result)) : Leads text post (first >>= next) := by
  intro parser faces
  obtain ⟨stop, same, there⟩ := passes parser faces
  simp only [Bind.bind, EStateM.bind, same]
  exact after stop there

theorem Passes.bind {first : Parse α} {result : α} {next : α → Parse β} {last : β}
    (passes : Passes text first result) (after : Passes text (next result) last) :
    Passes text (first >>= next) last :=
  passes.leads after

theorem Passes.refuses {first : Parse α} {result : α} {next : α → Parse β}
    (passes : Passes text first result) (after : Refuses text (next result)) :
    Refuses text (first >>= next) :=
  passes.leads after

theorem Refuses.bind {first : Parse α} {next : α → Parse β} (refuses : Refuses text first) :
    Refuses text (first >>= next) := by
  intro parser faces
  obtain ⟨error, stop, same⟩ := refuses parser faces
  exact ⟨error, stop, by simp only [Bind.bind, EStateM.bind, same]⟩

theorem passes_pure (result : α) : Passes text (pure result) result :=
  fun parser faces => ⟨parser, rfl, faces⟩

theorem faces_skipIgnored {parser : Parser} (faces : parser.Faces text) :
    (parser.moved parser.scanner.skipIgnored).Faces text := by
  obtain ⟨skips, ahead⟩ := faces
  refine ⟨(Scanner.skipIgnored_moves skips).skips.trans skips, ?_⟩
  exact (Scanner.ahead_of_remaining (Scanner.remaining_skipIgnored skips)).trans ahead

theorem meets_of_silent {word : String} (silent : Silent word text) {parser : Parser}
    (faces : parser.Faces text) : parser.scanner.meets word = false := by
  unfold Scanner.meets
  rw [faces.2, silent parser.scanner.caseSensitive, Bool.and_false]

theorem literal_passes {word : String} (silent : Silent word text) :
    Passes text (literal word) false := by
  intro parser faces
  refine ⟨_, ?_, faces_skipIgnored faces⟩
  simp only [literal, scan, Scanner.scanLiteral_eq faces.1, meets_of_silent silent faces]
  rfl

theorem keyword_passes {word : String} (silent : Silent word text) :
    Passes text (keyword word) false := by
  intro parser faces
  refine ⟨_, ?_, faces_skipIgnored faces⟩
  simp only [keyword, scan, Scanner.scanKeyword_eq faces.1, Scanner.meetsKeyword,
    meets_of_silent silent faces]
  rfl

theorem firstKeyword_passes {words : List (String × α)}
    (silent : ∀ word ∈ words.map Prod.fst, Silent word text) :
    Passes text (firstKeyword words) none := by
  induction words with
  | nil => exact passes_pure none
  | cons entry words ih =>
      exact (keyword_passes (silent entry.1 (by simp))).bind
        (ih fun word member => silent word (by simp [member]))

theorem opened?_passes (which : Parser → Nat) (term : Parse Predicate) (silent : Silent "(" text) :
    Passes text (opened? which term) none := by
  intro parser faces
  refine ⟨_, ?_, faces_skipIgnored faces⟩
  rw [Setting.opened?_eq _ _ faces.1, meets_of_silent silent faces]
  rfl

section

variable {rest : List Char}

theorem numericLiteral?_passes : Passes (':' :: rest) numericLiteral? none := by
  intro parser faces
  refine ⟨_, ?_, faces_skipIgnored faces⟩
  rw [numericLiteral?_eq]
  simp only [bind, EStateM.bind, scan, Scanner.scanNumeral_eq faces.1, faces.2]
  rfl

/-- The word begins with something else than a colon. -/
def Apart (word : String) : Prop :=
  word.toList.head?.any (fun character => Mark.of character ≠ .colon) = true

instance (word : String) : Decidable (Apart word) := inferInstanceAs (Decidable (_ = true))

theorem silent_of_apart {word : String} (apart : Apart word) : Silent word (':' :: rest) := by
  intro caseSensitive
  unfold Apart at apart
  cases letters : word.toList with
  | nil => simp [letters] at apart
  | cons expected letters' =>
      have other : Mark.of expected ≠ .colon := by simpa [letters] using apart
      have differs : Scanner.sameChar caseSensitive ':' expected = false := by
        refine Bool.eq_false_iff.mpr fun same => ?_
        have marks : Mark.colon = Mark.of expected := Mark.of_sameChar same
        exact other marks.symm
      simp [Scanner.startsWith, differs]

theorem literal_apart {word : String} (apart : Apart word) :
    Passes (':' :: rest) (literal word) false :=
  literal_passes (silent_of_apart apart)

theorem keyword_apart {word : String} (apart : Apart word) :
    Passes (':' :: rest) (keyword word) false :=
  keyword_passes (silent_of_apart apart)

theorem firstKeyword_apart {words : List (String × α)}
    (apart : ∀ word ∈ words.map Prod.fst, Apart word) :
    Passes (':' :: rest) (firstKeyword words) none :=
  firstKeyword_passes fun word member => silent_of_apart (apart word member)

theorem placeholder?_passes (which : Parser → Nat) :
    Passes (':' :: rest) (placeholder? which) none := by
  intro parser faces
  refine ⟨_, ?_, faces_skipIgnored faces⟩
  have none : Setting.scanPlaceholder parser.scanner = (none, parser.scanner.skipIgnored) := by
    unfold Setting.scanPlaceholder
    rw [Scanner.scanLiteral_eq faces.1, meets_of_silent (silent_of_apart (by decide)) faces]
    rfl
  rw [Setting.placeholder?_eq, none]

theorem quoted?_passes : Passes (':' :: rest) quoted? none := by
  have none : ∀ {mark : String}, Apart mark → ∀ kind,
      Passes (':' :: rest) (quotedBy mark kind) none :=
    fun apart _ => (literal_apart apart).bind (passes_pure none)
  exact (none (by decide) _).bind (none (by decide) _)

theorem identifier_refuses : Refuses (':' :: rest) identifier := by
  refine Refuses.bind fun parser faces => ?_
  have none : parser.scanner.ahead.takeWhile CharClass.identifier = [] := by
    rw [faces.2]
    rfl
  obtain ⟨cause, scanner, same, _⟩ := Setting.characters_none .missingIdentifier faces.1 none
  exact ⟨cause, _, same⟩

theorem simple_refuses (which : Parser → Nat) (nested : Parse Expression) :
    Refuses (':' :: rest) (simple which nested) := by
  unfold simple
  refine numericLiteral?_passes.refuses ?_
  refine (literal_apart (by decide)).refuses ?_
  refine (literal_apart (by decide)).refuses ?_
  refine (literal_apart (by decide)).refuses ?_
  refine (firstKeyword_apart (by decide)).refuses ?_
  refine (literal_apart (by decide)).refuses ?_
  refine (placeholder?_passes which).refuses ?_
  refine quoted?_passes.refuses ?_
  refine (literal_apart (by decide)).refuses ?_
  exact (literal_apart (by decide)).refuses identifier_refuses.bind

theorem joined_refuses (signs : List (String × Builtin)) {operand : Parse Expression}
    (refuses : Refuses text operand) : Refuses text (joined signs operand) :=
  refuses.bind

theorem binary_refuses (which : Parser → Nat) (nested : Parse Expression) :
    Refuses (':' :: rest) (binary which nested) :=
  Refuses.bind (joined_refuses _ (joined_refuses _ (joined_refuses _ (simple_refuses _ _).bind)))

theorem comparison_refuses (which : Parser → Nat) : Refuses (':' :: rest) (comparison which) := by
  have operand : Refuses (':' :: rest) (expressionWith which) :=
    fun parser faces => binary_refuses which _ parser faces
  exact (firstKeyword_apart (by decide)).refuses operand.bind

theorem termWith_refuses (which : Parser → Nat) (term : Parse Predicate) :
    Refuses (':' :: rest) (termWith which term) := by
  unfold termWith
  refine (opened?_passes which term (silent_of_apart (by decide))).refuses ?_
  refine (keyword_apart (by decide)).refuses ?_
  refine (keyword_apart (by decide)).refuses ?_
  refine (keyword_apart (by decide)).refuses ?_
  exact (keyword_apart (by decide)).refuses (comparison_refuses which)

theorem termOf_refuses (which : Parser → Nat) : Refuses (':' :: rest) (termOf which) :=
  fun parser faces => termWith_refuses which _ parser faces

end

section

variable {rest : List Char}

theorem keyword_found {word : String} (some : word.toList ≠ []) {parser : Parser}
    (faces : parser.Faces (word.toList ++ ' ' :: rest)) :
    ∃ stop, keyword word parser = .ok true stop ∧ stop.scanner.remaining = ' ' :: rest := by
  have meets : parser.scanner.meetsKeyword word = true := by
    unfold Scanner.meetsKeyword Scanner.meets
    rw [faces.2, Scanner.startsWith_self, List.drop_left]
    cases letters : word.toList with
    | nil => exact absurd letters some
    | cons character letters' => simp [CharClass.continuesKeyword, Char.isAlphanum]
  refine ⟨parser.moved (parser.scanner.skipIgnored.forward word.toList.length), ?_, ?_⟩
  · simp only [keyword, scan, Scanner.scanKeyword_eq faces.1, meets]
    rfl
  · show (parser.scanner.skipIgnored.forward word.toList.length).remaining = _
    simp only [Scanner.forward, Scanner.remaining_skipIgnored faces.1, faces.2, List.drop_left]

theorem expect_found {character : Char} {word construct : String} {parser : Parser}
    (single : word.toList = [character]) (faces : parser.Faces (character :: rest)) :
    expect word construct parser =
        .ok () (parser.moved (parser.scanner.skipIgnored.forward word.toList.length)) ∧
      (parser.scanner.skipIgnored.forward word.toList.length).remaining = rest := by
  have meets : parser.scanner.meets word = true := by
    unfold Scanner.meets
    rw [faces.2, single]
    simp [Scanner.startsWith, Scanner.sameChar]
  constructor
  · simp only [expect, literal, scan, bind, EStateM.bind, Scanner.scanLiteral_eq faces.1, meets]
    rfl
  · simp only [Scanner.forward, Scanner.remaining_skipIgnored faces.1, faces.2, single]
    rfl

theorem silent_before_space {word : String} {text : List Char}
    (solid : ∀ character ∈ word.toList, Mark.of character ≠ .space) (silent : Silent word text) :
    Silent word (text ++ ' ' :: rest) := by
  intro caseSensitive
  rw [Scanner.startsWith_append solid (by simp)]
  exact silent caseSensitive

theorem termWith_true (which : Parser → Nat) (term : Parse Predicate) :
    Leads ("TRUEPREDICATE".toList ++ ' ' :: rest)
      (fun outcome => ∃ stop, outcome = .ok (.value true) stop ∧
        stop.scanner.remaining = ' ' :: rest) (termWith which term) := by
  have silent : ∀ word ∈ ["(", "NOT", "!"],
      Silent word ("TRUEPREDICATE".toList ++ ' ' :: rest) := by
    have solid : ∀ word ∈ ["(", "NOT", "!"], ∀ character ∈ word.toList,
        Mark.of character ≠ .space := by
      decide
    have apart : ∀ word ∈ ["(", "NOT", "!"], Silent word "TRUEPREDICATE".toList := by
      decide
    exact fun word member => silent_before_space (solid word member) (apart word member)
  unfold termWith
  refine (opened?_passes which term (silent "(" (by decide))).leads ?_
  refine (keyword_passes (silent "NOT" (by decide))).leads ?_
  refine (keyword_passes (silent "!" (by decide))).leads ?_
  intro parser faces
  obtain ⟨stop, found, remaining⟩ := keyword_found (by decide) faces
  refine ⟨stop, ?_, remaining⟩
  simp only [Bool.false_eq_true, if_false, bind, EStateM.bind, found]
  rfl

theorem termOf_true (which : Parser → Nat) :
    Leads ("TRUEPREDICATE".toList ++ ' ' :: rest)
      (fun outcome => ∃ stop, outcome = .ok (.value true) stop ∧
        stop.scanner.remaining = ' ' :: rest) (termOf which) :=
  fun parser faces => termWith_true which _ parser faces

end

end Parse

end PredicateRules
