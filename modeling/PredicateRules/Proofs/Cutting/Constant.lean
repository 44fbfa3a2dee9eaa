import PredicateRules.Proofs.Cutting.Token

namespace PredicateRules

open PredicateRules.Parser PredicateRules.Scanner

namespace Parse

variable {room roomAgain : Nat}

/-- A string in quotation marks, if there is one and it ends. -/
def lookQuoted (mark : Char) (_ : Bool) (text : List Char) : Option (Option Expression × Nat) :=
  if text.head? = some mark then
    if mark ∈ text.tail then
      let body := text.tail.takeWhile fun character => character != mark
      some (some (.constant (.string (String.ofList body))), body.length + 2)
    else none
  else some (none, 0)

theorem lookQuoted_cons (mark : Char) (caseSensitive : Bool) (first : Char) (rest : List Char) :
    lookQuoted mark caseSensitive (first :: rest) =
      if first = mark then
        if mark ∈ rest then
          some (some (.constant (.string (String.ofList (rest.takeWhile fun character => character != mark)))),
            (rest.takeWhile fun character => character != mark).length + 2)
        else none
      else some (none, 0) := by
  by_cases same : first = mark
  · by_cases member : mark ∈ rest <;> simp [lookQuoted, same, member]
  · simp [lookQuoted, same]

theorem drop_quoted {mark : Char} {text : List Char} (member : mark ∈ text) :
    ∃ tail, text = (text.takeWhile fun character => character != mark) ++ mark :: tail := by
  obtain ⟨tail, closing⟩ := Setting.dropWhile_of_mem member
  have whole := List.takeWhile_append_dropWhile (p := fun character => character != mark) (l := text)
  rw [closing] at whole
  exact ⟨tail, whole.symm⟩

theorem drop_behind_mark {mark : Char} {text body rest : List Char} (tail : text.tail = body ++ [mark] ++ rest) :
    text.drop (body.length + 2) = rest := by
  have count : body.length + 2 = 1 + (body ++ [mark]).length := by
    rw [List.length_append, List.length_singleton]
    omega
  rw [count, ← List.drop_drop, List.drop_one, tail, List.drop_left]

section

variable {word : String} {mark : Char} (quote : Setting.Quote word mark) (solid : Solid word)

include quote solid

theorem quotedBy_ahead (kind : String) {parser : Parser} (skips : parser.scanner.skips = some CharClass.skipped) :
    quotedBy word kind parser =
      if parser.scanner.ahead.head? = some mark then
        match quotedBody word kind (parser.moved (parser.scanner.skipIgnored.forward 1)) with
        | .ok body after => .ok (some (.constant (.string body))) after
        | .error error after => .error error after
      else .ok none (parser.moved parser.scanner.skipIgnored) := by
  have single : word.toList.length = 1 := by
    rw [quote.word]
    rfl
  rw [Setting.quotedBy_eq kind skips, meets_eq solid, Setting.startsWith_quote quote, single]
  cases quotedBody word kind (parser.moved (parser.scanner.skipIgnored.forward 1)) <;> simp only [beq_iff_eq]

theorem looks_quoted (kind : String) : Looks (quotedBy word kind) (lookQuoted mark) := by
  have behind : ∀ {parser : Parser}, parser.scanner.skips = some CharClass.skipped →
      (parser.moved (parser.scanner.skipIgnored.forward 1)).scanner.remaining =
        parser.scanner.ahead.tail := by
    intro parser skips
    simp only [Parser.moved, Scanner.forward, remaining_skipIgnored skips, List.drop_one]
  constructor
  · intro parser result count skips found
    rw [quotedBy_ahead quote solid kind skips]
    unfold lookQuoted at found
    split at found
    next begins =>
      rw [if_pos begins]
      split at found
      next member =>
        obtain ⟨rfl, rfl⟩ := Prod.mk.inj (Option.some.inj found)
        obtain ⟨after, crossed, moves, outcome⟩ := Setting.quotedBody_eq quote kind
          (parser.moved (parser.scanner.skipIgnored.forward 1))
        rw [behind skips, if_pos member] at outcome
        obtain ⟨same, rfl⟩ := outcome
        rw [same]
        refine ⟨after, rfl, ⟨_, (forward_skipIgnored_moves skips 1).trans moves⟩, ?_⟩
        have whole := moves.remaining
        rw [behind skips] at whole
        rw [drop_behind_mark whole]
        rfl
      next => cases found
    next differs =>
      obtain ⟨rfl, rfl⟩ := Prod.mk.inj (Option.some.inj found)
      rw [if_neg differs]
      exact ⟨_, rfl, ⟨_, skipIgnored_moves skips⟩,
        (ahead_skipIgnored skips).trans (fronted_front _).symm⟩
  · intro parser skips missed
    rw [quotedBy_ahead quote solid kind skips]
    unfold lookQuoted at missed
    split at missed
    next begins =>
      rw [if_pos begins]
      split at missed
      next => cases missed
      next missing =>
        obtain ⟨after, crossed, moves, outcome⟩ := Setting.quotedBody_eq quote kind
          (parser.moved (parser.scanner.skipIgnored.forward 1))
        rw [behind skips, if_neg missing] at outcome
        obtain ⟨error, same⟩ := outcome
        rw [same]
        exact ⟨error, after, rfl, _, (forward_skipIgnored_moves skips 1).trans moves⟩
    next => cases missed

end

theorem lookQuoted_append {mark : Char} {caseSensitive : Bool} {text back : List Char} (some : text ≠ [])
    {result : Option Expression} {count : Nat}
    (found : lookQuoted mark caseSensitive (text ++ back) = Option.some (result, count))
    (within : count ≤ text.length) (other : List Char) :
    lookQuoted mark caseSensitive (text ++ other) = Option.some (result, count) := by
  cases text with
  | nil => exact absurd rfl some
  | cons first rest =>
      rw [List.cons_append, lookQuoted_cons] at found ⊢
      by_cases same : first = mark
      · rw [if_pos same] at found ⊢
        by_cases closes : mark ∈ rest ++ back
        · rw [if_pos closes] at found
          obtain ⟨rfl, rfl⟩ := Prod.mk.inj (Option.some.inj found)
          rw [List.length_cons] at within
          obtain ⟨body, _⟩ := takeWhile_within (by omega :
            ((rest ++ back).takeWhile fun character => character != mark).length ≤ rest.length)
          have member : mark ∈ rest := by
            -- Without the closing mark the body would be all of the text, which leaves no place for the mark.
            by_contra missing
            have all : rest.takeWhile (fun character => character != mark) = rest := by
              refine List.takeWhile_eq_self_iff.mpr fun character inside => ?_
              simp only [bne_iff_ne]
              rintro rfl
              exact missing inside
            rw [body, all] at within
            omega
          rw [if_pos (List.mem_append_left other member), body, Setting.takeWhile_append_of_mem member]
        · rw [if_neg closes] at found
          cases found
      · rw [if_neg same] at found ⊢
        exact found

theorem lookQuoted_cases {mark : Char} {caseSensitive : Bool} {text : List Char} {result : Option Expression}
    {count : Nat} (found : lookQuoted mark caseSensitive text = some (result, count)) :
    (∃ body tail, text = (mark :: body ++ [mark]) ++ tail ∧ count = (mark :: body ++ [mark]).length) ∨
      (result = none ∧ count = 0) := by
  cases text with
  | nil =>
      obtain ⟨rfl, rfl⟩ := Prod.mk.inj (Option.some.inj found)
      exact .inr ⟨rfl, rfl⟩
  | cons first rest =>
      rw [lookQuoted_cons] at found
      split at found
      next begins =>
        split at found
        next member =>
          obtain ⟨rfl, rfl⟩ := Prod.mk.inj (Option.some.inj found)
          obtain ⟨tail, whole⟩ := drop_quoted member
          refine .inl ⟨rest.takeWhile fun character => character != mark, tail, ?_, by simp⟩
          conv_lhs => rw [begins, whole]
          simp
        next => cases found
      next =>
        obtain ⟨rfl, rfl⟩ := Prod.mk.inj (Option.some.inj found)
        exact .inr ⟨rfl, rfl⟩

theorem steady_quoted {mark : Char} (ends : endsToken mark = true) : Steady (lookQuoted mark) where
  settled {caseSensitive text result count} found := by
    rcases lookQuoted_cases found with ⟨body, tail, rfl, rfl⟩ | ⟨_, rfl⟩
    · rw [List.take_left, List.drop_left]
      refine ⟨by simp, settled_of_endsToken fun last found => ?_⟩
      rw [List.getLast?_concat] at found
      exact Option.some.inj found ▸ ends
    · exact ⟨Nat.zero_le _, nofun, nofun⟩
  final {caseSensitive text back result count} _ found within := by
    by_cases none : text = []
    · subst none
      obtain rfl := Nat.le_zero.mp within
      unfold lookQuoted at found
      split at found
      · split at found <;> cases found
      · exact found
    · have again := lookQuoted_append none found within []
      rwa [List.append_nil] at again
  closing {caseSensitive text back other result count} closing found within := by
    have some : text ≠ [] := by
      rintro rfl
      cases closing
    exact lookQuoted_append some found (Nat.le_of_lt within) other

theorem Draws.quoted? : Draws room roomAgain Parse.quoted? Parse.quoted? Option.isSome := by
  have quotedBy : ∀ {word : String} {mark : Char} (kind : String), Setting.Quote word mark → Solid word →
      endsToken mark = true →
      Draws room roomAgain (quotedBy word kind) (quotedBy word kind) Option.isSome :=
    fun kind quote solid ends => .look (looks_quoted quote solid kind) (steady_quoted ends) fun found spent => by
      rcases lookQuoted_cases found with ⟨_, _, _, rfl⟩ | ⟨rfl, _⟩
      · exact Nat.succ_pos _
      · cases spent
  have double := quotedBy "double-quoted string" (⟨rfl, by decide⟩ : Setting.Quote "\"" '"')
    (by decide) (by decide)
  have single := quotedBy "single-quoted string" (⟨rfl, by decide⟩ : Setting.Quote "'" '\'')
    (by decide) (by decide)
  refine Draws.bind double fun found => ?_
  cases found with
  | some string => exact .pure rfl
  | none => exact single.weaken (by simp)

/-- The letters of a placeholder, if there is one. -/
def lookPlaceholder : List Char → Option (List Char)
  | '%' :: rest => placeholderLetters? rest
  | _ => none

theorem placeholderLetters?_none {text back : List Char}
    (missing : placeholderLetters? (text ++ back) = none) : placeholderLetters? text = none := by
  cases text with
  | nil => rfl
  | cons first text =>
      cases text with
      | cons second text =>
          by_cases key : first = 'K'
          · subst key
            cases missing
          · simpa only [List.cons_append, placeholderLetters?] using missing
      | nil =>
          by_cases key : first = 'K'
          · subst key
            cases missing
          · simp only [List.cons_append, List.nil_append, placeholderLetters?] at missing ⊢
            split at missing
            · cases missing
            next plain => rw [if_neg plain]

theorem placeholderLetters?_closing {text : List Char} (closing : text.getLast? = some ')')
    (back : List Char) : placeholderLetters? (text ++ back) = placeholderLetters? text := by
  cases text with
  | nil => cases closing
  | cons first text =>
      cases text with
      | cons second text =>
          by_cases key : first = 'K'
          · subst key
            rfl
          · simp only [List.cons_append, placeholderLetters?]
      | nil =>
          obtain rfl := Option.some.inj closing
          cases back <;> rfl

theorem lookPlaceholder_cut {text back other : List Char} (cut : Cut text back other)
    (fronted : Fronted text) (missing : lookPlaceholder (front (text ++ back)) = none) :
    lookPlaceholder (front (text ++ other)) = none := by
  cases text with
  | nil =>
      cases cut with
      | final none _ => rw [none]; rfl
      | closing last => cases last
  | cons first rest =>
      rw [fronted.append (List.cons_ne_nil _ _)] at missing ⊢
      by_cases percent : first = '%'
      · subst percent
        simp only [List.cons_append, lookPlaceholder] at missing ⊢
        cases cut with
        | final none _ =>
            rw [none, List.append_nil]
            exact placeholderLetters?_none missing
        | closing last =>
            have some : rest ≠ [] := by
              rintro rfl
              cases last
            have behind : rest.getLast? = Option.some ')' :=
              (getLast?_suffix ⟨['%'], rfl⟩ some).symm.trans last
            rw [placeholderLetters?_closing behind] at missing ⊢
            exact missing
      · unfold lookPlaceholder
        split
        next same => exact absurd (List.cons.inj same).1 percent
        next => rfl

theorem scanPlaceholder_facts {scanner : Scanner} (skips : scanner.skips = some CharClass.skipped) :
    (Setting.scanPlaceholder scanner).1 = lookPlaceholder scanner.ahead ∧
      (∃ crossed, scanner.Moves (Setting.scanPlaceholder scanner).2 crossed) ∧
      (Setting.scanPlaceholder scanner).2.ahead.length + (lookPlaceholder scanner.ahead).isSome.toNat ≤
        scanner.ahead.length ∧
      (lookPlaceholder scanner.ahead = none → (Setting.scanPlaceholder scanner).2.ahead = scanner.ahead) := by
  have solid : Solid "%" := by decide
  have symbol : "%".toList = ['%'] := rfl
  unfold Setting.scanPlaceholder
  rw [scanLiteral_eq skips, meets_eq solid, symbol, startsWith_one (by decide)]
  have still := ahead_skipIgnored skips
  cases ahead : scanner.ahead with
  | nil =>
      rw [ahead] at still
      exact ⟨rfl, ⟨_, skipIgnored_moves skips⟩, by simp [still, lookPlaceholder], fun _ => still⟩
  | cons first rest =>
      rw [ahead] at still
      by_cases percent : first = '%'
      · subst percent
        have opening := forward_skipIgnored_moves skips 1
        have remaining : (scanner.skipIgnored.forward 1).remaining = rest := by
          simp only [Scanner.forward, remaining_skipIgnored skips, ahead]
          rfl
        have found : lookPlaceholder ('%' :: rest) = placeholderLetters? rest := rfl
        rw [found]
        simp only [List.head?_cons, BEq.rfl, if_true, List.length_singleton, remaining]
        cases letters : placeholderLetters? rest with
        | none =>
            exact ⟨rfl, ⟨_, backTo_moves _ _ opening.skips opening.caseSensitive⟩,
              by simp [show ((scanner.skipIgnored.forward 1).backTo scanner).ahead = _ from ahead],
              fun _ => ahead⟩
        | some word =>
            have moves := forward_moves (scanner.skipIgnored.forward 1) word.length
            refine ⟨rfl, ⟨_, opening.trans moves⟩, ?_, fun none => absurd none (Option.some_ne_none _)⟩
            have shorter := moves.ahead_suffix.length_le
            have least := front_length (scanner.skipIgnored.forward 1).remaining
            rw [remaining] at least
            have same : (scanner.skipIgnored.forward 1).ahead.length = (front rest).length := by
              rw [Scanner.ahead, remaining]
            simp only [Option.isSome_some, Bool.toNat_true, List.length_cons]
            omega
      · have differs : ((first :: rest).head? == some '%') = false :=
          beq_eq_false_iff_ne.mpr fun same => percent (Option.some.inj same)
        have none : lookPlaceholder (first :: rest) = none := by
          unfold lookPlaceholder
          split
          next same => exact absurd (List.cons.inj same).1 percent
          next => rfl
        rw [differs, none]
        exact ⟨rfl, ⟨_, skipIgnored_moves skips⟩, by simp [still], fun _ => still⟩

section

variable (which : Parser → Nat) {start : Parser} (skips : start.scanner.skips = some CharClass.skipped)

include skips

theorem placeholder?_none (missing : lookPlaceholder start.scanner.ahead = none) :
    placeholder? which start = .ok none (start.moved (Setting.scanPlaceholder start.scanner).2) := by
  have same := (scanPlaceholder_facts skips).1.trans missing
  rw [Setting.placeholder?_eq]
  cases scanned : Setting.scanPlaceholder start.scanner with
  | mk letters after =>
      rw [scanned] at same
      obtain rfl : letters = none := same
      rfl

theorem placeholder?_some {word : List Char} (found : lookPlaceholder start.scanner.ahead = some word) :
    let after := start.moved (Setting.scanPlaceholder start.scanner).2
    let taken := { after with nextArgument := start.nextArgument + 1 }
    (∃ error, placeholder? which start = .error error after) ∨
      start.arguments ≠ [] ∧ ((∃ expression, placeholder? which start = .ok (some expression) taken) ∨
        ∃ error, placeholder? which start = .error error taken) := by
  have same := (scanPlaceholder_facts skips).1.trans found
  rw [Setting.placeholder?_eq]
  cases scanned : Setting.scanPlaceholder start.scanner with
  | mk letters after =>
      rw [scanned] at same
      obtain rfl : letters = some word := same
      dsimp only
      cases argument : start.arguments[which (start.moved after)]? with
      | none => exact .inl ⟨_, rfl⟩
      | some value =>
          refine .inr ⟨fun none => by simp [none] at argument, ?_⟩
          dsimp only
          cases argumentExpression? word value with
          | none => exact .inr ⟨_, rfl⟩
          | some expression => exact .inl ⟨expression, rfl⟩

theorem behaves_placeholder? : Behaves start Option.isSome (placeholder? which start) := by
  obtain ⟨_, ⟨crossed, moves⟩, shorter, still⟩ := scanPlaceholder_facts skips
  cases found : lookPlaceholder start.scanner.ahead with
  | none =>
      rw [found] at shorter
      rw [placeholder?_none which skips found]
      exact ⟨.moved moves, ⟨_, moves⟩, shorter, fun _ => .still (still found)⟩
  | some word =>
      rw [found] at shorter
      have spared : start.arguments ≠ [] → Parser.Spared start
          { start.moved (Setting.scanPlaceholder start.scanner).2 with nextArgument := start.nextArgument + 1 } :=
        fun some => ⟨⟨moves.skips, moves.caseSensitive, rfl, Nat.le_succ _⟩, fun none => absurd none some⟩
      rcases placeholder?_some which skips found with
        ⟨error, same⟩ | ⟨some, ⟨expression, same⟩ | ⟨error, same⟩⟩ <;> rw [same]
      · exact .moved moves
      · exact ⟨spared some, ⟨_, moves⟩, shorter, fun untaken => absurd untaken (Nat.succ_ne_self _)⟩
      · exact spared some

end

theorem Draws.placeholder? (which : Parser → Nat) :
    Draws room roomAgain (Parse.placeholder? which) (Parse.placeholder? which) Option.isSome where
  behaves start skips _ := behaves_placeholder? which skips
  draws {caseSensitive back other text rest start place result stop} _ _ shared same untaken cut fronted ahead := by
    cases found : lookPlaceholder start.scanner.ahead with
    | some word =>
        rcases placeholder?_some which shared.facing.skips found with
          ⟨error, outcome⟩ | ⟨_, ⟨expression, outcome⟩ | ⟨error, outcome⟩⟩ <;>
          rw [outcome] at same <;> cases same
        exact absurd untaken (Nat.succ_ne_self _)
    | none =>
        obtain ⟨_, ⟨crossed, moves⟩, _, still⟩ := scanPlaceholder_facts shared.facing.skips
        obtain ⟨_, ⟨crossedAgain, movesAgain⟩, _, stillAgain⟩ := scanPlaceholder_facts shared.again.skips
        rw [placeholder?_none which shared.facing.skips found] at same
        cases same
        obtain rfl : text = rest := shared.fronted.unique fronted
          (shared.ahead.symm.trans ((still found).symm.trans ahead))
        rw [shared.ahead] at found
        have again := lookPlaceholder_cut shared.cut shared.fronted found
        rw [← shared.aheadAgain] at again
        exact ⟨_, placeholder?_none which shared.again.skips again, shared.moved cut fronted moves
          movesAgain ahead ((stillAgain again).trans shared.aheadAgain)⟩
  fails {caseSensitive text start place error stop} _ _ shared same _ := by
    cases found : lookPlaceholder start.scanner.ahead with
    | none =>
        rw [placeholder?_none which shared.facing.skips found] at same
        cases same
    | some word =>
        rw [shared.ahead, ← shared.aheadAgain] at found
        rcases placeholder?_some which shared.again.skips found with ⟨error, failed⟩ | ⟨some, _⟩
        · exact ⟨error, _, failed⟩
        · exact absurd shared.arguments some

theorem callNamed_eq (name : String) (arguments : List Expression) (parser : Parser) :
    callNamed name arguments parser =
      match namedCall parser.scanner.caseSensitive name arguments with
      | .ok call => .ok call parser
      | .error error => .error (error parser.location) parser := by
  simp only [callNamed, bind, EStateM.bind, scanner]
  cases namedCall parser.scanner.caseSensitive name arguments <;> rfl

def lookCall (name : String) (arguments : List Expression) (caseSensitive : Bool) (_ : List Char) :
    Option (Expression × Nat) :=
  match namedCall caseSensitive name arguments with
  | .ok call => some (call, 0)
  | .error _ => none

theorem looks_call (name : String) (arguments : List Expression) :
    Looks (callNamed name arguments) (lookCall name arguments) where
  found {parser result count} _ found := by
    rw [callNamed_eq]
    unfold lookCall at found
    split at found
    next named =>
      obtain ⟨rfl, rfl⟩ := Prod.mk.inj (Option.some.inj found)
      exact ⟨parser.scanner, rfl, ⟨[], .refl _⟩, (fronted_front parser.scanner.remaining).symm⟩
    next => cases found
  missed {parser} _ missed := by
    rw [callNamed_eq]
    unfold lookCall at missed
    split at missed
    next => cases missed
    next named =>
      exact ⟨_, parser.scanner, rfl, [], .refl _⟩

theorem steady_call (name : String) (arguments : List Expression) : Steady (lookCall name arguments) where
  settled {caseSensitive text result count} found := by
    unfold lookCall at found
    split at found <;> cases found
    exact ⟨Nat.zero_le _, nofun, nofun⟩
  final _ found _ := found
  closing _ found _ := found

theorem Draws.callNamed (name : String) (arguments : List Expression) :
    Draws room roomAgain (Parse.callNamed name arguments) (Parse.callNamed name arguments) fun _ => false :=
  .look (looks_call name arguments) (steady_call name arguments) nofun

end Parse

end PredicateRules
