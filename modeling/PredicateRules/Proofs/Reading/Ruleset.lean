import PredicateRules.Proofs.PlacedRules
import PredicateRules.Proofs.Reading.Whole

namespace PredicateRules

open PredicateRules.Parser

namespace Parse

variable {text gap : List Char}
  (skipped : ∀ character ∈ gap, CharClass.skipped character = true)

include skipped

theorem trimSkipped_append_left : trimSkipped (gap ++ text) = trimSkipped text := by
  unfold trimSkipped
  rw [List.dropWhile_append_of_pos skipped]

theorem trimSkipped_append_right : trimSkipped (text ++ gap) = trimSkipped text := by
  have reversed : ∀ character ∈ gap.reverse, CharClass.skipped character = true :=
    fun character member => skipped character (List.mem_reverse.mp member)
  have none : (gap ++ []).dropWhile CharClass.skipped = [] :=
    List.dropWhile_append_of_pos skipped
  rw [List.append_nil] at none
  unfold trimSkipped
  rw [List.dropWhile_append, none]
  cases text.dropWhile CharClass.skipped with
  | nil => rfl
  | cons character rest =>
      rw [List.isEmpty_cons, if_neg Bool.false_ne_true, List.reverse_append,
        List.dropWhile_append_of_pos reversed]

end Parse

namespace Scanner

variable {start stop : Scanner}

theorem not_further_back (shorter : stop.ahead.length < start.ahead.length) {crossed : List Char}
    (further : stop.remaining = crossed ++ start.remaining) : False := by
  have length := (List.dropWhile_sublist CharClass.skipped (l := start.remaining)).length_le
  have ahead : stop.ahead = _ := congrArg (List.dropWhile CharClass.skipped) further
  rw [List.dropWhile_append] at ahead
  split at ahead
  next =>
    have same := congrArg List.length ahead
    exact absurd same (Nat.ne_of_lt shorter)
  next =>
    have whole := congrArg List.length ahead
    rw [List.length_append] at whole
    unfold Scanner.ahead at *
    omega

variable (same : stop.text = start.text)

include same

theorem trimmed_slice (shorter : stop.ahead.length < start.ahead.length) :
    Parse.trimSkipped (stop.slice start.location stop.location) =
      Parse.trimSkipped (start.ahead.take (start.ahead.length - stop.ahead.length)) := by
  have skipped : ∀ scanner : Scanner, ∀ character ∈ scanner.gap,
      CharClass.skipped character = true :=
    fun scanner => List.all_eq_true.mp List.all_takeWhile
  have texts : stop.passed.reverse ++ stop.remaining = start.passed.reverse ++ start.remaining := same
  rcases List.append_eq_append_iff.mp texts with ⟨crossed, _, further⟩ | ⟨crossed, passed, remaining⟩
  · exact (not_further_back shorter further).elim
  rw [slice_eq same, passed, ← List.length_reverse, List.drop_left]
  have split : start.gap ++ start.ahead.take (start.ahead.length - stop.ahead.length) ++
      start.ahead.drop (start.ahead.length - stop.ahead.length) =
        crossed ++ stop.gap ++ stop.ahead := by
    rw [List.append_assoc, List.take_append_drop, gap_append_ahead, remaining, List.append_assoc,
      gap_append_ahead]
  have parts := List.append_inj' split (by rw [List.length_drop]; omega)
  rw [← Parse.trimSkipped_append_right (skipped stop), ← parts.1,
    Parse.trimSkipped_append_left (skipped start)]

end Scanner

namespace Parse

theorem ok_of_toOption {ε α : Type} {result : Except ε α} {value : α}
    (found : result.toOption = some value) : result = .ok value := by
  cases result with
  | ok other => exact congrArg Except.ok (Option.some.inj found)
  | error cause => cases found

theorem error_of_toOption {ε α : Type} {result : Except ε α} (none : result.toOption = none) :
    ∃ cause, result = .error cause := by
  cases result with
  | ok other => cases none
  | error cause => exact ⟨cause, rfl⟩

def Body.map (image : List PlacedRule → List PlacedRule) (body : Body) : Body :=
  { body with nested := body.nested.map image }

theorem joinedPaths_some (parents : List (List String)) {own : List String} (some : own ≠ []) :
    joinedPaths parents own ≠ [] := by
  obtain ⟨child, others, rfl⟩ := List.exists_cons_of_ne_nil some
  cases parents with
  | nil => exact List.cons_ne_nil _ _
  | cons parent parents => simp [joinedPaths]

end Parse

/-- Where rulesets stand in a longer text. -/
structure Relocation (caseSensitive : Bool) where
  paths : List (List String) → List (List String)
  rule : PlacedRule → PlacedRule
  joined : ∀ parents own, own ≠ [] →
    Parse.joinedPaths (paths parents) own = paths (Parse.joinedPaths parents own)
  made : ∀ declarations joined, joined ≠ [] → (∀ path ∈ joined, path ≠ []) →
    (Parse.rulesForEach caseSensitive declarations (paths joined)).toOption =
      (Parse.rulesForEach caseSensitive declarations joined).toOption.map (List.map rule)

namespace Setting

variable {setting : Setting} {room depth : Nat}

theorem Related.crossed {start stop longer longerStop : Parser}
    (before : setting.Related start longer) (after : setting.Related stop longerStop)
    (shorter : stop.scanner.ahead.length < start.scanner.ahead.length) :
    longerStop.scanner.ahead.length < longer.scanner.ahead.length ∧
      Parse.trimSkipped (longer.scanner.ahead.take
          (longer.scanner.ahead.length - longerStop.scanner.ahead.length)) =
        Parse.trimSkipped (start.scanner.ahead.take
          (start.scanner.ahead.length - stop.scanner.ahead.length)) := by
  have more : start.scanner.ahead ≠ [] := by
    intro none
    simp [none] at shorter
  have behind := (before.ahead_cases.resolve_left fun ends => more ends.1).2
  rw [behind, List.length_append]
  rcases after.ahead_cases with ⟨none, rest⟩ | ⟨_, rest⟩
  · have skipped : ∀ character ∈ setting.back.takeWhile CharClass.skipped,
        CharClass.skipped character = true :=
      List.all_eq_true.mp List.all_takeWhile
    have whole : setting.back.takeWhile CharClass.skipped ++ setting.rest = setting.back :=
      List.takeWhile_append_dropWhile
    have length := congrArg List.length whole
    rw [List.length_append] at length
    have through : start.scanner.ahead.length + setting.back.length - setting.rest.length =
        (start.scanner.ahead ++ setting.back.takeWhile CharClass.skipped).length := by
      rw [List.length_append]
      omega
    have positive := List.length_pos_iff.mpr more
    rw [none, rest, through, List.length_nil, Nat.sub_zero, List.take_length]
    refine ⟨by omega, ?_⟩
    have cut : start.scanner.ahead ++ setting.back =
        start.scanner.ahead ++ setting.back.takeWhile CharClass.skipped ++ setting.rest := by
      rw [List.append_assoc, whole]
    rw [cut, List.take_left, Parse.trimSkipped_append_right skipped]
  · rw [rest, List.length_append, Nat.add_sub_add_right,
      List.take_append_of_le_length (Nat.sub_le _ _)]
    exact ⟨by omega, rfl⟩

theorem specifier_eq (parser : Parser) :
    Parse.specifier parser =
      match Parse.predicate parser with
      | .ok _ stop => .ok (String.ofList (Parse.trimSkipped
          (stop.scanner.slice parser.scanner.location stop.scanner.location))) stop
      | .error error stop => .error error stop := by
  simp only [Parse.specifier, bind, EStateM.bind, Parse.scanner]
  cases Parse.predicate parser <;> rfl

theorem tried_eq {α : Type} (step : Parse α) (parser : Parser) :
    Parse.tried step parser =
      match step parser with
      | .ok result stop => .ok (some result) stop
      | .error _ stop => .ok none (stop.back parser) := by
  simp only [Parse.tried, bind, EStateM.bind, Parse.scanner, Parse.attempt]
  cases step parser <;> rfl

/-- The places that the longer reading goes back to and goes on from. -/
def TriedFrom {α : Type} (room depth : Nat) (post : α → Parser → Prop) : Option α → Parser → Prop
  | some result, parser => post result parser
  | none, parser => parser.At room depth

namespace FollowsAs

variable {α β : Type} {image : α → β} {base : Nat} {post : α → Parser → Prop} {step : Parse α}
  {longer : Parse β}

theorem yields {pre : Parser → Prop} {property : α → Prop}
    (follows : setting.FollowsAs image base pre step longer post)
    (yields : Parse.Yields step property) :
    setting.FollowsAs image base pre step longer fun result parser =>
      property result ∧ post result parser where
  reads start place := by
    have reads := follows.reads start place
    have yields := yields start
    cases outcome : step start with
    | ok result stop =>
        rw [outcome] at reads
        exact ⟨reads.1, yields result stop outcome, reads.2⟩
    | error error stop =>
        rw [outcome] at reads
        exact reads
  limits := follows.limits
  mirrors := follows.mirrors

/-- What fails in the one text and not in the other would not lead to the same place again. -/
theorem tried (follows : setting.FollowsAs image base (At room depth) step longer post)
    (followed : setting.exact ∨ 0 < base) :
    setting.FollowsAs (Option.map image) base (At room depth) (Parse.tried step)
      (Parse.tried longer) (TriedFrom room depth post) where
  reads start place := by
    have reads := follows.reads start place
    rw [tried_eq]
    cases outcome : step start with
    | ok result stop =>
        rw [outcome] at reads
        exact reads
    | error error stop =>
        rw [outcome] at reads
        exact ⟨Kept.advance_back reads, place.back reads⟩
  limits start place := by
    have limits := follows.limits start place
    rw [tried_eq]
    cases outcome : step start with
    | ok result stop =>
        rw [outcome] at limits
        exact limits
    | error error stop =>
        rw [outcome] at limits
        exact limits
  mirrors start place holds related := by
    have reads := follows.reads start holds
    have mirrors := follows.mirrors start place holds related
    rw [tried_eq, tried_eq]
    cases outcome : step start with
    | ok result stop =>
        rw [outcome] at mirrors
        intro counted
        obtain ⟨longerStop, same, relatedStop⟩ := mirrors counted
        exact ⟨longerStop, by rw [same]; rfl, relatedStop⟩
    | error error stop =>
        rw [outcome] at reads mirrors
        intro counted
        have taken : stop.nextArgument ≤ start.nextArgument := related.counted ▸ counted
        obtain ⟨cause, longerStop, same, spent⟩ := mirrors taken followed
        exact ⟨longerStop.back place, by rw [same]; rfl, related.back reads spent taken⟩

theorem given {pre : Parser → Prop} {fact : Prop}
    (follows : fact → setting.FollowsAs image base pre step longer post) :
    setting.FollowsAs image base (fun parser => fact ∧ pre parser) step longer post where
  reads start place := (follows place.1).reads start place.2
  limits start place := (follows place.1).limits start place.2
  mirrors start longer place := (follows place.1).mirrors start longer place.2

theorem throw {pre : Parser → Prop} (error cause : ParseError) :
    setting.FollowsAs image base pre (MonadExcept.throw error) (MonadExcept.throw cause) post where
  reads start _ := .refl start
  limits _ _ _ := Nat.le_max_left _ _
  mirrors _ longer _ _ _ _ := ⟨cause, longer, rfl, rfl, rfl, rfl, rfl⟩

end FollowsAs

section

variable (inOrder : setting.which = Parser.nextArgument)
  (same : setting.other = Parser.nextArgument)

include inOrder same

theorem declaration : setting.Follows 0 (At (room + 1) depth) Parse.declaration Parse.declaration
    fun _ => At room depth := by
  have value : setting.Tracks (room + 1) Parse.expression Parse.expression := by
    have follows : setting.Consumes room (Parse.expressionWith setting.which)
        (Parse.expressionWith setting.other) := expressionWith room
    rw [inOrder, same] at follows
    exact follows.tracks
  refine Follows.bind (characters _ (by decide) (by decide) ?_ (Nat.zero_le depth)) fun key => ?_
  · exact fun exact_ character found => (setting.unnamed exact_ character found).2
  refine Follows.bind (expect (.of_even (by decide) depth) (quiet (by decide) depth) _) fun _ => ?_
  refine Follows.bind (value room (Nat.le_succ room) 0 depth (Nat.zero_le depth)) fun value => ?_
  exact Follows.pure fun _ place => place

variable (exact_ : setting.exact)

include exact_

theorem specifier : setting.Follows 0 (At (room + 1) depth) Parse.specifier Parse.specifier
    fun _ => At room depth := by
  have predicate : ∀ room, setting.Follows 0 (At (room + 1) depth) Parse.predicate Parse.predicate
      fun _ => At room depth := by
    intro room
    have follows : setting.Follows 0 (At (room + 1) depth) (Parse.predicateWith setting.which)
        (Parse.predicateWith setting.other) fun _ => At room depth :=
      predicateWith (.inr exact_) (Nat.zero_le depth)
    rwa [inOrder, same] at follows
  constructor
  · intro start place
    have reads := (predicate room).reads start place
    rw [specifier_eq]
    cases outcome : Parse.predicate start with
    | ok found stop =>
        rw [outcome] at reads
        exact reads
    | error error stop =>
        rw [outcome] at reads
        exact reads
  · intro start place
    have limits := (predicate room).limits start place
    rw [specifier_eq]
    cases outcome : Parse.predicate start with
    | ok found stop =>
        rw [outcome] at limits
        exact limits
    | error error stop =>
        rw [outcome] at limits
        exact limits
  · intro start longer place related
    have reads := (predicate _).reads start place.tight
    have mirrors := (predicate _).mirrors start longer place.tight related
    rw [specifier_eq, specifier_eq]
    cases outcome : Parse.predicate start with
    | ok found stop =>
        rw [outcome] at reads mirrors
        intro counted
        obtain ⟨longerStop, sameOutcome, relatedStop⟩ := mirrors counted
        have shorter := reads.2.room
        have text := reads.1.text
        have textLonger : longerStop.scanner.text = longer.scanner.text := by
          rw [relatedStop.text, related.text, text]
        obtain ⟨shorterLonger, crossed⟩ := related.crossed relatedStop shorter
        -- The slices start at other offsets and differ at most in what is trimmed.
        refine ⟨longerStop, ?_, relatedStop⟩
        rw [sameOutcome, Scanner.trimmed_slice text shorter, ← crossed,
          ← Scanner.trimmed_slice textLonger shorterLonger]
        rfl
    | error error stop =>
        rw [outcome] at mirrors
        intro taken followed
        obtain ⟨cause, longerStop, sameOutcome, spent⟩ := mirrors taken followed
        exact ⟨cause, longerStop, by rw [sameOutcome], spent⟩

theorem specifiers : setting.Follows 0 (At (room + 1) depth) Parse.specifiers Parse.specifiers
    fun own parser => own ≠ [] ∧ parser.At room depth := by
  have some : Parse.Yields Parse.specifiers fun own => own ≠ [] := by
    refine Parse.Yields.recurse (fun _ => True) (fun again yields texts _ => ?_) trivial
    refine Parse.Yields.bind (Parse.Yields.anything _) fun text _ => ?_
    refine Parse.Yields.bind (Parse.Yields.anything _) fun found _ => ?_
    cases found with
    | true => exact yields (text :: texts) trivial
    | false => exact Parse.Yields.pure (by simp)
  refine FollowsAs.yields ?_ some
  refine FollowsAs.recurse (ι := List String) (room + 1) 1 (fun _ => 0) (fun _ => depth)
    (fun _ => depth) id id ?_ [] (Nat.le_refl _)
  intro rest below again againLonger follows texts
  refine Follows.bind (specifier inOrder same exact_) fun text => ?_
  refine Follows.branch (literalWithin (.of_even (by decide) depth) (quiet (by decide) depth)) ?_ ?_
  · exact (follows (text :: texts) rest (Nat.le_refl rest)).weaken (fun _ => id)
      fun _ _ place => place.weaken (Nat.sub_le rest 1)
  · exact Follows.pure fun _ place => place

theorem bodyFrom {image : List PlacedRule → List PlacedRule}
    {rulesets rulesetsLonger : Parse (List PlacedRule)}
    (nested : ∀ less ≤ room, setting.FollowsAs image 0 (At less (depth + 1)) rulesets
      rulesetsLonger fun _ => At (less - 1) (depth + 1)) (body : Parse.Body) :
    setting.FollowsAs (Parse.Body.map image) 0 (At room (depth + 1))
      (Parse.bodyFrom rulesets body) (Parse.bodyFrom rulesetsLonger (body.map image))
      fun _ => At room (depth + 1) := by
  refine FollowsAs.recurse (ι := Parse.Body) room 0 (fun _ => 0) (fun _ => depth + 1)
    (fun _ => depth + 1) id (Parse.Body.map image) ?_ body (Nat.le_refl room)
  intro rest below again againLonger follows body
  have goes : ∀ body, setting.FollowsAs (Parse.Body.map image) 0 (At rest (depth + 1))
      (again body) (againLonger (body.map image)) fun _ => At (rest + 1) (depth + 1) :=
    fun body => (follows body rest (Nat.le_refl rest)).weaken (fun _ => id)
      fun _ _ place => place.weaken (Nat.le_succ rest)
  refine FollowsAs.bind ((declaration inOrder same).tried (.inl exact_)) fun declaration => ?_
  cases declaration with
  | some declaration =>
      have semicolon : Word ";" (depth + 1) (depth + 1) := .of_even (by decide) (depth + 1)
      refine Follows.branch (literalWithin semicolon (.inl (Nat.succ_pos depth))) (goes _) ?_
      exact FollowsAs.pure fun _ place => place.weaken (Nat.le_succ rest)
  | none =>
      refine FollowsAs.bind ((nested (rest + 1) below).tried (.inl exact_)) fun rules => ?_
      cases rules with
      | some rules => exact goes { body with nested := rules :: body.nested }
      | none => exact FollowsAs.pure fun _ place => place

theorem rulesetWith {caseSensitive : Bool} (relocation : Relocation caseSensitive)
    {again againLonger : List (List String) → Parse (List PlacedRule)}
    (nested : ∀ parents, ∀ less ≤ room, setting.FollowsAs (List.map relocation.rule) 0
      (At less (depth + 1)) (again parents) (againLonger (relocation.paths parents))
      fun _ => At (less - 1) (depth + 1)) (parents : List (List String)) :
    setting.FollowsAs (List.map relocation.rule) 0 (At (room + 1) depth)
      (Parse.rulesetWith caseSensitive again parents)
      (Parse.rulesetWith caseSensitive againLonger (relocation.paths parents))
      fun _ => At room depth := by
  refine FollowsAs.bind ((specifiers inOrder same exact_).tried (.inl exact_)) fun own => ?_
  cases own with
  | none => exact FollowsAs.fail
  | some own =>
      refine FollowsAs.given fun some => ?_
      simp only [Option.map_some, id, relocation.joined parents own some]
      have opening : Word "\x7b" depth (depth + 1) := .opening rfl (by decide) depth
      refine Follows.bind (expect opening (quiet (by decide) depth) _) fun _ => ?_
      refine FollowsAs.bind (bodyFrom inOrder same exact_ (nested _) ⟨[], []⟩) fun body => ?_
      refine Follows.bind (closing rfl (by decide) _) fun _ => ?_
      have made := relocation.made body.declarations.reverse _
        (Parse.joinedPaths_some parents some) (Parse.joinedPaths_nonempty parents own)
      simp only [Parse.Body.map]
      cases rules : Parse.rulesForEach caseSensitive body.declarations.reverse
          (Parse.joinedPaths parents own) with
      | ok rules' =>
          rw [rules] at made
          have flat : rules'.map relocation.rule ++
              (body.nested.map (List.map relocation.rule)).reverse.flatten =
                (rules' ++ body.nested.reverse.flatten).map relocation.rule := by
            simp [List.map_flatten]
          simp only [Parse.ok_of_toOption made, flat]
          exact FollowsAs.pure fun _ place => place
      | error error =>
          rw [rules] at made
          obtain ⟨cause, made⟩ := Parse.error_of_toOption made
          simp only [made]
          exact FollowsAs.throw error cause

theorem ruleset {caseSensitive : Bool} (relocation : Relocation caseSensitive) {fuel : Nat}
    (enough : room ≤ fuel) (parents : List (List String)) :
    setting.FollowsAs (List.map relocation.rule) 0 (At room depth)
      (Parse.ruleset caseSensitive parents)
      (Parse.recurseTo (Parse.rulesetWith caseSensitive) fuel (relocation.paths parents))
      fun _ => At (room - 1) depth := by
  refine FollowsAs.recurseWithin (ι := List (List String) × Nat) room 1 (fun _ => 0) Prod.snd
    Prod.snd Prod.fst (fun place => relocation.paths place.1) ?_ (parents, depth) (Nat.le_refl room)
    enough
  intro rest below again againLonger follows place
  refine rulesetWith inOrder same exact_ relocation (fun parents less least => ?_) place.1
  exact follows (parents, place.2 + 1) less least

end

end Setting

end PredicateRules
