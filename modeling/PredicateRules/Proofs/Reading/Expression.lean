import PredicateRules.Proofs.Reading.Constant

namespace PredicateRules

open PredicateRules.Parser

namespace Setting

variable {setting : Setting} {room : Nat} {nested nestedLonger : Parse Expression}

theorem quiet {word : String} (listed : word ∈ operandWords) (depth : Nat) :
    0 < depth ∨ Silent word setting.rest :=
  .inr (setting.silent word listed)

theorem symbol {word : String} (even : Even word) (listed : word ∈ operandWords)
    {less base depth : Nat} :
    setting.Follows base (At (less + 1) depth) (Parse.literal word) (Parse.literal word)
      fun found => At (if found then less else less + 1) (if found then depth else depth) :=
  literal (.of_even even depth) (quiet listed depth)

theorem opening {word : String} {character : Char} (single : word.toList = [character])
    (mark : Mark.of character = .opening) (listed : word ∈ operandWords) {less base depth : Nat} :
    setting.Follows base (At (less + 1) depth) (Parse.literal word) (Parse.literal word)
      fun found => At (if found then less else less + 1) (if found then depth + 1 else depth) :=
  literal (.opening single mark depth) (quiet listed depth)

theorem closing {word : String} {character : Char} (single : word.toList = [character])
    (mark : Mark.of character = .closing) {less base depth : Nat} (construct : String) :
    setting.Follows base (At less (depth + 1)) (Parse.expect word construct)
      (Parse.expect word construct) fun _ => At less depth :=
  expect (.closing single mark depth) (.inl (Nat.succ_pos depth)) construct

theorem expressionList (tracks : setting.Tracks room nested nestedLonger) {close : String}
    {character : Char} (single : close.toList = [character])
    (mark : Mark.of character = .closing) (construct : String) {less base depth : Nat}
    (bound : less ≤ room) (inside : base ≤ depth) :
    setting.Follows base (At less (depth + 1)) (Parse.expressionList nested close construct)
      (Parse.expressionList nestedLonger close construct) fun _ => At less depth := by
  unfold Parse.expressionList
  refine Follows.branch (literalWithin (.closing single mark depth) (.inl (Nat.succ_pos depth)))
    (Follows.pure fun _ place => place) ?_
  refine FollowsAs.recurse (ι := List Expression) room 0 (fun _ => base) (fun _ => depth + 1)
    (fun _ => depth) id id ?_ [] bound
  intro rest below again againLonger follows items
  refine Follows.bind (tracks (rest + 1) below base (depth + 1) (by omega)) fun item => ?_
  refine Follows.branch (symbol (by decide) (by decide)) ?_ ?_
  · exact (follows (item :: items) rest (Nat.le_refl _)).weaken (fun _ => id)
      fun _ _ place => place.weaken (Nat.le_succ rest)
  · exact Follows.bind (closing single mark construct) fun _ => Follows.pure fun _ place => place

theorem constantWords_listed : ∀ word ∈ Parse.constantWords.map Prod.fst,
    Even word ∧ word ∈ operandWords := by
  decide

theorem simple (tracks : setting.Tracks room nested nestedLonger) :
    setting.Consumes room (Parse.simple setting.which nested)
      (Parse.simple setting.other nestedLonger) := by
  intro less bound base depth inside
  unfold Parse.simple
  refine Follows.bind (numericLiteral? less (Nat.le_refl _) base depth inside) fun number => ?_
  cases number with
  | some number => exact Follows.pure fun _ place => place
  | none => ?_
  refine Follows.branch (symbol (by decide) (by decide)) ?_ ?_
  · exact Follows.bind (tracks less bound base depth inside) fun _ =>
      Follows.pure fun _ place => place
  refine Follows.branch (opening rfl (by decide) (by decide)) ?_ ?_
  · refine Follows.bind (tracks less bound base (depth + 1) (by omega)) fun inner => ?_
    exact Follows.bind (closing rfl (by decide) _) fun _ => Follows.pure fun _ place => place
  refine Follows.branch (opening rfl (by decide) (by decide)) ?_ ?_
  · exact Follows.bind (expressionList tracks rfl (by decide) _ bound inside) fun _ =>
      Follows.pure fun _ place => place
  refine Follows.bind (firstKeyword (fun word member => (constantWords_listed word member).1)
    (fun word member => quiet (constantWords_listed word member).2 depth)) fun constant => ?_
  cases constant with
  | some constant => exact Follows.pure fun _ place => place
  | none => ?_
  refine Follows.branch (symbol (by decide) (by decide)) ?_ ?_
  · exact Follows.bind (FollowsAs.within (fun _ => identifier inside) less) fun _ =>
      Follows.pure fun _ place => place
  refine Follows.bind (placeholder? less (Nat.le_refl _) base depth inside) fun argument => ?_
  cases argument with
  | some argument => exact Follows.pure fun _ place => place
  | none => ?_
  refine Follows.bind (quoted? less (Nat.le_refl _) base depth inside) fun string => ?_
  cases string with
  | some string => exact Follows.pure fun _ place => place
  | none => ?_
  refine Follows.branch (symbol (by decide) (by decide)) ?_ ?_
  · exact Follows.bind (FollowsAs.within (fun _ => identifier inside) less) fun _ =>
      Follows.pure fun _ place => place
  refine Follows.bind (symbol (by decide) (by decide)) fun hash => ?_
  have name : setting.Follows base (At (if hash then less else less + 1)
      (if hash then depth else depth)) Parse.identifier Parse.identifier fun _ => At less depth := by
    cases hash with
    | true => exact FollowsAs.within (fun _ => identifier inside) less
    | false => exact identifier inside
  exact Follows.bind name fun _ => Follows.pure fun _ place => place

theorem selectorParts (room : Nat) (selector : String) :
    setting.Tracks (room + 1) (Parse.selectorParts selector) (Parse.selectorParts selector) := by
  refine Finds.repeatWhile room (fun current less _ base depth inside => ?_) selector
  refine Follows.bind (selectorPart? less (Nat.le_refl _) base depth inside) fun part => ?_
  exact Follows.pure fun _ place => by simpa using place

theorem callNamed (name : String) (arguments : List Expression) {base : Nat} {pre : Parser → Prop} :
    setting.Follows base pre (Parse.callNamed name arguments) (Parse.callNamed name arguments)
      fun _ => pre where
  reads start place := by
    simp only [Parse.callNamed, bind, EStateM.bind, Parse.scanner]
    cases Parse.namedCall start.scanner.caseSensitive name arguments with
    | ok call => exact ⟨.refl start, place⟩
    | error error => exact .refl start
  limits start place := by
    simp only [Parse.callNamed, bind, EStateM.bind, Parse.scanner]
    cases Parse.namedCall start.scanner.caseSensitive name arguments with
    | ok call => exact fun _ => Nat.le_max_left _ _
    | error error => exact fun _ => Nat.le_max_left _ _
  mirrors start longer place related := by
    simp only [Parse.callNamed, bind, EStateM.bind, Parse.scanner, related.caseSensitive]
    cases Parse.namedCall start.scanner.caseSensitive name arguments with
    | ok call => exact fun _ => ⟨longer, rfl, related⟩
    | error error => exact fun _ _ => ⟨_, longer, rfl, rfl, rfl, rfl, rfl⟩

theorem position (tracks : setting.Tracks room nested nestedLonger) (target : Expression)
    {less base depth : Nat} (bound : less ≤ room) (inside : base ≤ depth) :
    setting.Follows base (At less depth) (Parse.position nested target)
      (Parse.position nestedLonger target) fun _ => At less depth := by
  unfold Parse.position
  refine Follows.branch (keywordWithin (.of_even (by decide) depth) (quiet (by decide) depth))
    (Follows.pure fun _ place => place) ?_
  refine Follows.branch (keywordWithin (.of_even (by decide) depth) (quiet (by decide) depth))
    (Follows.pure fun _ place => place) ?_
  refine Follows.branch (keywordWithin (.of_even (by decide) depth) (quiet (by decide) depth))
    (Follows.pure fun _ place => place) ?_
  exact Follows.bind (tracks less bound base depth inside) fun _ => Follows.pure fun _ place => place

theorem subscript (tracks : setting.Tracks room nested nestedLonger) (target : Expression)
    {less base depth : Nat} (bound : less ≤ room) (inside : base ≤ depth) :
    setting.Follows base (At less (depth + 1)) (Parse.subscript nested target)
      (Parse.subscript nestedLonger target) fun _ => At less depth := by
  refine Follows.bind (position tracks target bound (by omega)) fun element => ?_
  exact Follows.bind (closing rfl (by decide) _) fun _ => Follows.pure fun _ place => place

theorem furtherKey (tracks : setting.Tracks room nested nestedLonger) (path : Option String)
    {less base depth : Nat} (bound : less ≤ room) (inside : base ≤ depth) :
    setting.Follows base (At less depth) (Parse.furtherKey setting.which nested path)
      (Parse.furtherKey setting.other nestedLonger path) fun _ => At less depth := by
  cases path with
  | none => exact FollowsAs.fail
  | some path =>
      refine Follows.bind ((simple tracks).tracks less (by omega) base depth inside) fun rest => ?_
      cases rest with
      | keyPath rest => exact Follows.pure fun _ place => place
      | _ => exact FollowsAs.fail

theorem arguments (tracks : setting.Tracks room nested nestedLonger) (path : Option String)
    {less base depth : Nat} (bound : less ≤ room) (inside : base ≤ depth) :
    setting.Follows base (At less (depth + 1)) (Parse.arguments nested path)
      (Parse.arguments nestedLonger path) fun _ => At less depth := by
  cases path with
  | none => exact FollowsAs.fail
  | some name =>
      exact Follows.bind (expressionList tracks rfl (by decide) _ bound inside) fun list =>
        callNamed name list

theorem suffix? (tracks : setting.Tracks room nested nestedLonger) (left : Expression) :
    setting.Finds room (Parse.suffix? setting.which nested left)
      (Parse.suffix? setting.other nestedLonger left) := by
  intro less bound base depth inside
  unfold Parse.suffix?
  refine Follows.branch (opening rfl (by decide) (by decide)) ?_ ?_
  · exact Follows.bind (arguments tracks _ bound inside) fun _ => Follows.pure fun _ place => place
  refine Follows.branch (opening rfl (by decide) (by decide)) ?_ ?_
  · exact Follows.bind (subscript tracks _ bound inside) fun _ => Follows.pure fun _ place => place
  refine Follows.branch (symbol (by decide) (by decide)) ?_ (Follows.pure fun _ place => place)
  exact Follows.bind (furtherKey tracks _ bound inside) fun _ => Follows.pure fun _ place => place

theorem functionalStep (tracks : setting.Tracks room nested nestedLonger) (left : Expression) :
    setting.Finds room (Parse.functionalStep setting.which nested left)
      (Parse.functionalStep setting.other nestedLonger left) := by
  intro less bound base depth inside
  unfold Parse.functionalStep
  cases left.keyPathText? with
  | none => exact suffix? tracks left less bound base depth inside
  | some path =>
      refine Follows.branch selectorColon ?_ (suffix? tracks left less bound base depth inside)
      refine Follows.bind (selectorParts less _ less (by omega) base depth inside) fun _ => ?_
      exact Follows.pure fun _ place => place

theorem functional (tracks : setting.Tracks room nested nestedLonger) :
    setting.Consumes room (Parse.functional setting.which nested)
      (Parse.functional setting.other nestedLonger) := by
  intro less bound base depth inside
  refine Follows.bind (simple tracks less bound base depth inside) fun left => ?_
  exact Finds.repeatWhile room (functionalStep tracks) left less (by omega) base depth inside

theorem sign {signs : List (String × Builtin)}
    (listed : ∀ word ∈ signs.map Prod.fst, Even word ∧ word ∈ operandWords) :
    setting.Finds room (Parse.joined.sign signs) (Parse.joined.sign signs) := by
  intro less bound base depth inside
  induction signs with
  | nil => exact Follows.pure fun _ place => place
  | cons entry signs ih =>
      obtain ⟨word, function⟩ := entry
      obtain ⟨even, known⟩ := listed word (by simp)
      exact Follows.branch (symbol even known) (Follows.pure fun _ place => place)
        (ih fun other member => listed other (by simp [member]))

theorem joined {signs : List (String × Builtin)}
    (listed : ∀ word ∈ signs.map Prod.fst, Even word ∧ word ∈ operandWords)
    {operand operandLonger : Parse Expression}
    (consumes : setting.Consumes room operand operandLonger) :
    setting.Consumes room (Parse.joined signs operand) (Parse.joined signs operandLonger) := by
  intro less bound base depth inside
  refine Follows.bind (consumes less bound base depth inside) fun left => ?_
  refine Finds.repeatWhile less (fun current less' bound' base depth inside => ?_) left
    less (by omega) base depth inside
  refine Follows.bind (sign listed less' (Nat.le_refl _) base depth inside) fun function => ?_
  cases function with
  | none => exact Follows.pure fun _ place => place
  | some function =>
      refine Follows.bind (consumes.tracks less' (by omega) base depth inside) fun right => ?_
      exact Follows.pure fun _ place => place

theorem power (tracks : setting.Tracks room nested nestedLonger) :
    setting.Consumes room (Parse.power setting.which nested)
      (Parse.power setting.other nestedLonger) :=
  joined (by decide) (functional tracks)

theorem multiplication (tracks : setting.Tracks room nested nestedLonger) :
    setting.Consumes room (Parse.multiplication setting.which nested)
      (Parse.multiplication setting.other nestedLonger) :=
  joined (by decide) (power tracks)

theorem addition (tracks : setting.Tracks room nested nestedLonger) :
    setting.Consumes room (Parse.addition setting.which nested)
      (Parse.addition setting.other nestedLonger) :=
  joined (by decide) (multiplication tracks)

theorem setWords_listed : ∀ word ∈ Parse.setWords.map Prod.fst,
    Even word ∧ word ∈ operandWords := by
  decide

theorem binaryStep (tracks : setting.Tracks room nested nestedLonger) (left : Expression) :
    setting.Finds room (Parse.binaryStep setting.which nested left)
      (Parse.binaryStep setting.other nestedLonger left) := by
  intro less bound base depth inside
  unfold Parse.binaryStep
  refine Follows.branch (symbol (by decide) (by decide)) ?_ ?_
  · exact Follows.bind ((addition tracks).tracks less (by omega) base depth inside) fun _ =>
      Follows.pure fun _ place => place
  refine Follows.bind (firstKeyword (fun word member => (setWords_listed word member).1)
    (fun word member => quiet (setWords_listed word member).2 depth)) fun operation => ?_
  cases operation with
  | none => exact Follows.pure fun _ place => place
  | some operation =>
      exact Follows.bind ((addition tracks).tracks less (by omega) base depth inside) fun _ =>
        Follows.pure fun _ place => place

theorem binary (tracks : setting.Tracks room nested nestedLonger) :
    setting.Consumes room (Parse.binary setting.which nested)
      (Parse.binary setting.other nestedLonger) := by
  intro less bound base depth inside
  refine Follows.bind (addition tracks less bound base depth inside) fun left => ?_
  exact Finds.repeatWhile room (binaryStep tracks) left less (by omega) base depth inside

theorem expressionWith (room : Nat) :
    setting.Consumes room (Parse.expressionWith setting.which)
      (Parse.expressionWith setting.other) :=
  Consumes.recurse (fun _ _ _ tracks => binary tracks) room

end Setting

end PredicateRules
