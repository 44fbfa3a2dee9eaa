import PredicateRules.Proofs.Progress.Step

namespace PredicateRules

theorem Expression.holds_of_keyPathText? {property : Expression → Prop} {left : Expression}
    (holds : property left) :
    ∀ path ∈ left.keyPathText?, property (.keyPath path) := by
  intro path found
  cases left with
  | keyPath other => exact Option.some.inj found ▸ holds
  | _ => cases found

open Parse in
/-- What the grammar builds up: it holds of what tokens are read as, and of everything that a rule makes
of parts that it holds of. -/
structure Expression.Built (ground : Ground) (property : Expression → Prop) : Prop where
  number : Yields numericLiteral? fun found => ∀ value ∈ found, property (.constant value)
  string : Yields quoted? fun found => ∀ constant ∈ found, property constant
  word : ∀ entry ∈ constantWords, property entry.2
  name : Yields identifier fun name =>
    property (.variable name) ∧ property (.keyPath name) ∧ property (.keyPath ("@" ++ name))
  argument {letters : List Char} {value : Value} {expression : Expression} :
    value ∈ ground.arguments → argumentExpression? letters value = some expression →
    property expression
  selector {path : String} : property (.keyPath path) →
    Yields (selectorParts (path ++ ":")) fun selector => property (.keyPath selector)
  further {path rest : String} : property (.keyPath path) → property (.keyPath rest) →
    property (.keyPath (path ++ "." ++ rest))
  negated {operand : Expression} : property operand → property (negated operand)
  aggregate {items : List Expression} : (∀ item ∈ items, property item) → property (.aggregate items)
  named {caseSensitive : Bool} {name : String} {arguments : List Expression} {call : Expression} :
    (∀ argument ∈ arguments, property argument) → namedCall caseSensitive name arguments = .ok call →
    property call
  element {function : Builtin} {target : Expression} :
    function ∈ [Builtin.indexFirst, .indexLast, .count] → property target →
    property (.call function [target])
  position {target position : Expression} : property target → property position →
    property (.call .index [target, position])
  joined {function : Builtin} {left right : Expression} :
    function ∈ [Builtin.raiseToPower, .multiply, .divide, .add, .subtract] → property left →
    property right → property (.call function [left, right])
  set {operation : SetOperation} {left right : Expression} : property left → property right →
    property (.set operation left right)

theorem Expression.Built.anything {ground : Parse.Ground} : Built ground fun _ => True where
  number := fun _ _ _ _ _ _ => trivial
  string := fun _ _ _ _ _ _ => trivial
  word _ _ := trivial
  name := fun _ _ _ _ => ⟨trivial, trivial, trivial⟩
  argument _ _ := trivial
  selector _ := fun _ _ _ _ => trivial
  further _ _ := trivial
  negated _ := trivial
  aggregate _ := trivial
  named _ _ := trivial
  element _ _ := trivial
  position _ _ := trivial
  joined _ _ _ := trivial
  set _ _ := trivial

namespace Parse

theorem firstKeyword_yields {α : Type} (words : List (String × α)) :
    Yields (firstKeyword words) fun found => ∀ meaning ∈ found, ∃ entry ∈ words, entry.2 = meaning := by
  induction words with
  | nil => exact .pure nofun
  | cons entry words ih =>
      refine .bind (.anything _) fun met _ => ?_
      cases met with
      | true => exact .pure fun meaning found => ⟨entry, by simp, Option.some.inj found⟩
      | false =>
          intro parser found stop outcome meaning member
          obtain ⟨other, listed, same⟩ := ih parser found stop outcome meaning member
          exact ⟨other, by simp [listed], same⟩

theorem sign_yields (signs : List (String × Builtin)) :
    Yields (joined.sign signs) fun found => ∀ function ∈ found, function ∈ signs.map Prod.snd := by
  induction signs with
  | nil => exact .pure nofun
  | cons entry signs ih =>
      refine .bind (.anything _) fun met _ => ?_
      cases met with
      | true => exact .pure fun function found => by simp [Option.some.inj found]
      | false =>
          intro parser found stop outcome function member
          exact List.mem_cons_of_mem _ (ih parser found stop outcome function member)

theorem placeholder?_given {which : Parser → Nat} {start stop : Parser} {found : Option Expression}
    (outcome : placeholder? which start = .ok found stop) :
    ∀ expression ∈ found, ∃ letters, ∃ value ∈ start.arguments,
      argumentExpression? letters value = some expression := by
  rw [Setting.placeholder?_eq] at outcome
  cases scanned : Setting.scanPlaceholder start.scanner with
  | mk letters after =>
      rw [scanned] at outcome
      cases letters with
      | none =>
          cases outcome
          nofun
      | some letters =>
          dsimp only at outcome
          cases given : start.arguments[which (start.moved after)]? with
          | none =>
              rw [given] at outcome
              cases outcome
          | some value =>
              rw [given] at outcome
              dsimp only at outcome
              cases made : argumentExpression? letters value with
              | none =>
                  rw [made] at outcome
                  cases outcome
              | some expression =>
                  rw [made] at outcome
                  cases outcome
                  rintro _ ⟨⟩
                  exact ⟨letters, value, List.mem_of_getElem? given, made⟩

theorem callNamed_yields (name : String) (arguments : List Expression) :
    Yields (callNamed name arguments) fun call =>
      ∃ caseSensitive, namedCall caseSensitive name arguments = .ok call := by
  intro start call stop outcome
  simp only [callNamed, bind, EStateM.bind, scanner] at outcome
  cases made : namedCall start.scanner.caseSensitive name arguments with
  | error error =>
      rw [made] at outcome
      cases outcome
  | ok other =>
      rw [made] at outcome
      cases outcome
      exact ⟨_, made⟩

namespace Advances

variable {α : Type} {ground : Ground} {room : Nat} {nested other : Parse Expression}
  {property : Expression → Prop}

theorem literal {word : String} (solid : Solid word) :
    Advances ground room (Parse.literal word) (Parse.literal word) id fun _ => True := by
  refine scan (fun scanner skips => ?_) fun scanner skips found => ?_
  · rw [Scanner.scanLiteral_eq skips]
    split
    · exact ⟨_, Scanner.forward_skipIgnored_moves skips _⟩
    · exact ⟨_, Scanner.skipIgnored_moves skips⟩
  · rw [Scanner.scanLiteral_eq skips] at found ⊢
    split at found
    next meets =>
      rw [if_pos meets]
      have some : scanner.ahead ≠ [] := by
        intro none
        simp [Scanner.meets, none] at meets
      have letters : word.toList ≠ [] := by
        intro none
        simp [Solid, none] at solid
      have remaining : (scanner.skipIgnored.forward word.toList.length).remaining =
          scanner.ahead.drop word.toList.length := by
        rw [← Scanner.remaining_skipIgnored skips]
        rfl
      have least := front_length (scanner.ahead.drop word.toList.length)
      have := List.length_pos_iff.mpr some
      have := List.length_pos_iff.mpr letters
      rw [List.length_drop] at least
      show (front _).length < _
      rw [remaining]
      omega
    next => cases found

theorem keyword {word : String} (solid : Solid word) (worded : Worded word) :
    Advances ground room (Parse.keyword word) (Parse.keyword word) id fun _ => True :=
  of_draws (.keyword solid worded)

theorem expect {word : String} (solid : Solid word) (construct : String) :
    Advances ground room (Parse.expect word construct) (Parse.expect word construct) (fun _ => true)
      fun _ => True :=
  branch (literal solid) (.pure rfl trivial) .fail

theorem firstKeyword {words : List (String × α)} (worded : ∀ entry ∈ words, Solid entry.1 ∧ Worded entry.1) :
    Advances ground room (Parse.firstKeyword words) (Parse.firstKeyword words) Option.isSome
      fun found => ∀ meaning ∈ found, ∃ entry ∈ words, entry.2 = meaning :=
  token (.firstKeyword worded) (firstKeyword_yields words)

theorem placeholder? (built : Expression.Built ground property) (which : Parser → Nat) :
    Advances ground room (Parse.placeholder? which) (Parse.placeholder? which) Option.isSome
      fun found => ∀ argument ∈ found, property argument := by
  refine (of_draws (.placeholder? which)).yielding fun start found stop stands outcome argument member => ?_
  obtain ⟨letters, value, given, same⟩ := placeholder?_given outcome argument member
  rw [stands.arguments] at given
  exact built.argument given same

theorem callNamed (built : Expression.Built ground property) (name : String)
    {arguments : List Expression} (holds : ∀ argument ∈ arguments, property argument) :
    Advances ground room (Parse.callNamed name arguments) (Parse.callNamed name arguments)
      (fun _ => false) property := by
  refine token (.callNamed name arguments) fun start call stop outcome => ?_
  obtain ⟨caseSensitive, made⟩ := callNamed_yields name arguments start call stop outcome
  exact built.named holds made

def itemsStep (nested : Parse Expression) (close construct : String)
    (again : List Expression → Parse (List Expression)) (items : List Expression) :
    Parse (List Expression) := do
  let item ← nested
  if ← Parse.literal "," then again (item :: items)
  else do
    Parse.expect close construct
    return (item :: items).reverse

theorem itemsStep_advances {close : String} (solid : Solid close) (construct : String)
    (inner : Advances ground room nested other (fun _ => true) property)
    {again againOther : List Expression → Parse (List Expression)}
    (further : ∀ items, (∀ item ∈ items, property item) → Advances ground (room - 1) (again items)
      (againOther items) (fun _ => true) fun items => ∀ item ∈ items, property item)
    {items : List Expression} (holds : ∀ item ∈ items, property item) :
    Advances ground room (itemsStep nested close construct again items)
      (itemsStep other close construct againOther items) (fun _ => true)
      fun items => ∀ item ∈ items, property item := by
  refine bind inner fun item good => ?_
  have grown : ∀ other ∈ item :: items, property other := List.forall_mem_cons.mpr ⟨good, holds⟩
  refine branch (.literal (by decide))
    (((further (item :: items) grown).mono (Nat.sub_le _ _)).weaken (by simp) fun _ => id) ?_
  refine returns (.expect solid construct) (by simp) fun _ _ other member => ?_
  exact grown other (List.mem_reverse.mp member)

theorem expressionList {close : String} (solid : Solid close) (construct : String)
    (inner : Advances ground room nested other (fun _ => true) property) :
    Advances ground room (Parse.expressionList nested close construct)
      (Parse.expressionList other close construct) (fun _ => true)
      fun items => ∀ item ∈ items, property item := by
  have empty : ∀ item ∈ ([] : List Expression), property item := by simp
  refine branch (.literal solid) (.pure rfl empty) ?_
  refine recurse (fun items => ∀ item ∈ items, property item)
    (fun less within again againOther further items holds => ?_) empty
  exact itemsStep_advances solid construct (inner.mono within) further holds

section

variable (built : Expression.Built ground property)
  (inner : Advances ground (room - 1) nested other (fun _ => true) property)

include built inner

theorem simple (which : Parser → Nat) :
    Advances ground room (Parse.simple which nested) (Parse.simple which other) (fun _ => true)
      property := by
  unfold Parse.simple
  refine bind (token .numericLiteral? built.number) fun number good => ?_
  cases number with
  | some number => exact .pure rfl (good number rfl)
  | none => ?_
  refine branch (.literal (by decide))
    (returns inner (by simp) fun _ => built.negated) ?_
  refine branch (.literal (by decide)) (bind inner fun operand good => ?_) ?_
  · exact returns (.expect (by decide) "expression") (by simp) fun _ _ => good
  have items := expressionList (by decide : Solid "\x7d") "aggregate" inner
  refine branch (.literal (by decide)) (returns items (by simp) fun _ => built.aggregate) ?_
  refine bind (.firstKeyword Draws.constantWords_worded) fun constant listed => ?_
  cases constant with
  | some constant =>
      obtain ⟨entry, member, rfl⟩ := listed constant rfl
      exact .pure rfl (built.word entry member)
  | none => ?_
  have name : Advances ground (room - 1) Parse.identifier Parse.identifier (fun _ => true) fun name =>
      property (.variable name) ∧ property (.keyPath name) ∧ property (.keyPath ("@" ++ name)) :=
    token .identifier built.name
  refine branch (.literal (by decide)) (returns name (by simp) fun _ good => good.1) ?_
  refine bind (.placeholder? built which) fun argument good => ?_
  cases argument with
  | some argument => exact .pure rfl (good argument rfl)
  | none => ?_
  refine bind (token .quoted? built.string) fun string good => ?_
  cases string with
  | some string => exact .pure rfl (good string rfl)
  | none => ?_
  refine branch (.literal (by decide)) (returns name (by simp) fun _ good => good.2.2) ?_
  refine bind (.literal (by decide)) fun hash _ => ?_
  exact returns (token .identifier built.name) (by simp) fun _ good => good.2.1

theorem position {target : Expression} (holds : property target) :
    Advances ground (room - 1) (Parse.position nested target) (Parse.position other target)
      (fun _ => true) property := by
  refine branch (.keyword (by decide) (by decide)) (.pure rfl (built.element (by decide) holds)) ?_
  refine branch (.keyword (by decide) (by decide)) (.pure rfl (built.element (by decide) holds)) ?_
  refine branch (.keyword (by decide) (by decide)) (.pure rfl (built.element (by decide) holds)) ?_
  exact returns inner (by simp) fun _ good => built.position holds good

theorem subscript {target : Expression} (holds : property target) :
    Advances ground (room - 1) (Parse.subscript nested target) (Parse.subscript other target)
      (fun _ => true) property := by
  refine bind (position built inner holds) fun element good => ?_
  exact returns (.expect (by decide) "index") (by simp) fun _ _ => good

theorem furtherKey (which : Parser → Nat) {path? : Option String}
    (holds : ∀ path ∈ path?, property (.keyPath path)) :
    Advances ground room (Parse.furtherKey which nested path?) (Parse.furtherKey which other path?)
      (fun _ => true) property := by
  cases path? with
  | none => exact .fail
  | some path =>
      refine bind (simple built inner which) fun rest good => ?_
      cases rest with
      | keyPath rest => exact .pure rfl (built.further (holds path rfl) good)
      | _ => exact .fail

theorem arguments (path : Option String) :
    Advances ground (room - 1) (Parse.arguments nested path) (Parse.arguments other path)
      (fun _ => true) property := by
  cases path with
  | none => exact .fail
  | some name =>
      refine bind (expressionList (by decide) "function call" inner) fun list good => ?_
      exact (callNamed built name good).weaken (by simp) fun _ => id

theorem suffix? (which : Parser → Nat) {left : Expression} (holds : property left) :
    Advances ground room (Parse.suffix? which nested left) (Parse.suffix? which other left)
      Option.isSome fun found => ∀ next ∈ found, property next := by
  have goes : ∀ next, property next → ∀ found ∈ some next, property found := by
    rintro next good _ ⟨⟩
    exact good
  refine branch (.literal (by decide))
    (returns (arguments built inner left.keyPathText?) (by simp) goes) ?_
  refine branch (.literal (by decide))
    (returns (subscript built inner holds) (by simp) goes) ?_
  refine branch (.literal (by decide)) ?_ (.pure rfl nofun)
  exact returns ((furtherKey built inner which (Expression.holds_of_keyPathText? holds)).mono (by omega))
    (by simp) goes

theorem functionalStep (which : Parser → Nat) {left : Expression} (holds : property left) :
    Advances ground room (Parse.functionalStep which nested left)
      (Parse.functionalStep which other left) Option.isSome fun found => ∀ next ∈ found, property next := by
  unfold Parse.functionalStep
  have path := Expression.holds_of_keyPathText? holds
  cases text : left.keyPathText? with
  | none => exact suffix? built inner which holds
  | some name =>
      refine branch (of_draws .selectorColon) ?_ (suffix? built inner which holds)
      refine returns (token (.selectorParts (name ++ ":")) (built.selector (path name text))) (by simp) ?_
      rintro selector good _ ⟨⟩
      exact good

theorem functional (which : Parser → Nat) :
    Advances ground room (Parse.functional which nested) (Parse.functional which other)
      (fun _ => true) property := by
  refine bind (simple built inner which) fun left good => ?_
  exact (repeatWhile (fun current holds =>
    (functionalStep built inner which holds).mono (Nat.sub_le _ _)) good).weaken (by simp) fun _ => id

end

def joinedStep (signs : List (String × Builtin)) (operand : Parse Expression) (left : Expression) :
    Parse (Option Expression) := do
  match ← joined.sign signs with
  | some function => return some (.call function [left, ← operand])
  | none => return none

section

variable {signs : List (String × Builtin)} (bounded : ∀ entry ∈ signs, Solid entry.1 ∧ Bounded entry.1)
  (joins : ∀ function ∈ signs.map Prod.snd, ∀ left right, property left → property right →
    property (.call function [left, right]))
  {operand operandOther : Parse Expression}

include bounded joins

theorem joinedStep_advances (advances : Advances ground (room - 1) operand operandOther (fun _ => true) property)
    {left : Expression} (holds : property left) :
    Advances ground room (joinedStep signs operand left) (joinedStep signs operandOther left)
      Option.isSome fun found => ∀ next ∈ found, property next := by
  refine bind (token (.sign bounded) (sign_yields signs)) fun function listed => ?_
  cases function with
  | none => exact .pure rfl nofun
  | some function =>
      refine returns advances (by simp) ?_
      rintro right good _ ⟨⟩
      exact joins function (listed function rfl) left right holds good

theorem joined (advances : Advances ground room operand operandOther (fun _ => true) property) :
    Advances ground room (Parse.joined signs operand) (Parse.joined signs operandOther) (fun _ => true)
      property := by
  refine bind advances fun left good => ?_
  refine (repeatWhile (fun current holds => ?_) good).weaken (by simp) fun _ => id
  exact joinedStep_advances bounded joins (advances.mono (by omega)) holds

end

section

variable (built : Expression.Built ground property)
  (inner : Advances ground (room - 1) nested other (fun _ => true) property)

include built

theorem joins (signs : List (String × Builtin))
    (operators : ∀ function ∈ signs.map Prod.snd,
      function ∈ [Builtin.raiseToPower, .multiply, .divide, .add, .subtract]) :
    ∀ function ∈ signs.map Prod.snd, ∀ left right, property left → property right →
      property (.call function [left, right]) :=
  fun function member _ _ => built.joined (operators function member)

include inner

theorem power (which : Parser → Nat) :
    Advances ground room (Parse.power which nested) (Parse.power which other) (fun _ => true) property :=
  joined (by decide) (joins built _ (by decide)) (functional built inner which)

theorem multiplication (which : Parser → Nat) :
    Advances ground room (Parse.multiplication which nested) (Parse.multiplication which other)
      (fun _ => true) property :=
  joined (by decide) (joins built _ (by decide)) (power built inner which)

theorem addition (which : Parser → Nat) :
    Advances ground room (Parse.addition which nested) (Parse.addition which other) (fun _ => true)
      property :=
  joined (by decide) (joins built _ (by decide)) (multiplication built inner which)

theorem binaryStep (which : Parser → Nat) {left : Expression} (holds : property left) :
    Advances ground room (Parse.binaryStep which nested left) (Parse.binaryStep which other left)
      Option.isSome fun found => ∀ next ∈ found, property next := by
  have right : Advances ground (room - 1) (Parse.addition which nested) (Parse.addition which other)
      (fun _ => true) property := (addition built inner which).mono (by omega)
  refine branch (.literal (by decide)) (returns right (by simp) ?_) ?_
  · rintro _ _ _ ⟨⟩
    exact holds
  refine bind (.firstKeyword Draws.setWords_worded) fun operation _ => ?_
  cases operation with
  | none => exact .pure rfl nofun
  | some operation =>
      refine returns right (by simp) ?_
      rintro operand good _ ⟨⟩
      exact built.set holds good

theorem binary (which : Parser → Nat) :
    Advances ground room (Parse.binary which nested) (Parse.binary which other) (fun _ => true)
      property := by
  refine bind (addition built inner which) fun left good => ?_
  exact (repeatWhile (fun current holds =>
    (binaryStep built inner which holds).mono (Nat.sub_le _ _)) good).weaken (by simp) fun _ => id

end

theorem expressionWith (built : Expression.Built ground property) (which : Parser → Nat) :
    Advances ground room (Parse.expressionWith which) (Parse.expressionWith which) (fun _ => true)
      property :=
  recurse (fun _ => True) (fun _ _ _ _ inner _ _ => binary built (inner () trivial) which) trivial

end Advances

end Parse

end PredicateRules
