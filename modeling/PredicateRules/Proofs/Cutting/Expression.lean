import PredicateRules.Proofs.Cutting.Constant

namespace PredicateRules.Parse.Draws

variable {α β : Type} {room roomAgain : Nat} {nested nestedAgain : Parse Expression}

theorem returns {step again : Parse α} {spends : α → Bool} {spendsAll : β → Bool}
    (draws : Draws room roomAgain step again spends) (image : α → β)
    (less : ∀ found, spendsAll (image found) = true → spends found = true) :
    Draws room roomAgain (do return image (← step)) (do return image (← again)) spendsAll := by
  refine bind draws fun found => .pure ?_
  cases spent : spendsAll (image found) with
  | false => rfl
  | true => rw [less found spent]; rfl

theorem branch {test testAgain : Parse Bool} {yes no yesAgain noAgain : Parse α} {spends : α → Bool}
    (tests : Draws room roomAgain test testAgain id)
    (holds : Draws (room - 1) (roomAgain - 1) yes yesAgain fun _ => false)
    (misses : Draws room roomAgain no noAgain spends) :
    Draws room roomAgain (do if ← test then yes else no) (do if ← testAgain then yesAgain else noAgain)
      spends := by
  refine bind tests fun found => ?_
  cases found with
  | true => exact holds.weaken (by simp)
  | false => exact misses.weaken (by simp)

section

variable (inner : Draws room roomAgain nested nestedAgain fun _ => true)

include inner

theorem expressionList {close : String} (solid : Solid close) (bounded : Bounded close)
    (construct : String) :
    Draws room roomAgain (Parse.expressionList nested close construct)
      (Parse.expressionList nestedAgain close construct) fun _ => true := by
  refine branch (.literal solid bounded) (.pure rfl) ?_
  refine recurse room roomAgain ?_ []
  intro less bound lessAgain boundAgain again againAgain follows items
  refine bind (inner.mono bound boundAgain) fun item => ?_
  refine branch (.literal (by decide) (by decide))
    (((follows (item :: items)).mono (Nat.sub_le _ _) (Nat.sub_le _ _)).weaken nofun) ?_
  exact returns (.expect solid bounded construct) (fun _ => (item :: items).reverse) (by simp)

end

theorem constantWords_worded : ∀ entry ∈ Parse.constantWords, Solid entry.1 ∧ Worded entry.1 := by
  decide

section

variable (inner : Draws (room - 1) (roomAgain - 1) nested nestedAgain fun _ => true)

include inner

theorem simple (which : Parser → Nat) :
    Draws room roomAgain (Parse.simple which nested) (Parse.simple which nestedAgain) fun _ => true := by
  unfold Parse.simple
  refine bind .numericLiteral? fun number => ?_
  cases number with
  | some number => exact .pure rfl
  | none => ?_
  refine branch (.literal (by decide) (by decide)) (returns inner negated (by simp)) ?_
  refine branch (.literal (by decide) (by decide)) (bind inner fun operand => ?_) ?_
  · exact returns (.expect (by decide) (by decide) "expression") (fun _ => operand) (by simp)
  refine branch (.literal (by decide) (by decide))
    (returns (expressionList inner (by decide) (by decide) "aggregate") Expression.aggregate (by simp)) ?_
  refine bind (.firstKeyword constantWords_worded) fun constant => ?_
  cases constant with
  | some constant => exact .pure rfl
  | none => ?_
  refine branch (.literal (by decide) (by decide)) (returns .identifier Expression.variable (by simp)) ?_
  refine bind (.placeholder? which) fun argument => ?_
  cases argument with
  | some argument => exact .pure rfl
  | none => ?_
  refine bind .quoted? fun string => ?_
  cases string with
  | some string => exact .pure rfl
  | none => ?_
  refine branch (.literal (by decide) (by decide))
    (returns .identifier (fun name => Expression.keyPath ("@" ++ name)) (by simp)) ?_
  refine bind (.literal (by decide) (by decide)) fun hash => ?_
  exact returns .identifier Expression.keyPath (by simp)

end

theorem selectorParts (selector : String) :
    Draws room roomAgain (Parse.selectorParts selector) (Parse.selectorParts selector) fun _ => false := by
  refine repeatWhile (fun current => ?_) selector
  exact returns .selectorPart? (Option.map fun part => current ++ part) (by simp)

section

variable (inner : Draws (room - 1) (roomAgain - 1) nested nestedAgain fun _ => true)

include inner

theorem position (target : Expression) :
    Draws (room - 1) (roomAgain - 1) (Parse.position nested target) (Parse.position nestedAgain target)
      fun _ => true := by
  refine branch (.keyword (by decide) (by decide)) (.pure rfl) ?_
  refine branch (.keyword (by decide) (by decide)) (.pure rfl) ?_
  refine branch (.keyword (by decide) (by decide)) (.pure rfl) ?_
  exact returns inner (fun index => Expression.call .index [target, index]) (by simp)

theorem subscript (target : Expression) :
    Draws (room - 1) (roomAgain - 1) (Parse.subscript nested target) (Parse.subscript nestedAgain target)
      fun _ => true := by
  refine bind (position inner target) fun element => ?_
  exact returns (.expect (by decide) (by decide) "index") (fun _ => element) (by simp)

theorem furtherKey (which : Parser → Nat) (path : Option String) :
    Draws room roomAgain (Parse.furtherKey which nested path) (Parse.furtherKey which nestedAgain path)
      fun _ => true := by
  cases path with
  | none => exact .fail
  | some path =>
      refine bind (simple inner which) fun rest => ?_
      cases rest with
      | keyPath rest => exact .pure rfl
      | _ => exact .fail

theorem arguments (path : Option String) :
    Draws (room - 1) (roomAgain - 1) (Parse.arguments nested path) (Parse.arguments nestedAgain path)
      fun _ => true := by
  cases path with
  | none => exact .fail
  | some name =>
      refine bind (expressionList inner (by decide) (by decide) "function call") fun list => ?_
      exact (callNamed name list).weaken (by simp)

theorem suffix? (which : Parser → Nat) (left : Expression) :
    Draws room roomAgain (Parse.suffix? which nested left) (Parse.suffix? which nestedAgain left)
      Option.isSome := by
  refine branch (.literal (by decide) (by decide)) (returns (arguments inner left.keyPathText?) some (by simp)) ?_
  refine branch (.literal (by decide) (by decide)) (returns (subscript inner left) some (by simp)) ?_
  refine branch (.literal (by decide) (by decide)) ?_ (.pure rfl)
  exact returns ((furtherKey inner which left.keyPathText?).mono (by omega) (by omega)) some (by simp)

theorem functionalStep (which : Parser → Nat) (left : Expression) :
    Draws room roomAgain (Parse.functionalStep which nested left)
      (Parse.functionalStep which nestedAgain left) Option.isSome := by
  unfold Parse.functionalStep
  cases left.keyPathText? with
  | none => exact suffix? inner which left
  | some path =>
      refine branch .selectorColon ?_ (suffix? inner which left)
      exact returns (selectorParts (path ++ ":")) (fun selector => some (Expression.keyPath selector))
        (by simp)

theorem functional (which : Parser → Nat) :
    Draws room roomAgain (Parse.functional which nested) (Parse.functional which nestedAgain)
      fun _ => true := by
  refine bind (simple inner which) fun left => ?_
  exact (repeatWhile (fun current => (functionalStep inner which current).mono (by omega) (by omega))
    left).weaken (by simp)

end

theorem sign {signs : List (String × Builtin)} (bounded : ∀ entry ∈ signs, Solid entry.1 ∧ Bounded entry.1) :
    Draws room roomAgain (joined.sign signs) (joined.sign signs) Option.isSome := by
  induction signs with
  | nil => exact .pure rfl
  | cons entry signs ih =>
      obtain ⟨solid, ends⟩ := bounded entry (by simp)
      exact branch (.literal solid ends) (.pure rfl) (ih fun other member => bounded other (by simp [member]))

theorem joined {signs : List (String × Builtin)} (bounded : ∀ entry ∈ signs, Solid entry.1 ∧ Bounded entry.1)
    {operand operandAgain : Parse Expression}
    (draws : Draws room roomAgain operand operandAgain fun _ => true) :
    Draws room roomAgain (Parse.joined signs operand) (Parse.joined signs operandAgain) fun _ => true := by
  refine bind draws fun left => ?_
  refine (repeatWhile (fun current => ?_) left).weaken (by simp)
  refine bind (sign bounded) fun function => ?_
  cases function with
  | none => exact .pure rfl
  | some function =>
      exact returns (draws.mono (by omega) (by omega))
        (fun right => some (Expression.call function [current, right])) (by simp)

theorem setWords_worded : ∀ entry ∈ Parse.setWords, Solid entry.1 ∧ Worded entry.1 := by
  decide

section

variable (inner : Draws (room - 1) (roomAgain - 1) nested nestedAgain fun _ => true)

include inner

theorem addition (which : Parser → Nat) :
    Draws room roomAgain (Parse.addition which nested) (Parse.addition which nestedAgain) fun _ => true :=
  joined (by decide) (joined (by decide) (joined (by decide) (functional inner which)))

theorem binaryStep (which : Parser → Nat) (left : Expression) :
    Draws room roomAgain (Parse.binaryStep which nested left) (Parse.binaryStep which nestedAgain left)
      Option.isSome := by
  have right : Draws (room - 1) (roomAgain - 1) (Parse.addition which nested)
      (Parse.addition which nestedAgain) fun _ => true :=
    (addition inner which).mono (by omega) (by omega)
  refine branch (.literal (by decide) (by decide)) (returns right (fun _ => some left) (by simp)) ?_
  refine bind (.firstKeyword setWords_worded) fun operation => ?_
  cases operation with
  | none => exact .pure rfl
  | some operation => exact returns right (fun right => some (Expression.set operation left right)) (by simp)

theorem binary (which : Parser → Nat) :
    Draws room roomAgain (Parse.binary which nested) (Parse.binary which nestedAgain) fun _ => true := by
  refine bind (addition inner which) fun left => ?_
  exact (repeatWhile (fun current => (binaryStep inner which current).mono (by omega) (by omega))
    left).weaken (by simp)

end

theorem expressionWith (which : Parser → Nat) :
    Draws room roomAgain (Parse.expressionWith which) (Parse.expressionWith which) fun _ => true :=
  recurse room roomAgain (fun _ _ _ _ _ _ follows _ => binary (follows ()) which) ()

end PredicateRules.Parse.Draws
