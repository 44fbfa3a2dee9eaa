import PredicateRules.Proofs.Printing.Float

/-!
Which expressions their text tells apart from others, and how calls are written. Not told apart are a key
that is a word for a position, a sign that is taken into a number, a negative zero before an operator or a
bracket, an infinite number, and a selector with a quotation mark in it.
-/

namespace PredicateRules

/-- The sign that a function of two operands is written with. -/
def Builtin.sign? : Builtin → Option String
  | .add => some "+"
  | .subtract => some "-"
  | .multiply => some "*"
  | .divide => some "/"
  | .raiseToPower => some "**"
  | _ => none

namespace Expression

def isNumber : Expression → Bool
  | constant (.int _) => true
  | constant (.float _) => true
  | _ => false

def isNegativeZero : Expression → Bool
  | constant (.float number) => Float64.isNegativeZero number
  | _ => false

/-- The text of a position would be taken for a word for one. -/
def opensWithPositionWord (caseSensitive : Bool) (text : String) : Bool :=
  ["FIRST", "LAST", "SIZE"].any fun word =>
    Parse.meetsWord caseSensitive word.toList (text.toList.dropWhile CharClass.skipped)

section

variable (describe : Object → String) (caseSensitive : Bool)

/-- A call is told apart by its text from everything else, its arguments aside. A sign before a number is
taken into the number. A negative zero has no parentheses around it, so a sign or a bracket behind it is
read as part of what is negated. -/
def callIsLegible (function : Builtin) (arguments : List Expression) : Bool :=
  match function, arguments with
  | .changeSign, [operand] => !operand.isNumber
  | .index, [target, position] =>
    !target.isNegativeZero && !opensWithPositionWord caseSensitive (position.text describe)
  | .indexFirst, [target] => !target.isNegativeZero
  | .indexLast, [target] => !target.isNegativeZero
  | function, [left, _] => function.sign?.isNone || !left.isNegativeZero
  | _, _ => true

mutual

/-- The text tells the expression apart from others. -/
def isLegible : Expression → Bool
  | constant (.float number) => Float64.isFinite number
  | constant _ => true
  | selfReference => true
  | .variable _ => true
  | keyPath _ => true
  | call function arguments =>
    callIsLegible describe caseSensitive function arguments && eachIsLegible arguments
  | custom operand selector arguments =>
    decide ('"' ∉ selector.toList) && isLegible operand && eachIsLegible arguments
  | aggregate items => eachIsLegible items
  | set _ left right => !left.isNegativeZero && isLegible left && isLegible right

def eachIsLegible : List Expression → Bool
  | [] => true
  | item :: items => isLegible item && eachIsLegible items

end

end

/-- The ways to write a call: with a sign, with a subscript, or else with the selector. -/
inductive CallShape : Builtin → List Expression → Prop where
  | operation {function : Builtin} {sign : String} (signed : function.sign? = some sign)
      (left right : Expression) : CallShape function [left, right]
  | negation (operand : Expression) : CallShape .changeSign [operand]
  | index (target position : Expression) : CallShape .index [target, position]
  | element {word : String} {function : Builtin}
      (worded : (word, function) ∈ [("FIRST", Builtin.indexFirst), ("LAST", .indexLast)])
      (target : Expression) : CallShape function [target]
  | selector {function : Builtin} {arguments : List Expression}
      (plain : ∀ texts : List String, texts.length = arguments.length →
        callText function texts = function.selector ++ inParentheses (Value.commaSeparated texts)) :
      CallShape function arguments

theorem callShape (function : Builtin) (arguments : List Expression) : CallShape function arguments := by
  rcases arguments with _ | ⟨first, _ | ⟨second, _ | ⟨third, others⟩⟩⟩
  · refine .selector fun texts length => ?_
    obtain rfl := List.length_eq_zero_iff.mp length
    cases function <;> rfl
  · cases function
    case changeSign => exact .negation first
    case indexFirst => exact .element (List.mem_cons_self ..) first
    case indexLast => exact .element (List.mem_cons_of_mem _ (List.mem_cons_self ..)) first
    all_goals
      refine .selector fun texts length => ?_
      obtain ⟨text, rfl⟩ := List.length_eq_one_iff.mp length
      rfl
  · cases signed : function.sign? with
    | some sign => exact .operation signed first second
    | none =>
        by_cases index : function = .index
        · exact index ▸ .index first second
        · refine .selector fun texts length => ?_
          obtain ⟨text, other, rfl⟩ := List.length_eq_two.mp length
          cases function <;> first | exact absurd rfl index | rfl | cases signed
  · refine .selector fun texts length => ?_
    obtain ⟨text, other, another, texts, rfl⟩ : ∃ text other another rest,
        texts = text :: other :: another :: rest := by
      match texts, length with
      | text :: other :: another :: rest, _ => exact ⟨text, other, another, rest, rfl⟩
    cases function <;> rfl

theorem callText_operation {function : Builtin} {sign : String} (signed : function.sign? = some sign)
    (left right : String) : callText function [left, right] = operation sign left right := by
  cases function <;> cases signed <;> rfl

theorem callIsLegible_signed {describe : Object → String} {caseSensitive : Bool} {function : Builtin}
    {sign : String} (signed : function.sign? = some sign) {left right : Expression} :
    callIsLegible describe caseSensitive function [left, right] = !left.isNegativeZero := by
  cases function <;> cases signed <;> rfl

theorem callIsLegible_element {describe : Object → String} {caseSensitive : Bool} {word : String}
    {function : Builtin} (worded : (word, function) ∈ [("FIRST", Builtin.indexFirst), ("LAST", .indexLast)])
    {target : Expression} :
    callIsLegible describe caseSensitive function [target] = !target.isNegativeZero := by
  simp only [List.mem_cons, Prod.mk.injEq, List.not_mem_nil, or_false] at worded
  rcases worded with ⟨rfl, rfl⟩ | ⟨rfl, rfl⟩ <;> rfl

theorem texts_eq (describe : Object → String) (items : List Expression) :
    texts describe items = items.map (text describe) := by
  induction items with
  | nil => rfl
  | cons item items ih => rw [texts, ih, List.map_cons]

theorem eachIsLegible_iff {describe : Object → String} {caseSensitive : Bool} {items : List Expression} :
    eachIsLegible describe caseSensitive items = true ↔
      ∀ item ∈ items, item.isLegible describe caseSensitive = true := by
  induction items with
  | nil => simp [eachIsLegible]
  | cons item items ih => simp [eachIsLegible, ih]

end Expression

namespace Builtin

theorem selector_parts (function : Builtin) : ∃ name parts, KeyPath.IsName name ∧
    (∀ part ∈ parts, KeyPath.IsName part) ∧ (function.selector.toList = name ∨
      function.selector.toList = name ++ ':' :: KeyPath.selectorText parts) := by
  refine ⟨function.selector.toList.takeWhile (· != ':'), (function.selector.toList.splitOn ':').tail.dropLast,
    ?_, ?_, ?_⟩
  · cases function <;> decide +kernel
  · cases function <;> decide +kernel
  · cases function <;> decide +kernel

theorem selector_written (function : Builtin) : KeyPath.Written function.selector.toList := by
  obtain ⟨name, parts, isName, named, same | same⟩ := function.selector_parts
  · rw [same]
    exact .name isName
  · rw [same]
    exact .selector (.name isName) named

theorem keyPathText_selector (function : Builtin) : KeyPath.text function.selector = function.selector := by
  cases function <;> decide +kernel

theorem ofSelector?_selector (function : Builtin) : ofSelector? function.selector = some function := by
  cases function <;> decide +kernel

theorem namedCall_selector (caseSensitive : Bool) (function : Builtin) (arguments : List Expression) :
    Parse.namedCall caseSensitive function.selector arguments = .ok (.call function arguments) := by
  have other : Parse.isCustomKeyword caseSensitive function.selector = false := by
    cases function <;> cases caseSensitive <;> decide +kernel
  unfold Parse.namedCall
  rw [if_neg (by simp [other]), ofSelector?_selector]

end Builtin

end PredicateRules
