import PredicateRules.Proofs.Evaluation.Holding
import PredicateRules.Proofs.Evaluation.Parts

/-!
Two ways of evaluating that correspond. An evaluation does nothing with its surroundings but read keys
and call functions, so where these correspond in two surroundings, all evaluations do.
-/

namespace PredicateRules

/-- The objects and the functions of both answer alike. -/
structure Host.Agrees (host other : Host) : Prop where
  valueForKey : host.valueForKey = other.valueForKey
  call : host.call = other.call
  performs : host.performs = other.performs

theorem Host.agrees_self (host : Host) : host.Agrees host := ⟨rfl, rfl, rfl⟩

theorem Host.Agrees.symm {host other : Host} (agrees : host.Agrees other) : other.Agrees host :=
  ⟨agrees.valueForKey.symm, agrees.call.symm, agrees.performs.symm⟩

theorem Host.Agrees.trans {host other third : Host} (agrees : host.Agrees other)
    (further : other.Agrees third) : host.Agrees third :=
  ⟨agrees.valueForKey.trans further.valueForKey, agrees.call.trans further.call,
    agrees.performs.trans further.performs⟩

/-- What the host answers where all objects and functions that it is asked for, or handed, are allowed. -/
inductive Host.Answers (host : Host) (allowed : Value → Prop) : Evaluated Value → Prop where
  | valueForKey {number : Nat} (key : String) :
    allowed (.object (.host number)) → Answers host allowed (host.valueForKey number key)
  | call {number : Nat} {arguments : List Value} :
    allowed (.function number) → Value.EachWithin allowed arguments →
    Answers host allowed (host.call number arguments)
  | performs {number : Nat} {performs : String → List Value → Evaluated Value} (selector : String)
    {arguments : List Value} :
    allowed (.object (.host number)) → host.performs number = some performs →
    Value.EachWithin allowed arguments → Answers host allowed (performs selector arguments)

/-- The objects and the functions of both answer alike, wherever they are asked. -/
def Program.Agrees (program other : Program) : Prop :=
  ∀ places others, (program.host places).Agrees (other.host others)

/-- What the program answers with, asked for what is allowed, is allowed as well. -/
structure Program.Keeps (program : Program) (allowed : Value → Prop) : Prop where
  answers {places : List Site} {result : Evaluated Value} {value : Value} :
    (program.host places).Answers allowed result → result = .ok value → value.Within allowed

/-- The program fails with this cause where it is asked for what is allowed. -/
def Program.Raises (program : Program) (allowed : Value → Prop) (cause : EvalError) : Prop :=
  ∃ places, (program.host places).Answers allowed (.error cause)

namespace Expression

def Holds (allowed : Value → Prop) : Expression → Prop
  | .constant value => value.Within allowed
  | _ => True

theorem holds_of_all {allowed : Value → Prop} (all : ∀ value, allowed value) (part : Expression) :
    part.Holds allowed := by
  cases part with
  | constant value => exact Value.within_of_all all value
  | _ => trivial

end Expression

theorem Expression.Timeless.compute_congr {function : Builtin} {arguments : List Expression}
    (timeless : (call function arguments).Timeless) (host other : Host) (values : List Value) :
    function.compute host values = function.compute other values :=
  Builtin.compute_congr timeless.1 timeless.2 values

/-- A relation between computations with the same result that what an evaluation is made of keeps. -/
structure Correspondence (m n : Type → Type) [Monad m] [MonadLiftT Evaluated m] [Monad n]
    [MonadLiftT Evaluated n] where
  Relates : {α : Type} → (α → Prop) → m α → n α → Prop
  returns {α : Type} {property : α → Prop} {result : α} :
    property result → Relates property (pure result) (pure result)
  continues {α β : Type} {middle : β → Prop} {property : α → Prop} {first : m β} {other : n β}
    {next : β → m α} {otherNext : β → n α} :
    Relates middle first other →
    (∀ result, middle result → Relates property (next result) (otherNext result)) →
    Relates property (first >>= next) (other >>= otherNext)
  maps {α β : Type} {middle : β → Prop} {property : α → Prop} {first : m β} {other : n β}
    {change : β → α} :
    Relates middle first other → (∀ result, middle result → property (change result)) →
    Relates property (change <$> first) (change <$> other)
  computes {α : Type} {property : α → Prop} {result : Evaluated α} :
    result.Yields property → Relates property (liftM result) (liftM result)

namespace Correspondence

variable {m n : Type → Type} [Monad m] [MonadLiftT Evaluated m] [Monad n] [MonadLiftT Evaluated n]

/-- In both surroundings what is read and called corresponds, as long as all objects and functions are
allowed. -/
structure Surround (relation : Correspondence m n) (allowed : Value → Prop) (world : Surroundings m)
    (other : Surroundings n) : Prop where
  agrees (site : Site) : (world.host site).Agrees (other.host site)
  answers (site : Site) {result : Evaluated Value} : (world.host site).Answers allowed result →
    relation.Relates (Value.Within allowed) (liftM result) (liftM result)
  contextKey (site : Site) (number : Nat) (origin : Origin) (key : String) :
    allowed (.object (.context number origin)) →
    relation.Relates (Value.Within allowed) (world.contextKey site number key)
      (other.contextKey site number key)

/-- What is asked of the parts of an expression that are evaluated for one object here and for
another one there. -/
def Suits (relation : Correspondence m n) (allowed : Value → Prop) (world : Surroundings m)
    (other : Surroundings n) (object otherObject : Value) : Expression → Prop
  | .constant value => value.Within allowed
  | .selfReference => object = otherObject ∧ object.Within allowed
  | .keyPath path => ∀ site, relation.Relates (Value.Within allowed)
      (KeyPath.resolve world site path object) (KeyPath.resolve other site path otherObject)
  | .call function _ => ∀ site arguments,
      function.compute (world.host site) arguments = function.compute (other.host site) arguments
  | _ => True

variable {relation : Correspondence m n} {allowed : Value → Prop} {world : Surroundings m}
  {other : Surroundings n}

theorem fails {α : Type} {property : α → Prop} {cause : EvalError}
    (kind : cause.ofInference = false) :
    relation.Relates property (liftM (.error cause : Evaluated α))
      (liftM (.error cause : Evaluated α)) :=
  relation.computes kind

theorem Surround.within (surround : relation.Surround allowed world other) (step : Step) :
    relation.Surround allowed (world.within step) (other.within step) where
  agrees site := surround.agrees (site ++ [step])
  answers site := surround.answers (site ++ [step])
  contextKey site := surround.contextKey (site ++ [step])

theorem suits_within {object otherObject : Value} {part : Expression}
    (suits : relation.Suits allowed world other object otherObject part) (step : Step) :
    relation.Suits allowed (world.within step) (other.within step) object otherObject part := by
  cases part with
  | keyPath path =>
      intro site
      rw [KeyPath.resolve_within, KeyPath.resolve_within]
      exact suits (site ++ [step])
  | call function arguments => exact fun site => suits (site ++ [step])
  | _ => exact suits

section

variable (surround : relation.Surround allowed world other)

include surround

theorem hostKey {number : Nat} (within : allowed (.object (.host number))) (site : Site)
    (key : String) : relation.Relates (Value.Within allowed)
      (liftM ((world.host site).valueForKey number key))
      (liftM ((other.host site).valueForKey number key)) := by
  rw [← (surround.agrees site).valueForKey]
  exact surround.answers site (.valueForKey key within)

theorem hostCall {number : Nat} (within : allowed (.function number)) (site : Site)
    {arguments : List Value} (withinEach : Value.EachWithin allowed arguments) :
    relation.Relates (Value.Within allowed) (liftM ((world.host site).call number arguments))
      (liftM ((other.host site).call number arguments)) := by
  rw [← (surround.agrees site).call]
  exact surround.answers site (.call within withinEach)

theorem valueForKey {reference : Object} (within : allowed (.object reference)) (site : Site)
    (key : String) : relation.Relates (Value.Within allowed) (world.valueForKey site reference key)
      (other.valueForKey site reference key) := by
  cases reference with
  | host number => exact hostKey surround within site key
  | context number origin => exact surround.contextKey site number origin key within

theorem callHeld {reference : Object} (within : allowed (.object reference)) (site : Site)
    (selector : String) {arguments : List Value} (withinEach : Value.EachWithin allowed arguments) :
    relation.Relates (Value.Within allowed) (world.callHeld site reference selector arguments)
      (other.callHeld site reference selector arguments) := by
  refine relation.continues (valueForKey surround within site selector) fun value withinValue => ?_
  cases value with
  | function number => exact hostCall surround withinValue site withinEach
  | _ => exact fails rfl

theorem perform {reference : Object} (within : allowed (.object reference)) (site : Site)
    (selector : String) {arguments : List Value} (withinEach : Value.EachWithin allowed arguments) :
    relation.Relates (Value.Within allowed) (world.perform site reference selector arguments)
      (other.perform site reference selector arguments) := by
  unfold Surroundings.perform
  cases reference with
  | context number origin => exact callHeld surround within site selector withinEach
  | host number =>
      dsimp only
      rw [← (surround.agrees site).performs]
      cases own : (world.host site).performs number with
      | none => exact callHeld surround within site selector withinEach
      | some performs => exact surround.answers site (.performs selector within own withinEach)

theorem invoke {target : Value} (within : target.Within allowed) (site : Site) (selector : String)
    {arguments : List Value} (withinEach : Value.EachWithin allowed arguments) :
    relation.Relates (Value.Within allowed) (world.invoke site target selector arguments)
      (other.invoke site target selector arguments) := by
  cases target with
  | object reference => exact perform surround within site selector withinEach
  | map entries =>
      unfold Surroundings.invoke
      dsimp only
      cases found : Value.entry? selector entries with
      | none => exact fails rfl
      | some value =>
          have withinValue := Value.within_of_entry? within found
          cases value with
          | function number => exact hostCall surround withinValue site withinEach
          | _ => exact fails rfl
  | _ => exact fails rfl

end

mutual

theorem resolveNamed (surround : relation.Surround allowed world other) (key : String)
    (site : Site) : (value : Value) → value.Within allowed →
    relation.Relates (Value.Within allowed) (KeyPath.resolveNamed world key site value)
      (KeyPath.resolveNamed other key site value)
  | .list items, within | .set items, within => by
      unfold KeyPath.resolveNamed
      exact relation.maps (resolveEach surround key site 0 items within) fun _ each => each
  | .map entries, within => by
      unfold KeyPath.resolveNamed
      exact relation.returns (Value.within_getD fun _ found => Value.within_of_entry? within found)
  | .object reference, within => by
      unfold KeyPath.resolveNamed
      refine relation.continues (valueForKey surround within site key) fun value withinValue => ?_
      cases value with
      | function number => exact hostCall surround withinValue site trivial
      | _ => exact relation.returns withinValue
  | .null, _ | .bool _, _ | .int _, _ | .float _, _ | .string _, _ | .dateTime _, _
  | .function _, _ => by
      unfold KeyPath.resolveNamed
      exact relation.returns trivial

theorem resolveEach (surround : relation.Surround allowed world other) (key : String)
    (site : Site) (position : Nat) : (items : List Value) → Value.EachWithin allowed items →
    relation.Relates (Value.EachWithin allowed) (KeyPath.resolveEach world key site position items)
      (KeyPath.resolveEach other key site position items)
  | [], _ => by
      unfold KeyPath.resolveEach
      exact relation.returns trivial
  | item :: items, within => by
      unfold KeyPath.resolveEach
      refine relation.continues (resolveNamed surround key (position :: site) item within.1)
        fun _ first => ?_
      refine relation.continues (resolveEach surround key site (position + 1) items within.2)
        fun _ rest => ?_
      exact relation.returns ⟨first, rest⟩

end

section

variable (surround : relation.Surround allowed world other)

include surround

theorem resolveKey (site : Site) (key : String) {value : Value} (within : value.Within allowed) :
    relation.Relates (Value.Within allowed) (KeyPath.resolveKey world site key value)
      (KeyPath.resolveKey other site key value) := by
  unfold KeyPath.resolveKey
  split
  · exact relation.returns trivial
  · exact resolveNamed surround key site value within

theorem resolveKeys (site : Site) (keys : List (List Char)) {value : Value}
    (within : value.Within allowed) :
    relation.Relates (Value.Within allowed)
      (keys.foldlM (fun reached key => KeyPath.resolveKey world site (String.ofList key) reached) value)
      (keys.foldlM (fun reached key => KeyPath.resolveKey other site (String.ofList key) reached)
        value) := by
  induction keys generalizing value with
  | nil => exact relation.returns within
  | cons key keys ih =>
      rw [List.foldlM_cons, List.foldlM_cons]
      exact relation.continues (resolveKey surround site _ within) fun _ reached => ih reached

theorem resolve (site : Site) (path : String) {value : Value} (within : value.Within allowed) :
    relation.Relates (Value.Within allowed) (KeyPath.resolve world site path value)
      (KeyPath.resolve other site path value) :=
  resolveKeys surround site _ within

theorem subscript (site : Site) (function : Builtin) {target index : Value}
    (within : target.Within allowed) :
    relation.Relates (Value.Within allowed) (function.subscript world site target index)
      (function.subscript other site target index) := by
  unfold Builtin.subscript
  split
  · exact relation.returns (Value.within_getD fun _ found => Value.within_of_entry? within found)
  · exact valueForKey surround within site _
  · exact relation.computes (Builtin.elementBy_yields within)

theorem call (site : Site) (function : Builtin) {arguments : List Value}
    (within : Value.EachWithin allowed arguments)
    (same : function.compute (world.host site) arguments = function.compute (other.host site) arguments) :
    relation.Relates (Value.Within allowed) (function.call world site arguments)
      (function.call other site arguments) := by
  unfold Builtin.call
  split
  · exact subscript surround site _ within.1
  · exact subscript surround site _ within.1
  · exact resolve surround site _ within.1
  · rw [same]
    exact relation.computes (Builtin.compute_yields within)

end

theorem resolveKey_context (surround : relation.Surround allowed world other) (site : Site)
    (key : String) {number otherNumber : Nat} {origin otherOrigin : Origin}
    (read : relation.Relates (Value.Within allowed) (world.contextKey site number key)
      (other.contextKey site otherNumber key)) :
    relation.Relates (Value.Within allowed)
      (KeyPath.resolveKey world site key (.object (.context number origin)))
      (KeyPath.resolveKey other site key (.object (.context otherNumber otherOrigin))) := by
  unfold KeyPath.resolveKey
  split
  · exact relation.returns trivial
  · unfold KeyPath.resolveNamed
    refine relation.continues read fun value within => ?_
    cases value with
    | function number => exact hostCall surround within site trivial
    | _ => exact relation.returns within

theorem resolve_of_first (surround : relation.Surround allowed world other) (site : Site)
    (path : String) {object otherObject : Value}
    (first : ∀ key ∈ (KeyPath.components path.toList).head?,
      relation.Relates (Value.Within allowed)
        (KeyPath.resolveKey world site (String.ofList key) object)
        (KeyPath.resolveKey other site (String.ofList key) otherObject)) :
    relation.Relates (Value.Within allowed) (KeyPath.resolve world site path object)
      (KeyPath.resolve other site path otherObject) := by
  unfold KeyPath.resolve
  cases keys : KeyPath.components path.toList with
  | nil => exact absurd keys (KeyPath.components_ne_nil _)
  | cons key rest =>
      rw [List.foldlM_cons, List.foldlM_cons]
      refine relation.continues (first key (by rw [keys]; rfl)) fun _ reached => ?_
      exact resolveKeys surround site rest reached

/-- One object suits the expressions that hold what is allowed, but for calls that come out
differently. -/
theorem suits_of_holds (surround : relation.Surround allowed world other) {object : Value}
    (within : object.Within allowed) {part : Expression} (holds : part.Holds allowed)
    (calls : ∀ function arguments, part = .call function arguments → ∀ site values,
      function.compute (world.host site) values = function.compute (other.host site) values) :
    relation.Suits allowed world other object object part := by
  cases part with
  | constant value => exact holds
  | selfReference => exact ⟨rfl, within⟩
  | keyPath path => exact fun site => resolve surround site path within
  | call function arguments => exact calls function arguments rfl
  | _ => trivial

/-- Where everything is allowed, one object suits all expressions but for such calls. -/
theorem suits_of_calls (surround : relation.Surround allowed world other)
    (all : ∀ value, allowed value) (object : Value) {part : Expression}
    (calls : ∀ function arguments, part = .call function arguments → ∀ site values,
      function.compute (world.host site) values = function.compute (other.host site) values) :
    relation.Suits allowed world other object object part :=
  suits_of_holds surround (Value.within_of_all all object) (part.holds_of_all all) calls

section

variable {object otherObject : Value}

mutual

theorem evaluate (surround : relation.Surround allowed world other) :
    (expression : Expression) →
    (∀ part ∈ expression.parts, relation.Suits allowed world other object otherObject part) →
    ∀ site, relation.Relates (Value.Within allowed) (expression.evaluate world object site)
      (expression.evaluate other otherObject site)
  | .constant value, suits, site => by
      unfold Expression.evaluate
      exact relation.returns (suits (.constant value) (by simp [Expression.parts]))
  | .selfReference, suits, site => by
      unfold Expression.evaluate
      obtain ⟨rfl, within⟩ := suits .selfReference (by simp [Expression.parts])
      exact relation.returns within
  | .variable name, _, site => by
      unfold Expression.evaluate
      exact relation.returns trivial
  | .keyPath path, suits, site => by
      unfold Expression.evaluate
      exact suits (.keyPath path) (by simp [Expression.parts]) site
  | .call function arguments, suits, site => by
      unfold Expression.evaluate
      have same := suits (.call function arguments) (by simp [Expression.parts])
      refine relation.continues (evaluateEach surround arguments
        (fun part member => suits part (by simp [Expression.parts, member])) site 2) ?_
      exact fun values within => call surround (0 :: site) function within (same (0 :: site) values)
  | .custom operand selector arguments, suits, site => by
      unfold Expression.evaluate
      refine relation.continues (evaluate surround operand
        (fun part member => suits part (by simp [Expression.parts, member])) (1 :: site)) ?_
      intro target withinTarget
      refine relation.continues (evaluateEach surround arguments
        (fun part member => suits part (by simp [Expression.parts, member])) site 2) ?_
      exact fun values within => invoke surround withinTarget (0 :: site) selector within
  | .aggregate items, suits, site => by
      unfold Expression.evaluate
      exact relation.maps (evaluateEach surround items
        (fun part member => suits part (by simp [Expression.parts, member])) site 2) fun _ each => each
  | .set operation left right, suits, site => by
      unfold Expression.evaluate
      refine relation.continues (evaluate surround left
        (fun part member => suits part (by simp [Expression.parts, member])) (2 :: site)) ?_
      intro leftValue withinLeft
      cases leftValue with
      | set elements =>
          refine relation.continues (evaluate surround right
            (fun part member => suits part (by simp [Expression.parts, member])) (3 :: site)) ?_
          exact fun _ withinRight =>
            relation.computes (SetOperation.evaluate_yields withinLeft withinRight)
      | _ => exact relation.returns trivial

theorem evaluateEach (surround : relation.Surround allowed world other) :
    (items : List Expression) →
    (∀ part ∈ Expression.partsOfEach items,
      relation.Suits allowed world other object otherObject part) →
    ∀ site position, relation.Relates (Value.EachWithin allowed)
      (Expression.evaluateEach world object site position items)
      (Expression.evaluateEach other otherObject site position items)
  | [], _, site, position => by
      unfold Expression.evaluateEach
      exact relation.returns trivial
  | item :: items, suits, site, position => by
      unfold Expression.evaluateEach
      refine relation.continues (evaluate surround item
        (fun part member => suits part (by simp [Expression.partsOfEach, member])) (position :: site)) ?_
      intro _ first
      refine relation.continues (evaluateEach surround items
        (fun part member => suits part (by simp [Expression.partsOfEach, member])) site (position + 1)) ?_
      exact fun _ rest => relation.returns ⟨first, rest⟩

end

theorem evaluateComparison (surround : relation.Surround allowed world other)
    (comparison : Comparison)
    (suits : ∀ part ∈ (Predicate.comparison comparison).expressions,
      relation.Suits allowed world other object otherObject part) :
    relation.Relates (fun _ => True) (comparison.evaluate world object)
      (comparison.evaluate other otherObject) := by
  unfold Comparison.evaluate
  refine relation.continues (evaluate surround comparison.left
    (fun part member => suits part (by simp [Predicate.expressions, member])) [0]) fun _ _ => ?_
  refine relation.continues (evaluate surround comparison.right
    (fun part member => suits part (by simp [Predicate.expressions, member])) [1]) fun _ _ => ?_
  exact relation.computes Comparison.decide_yields

mutual

theorem evaluatePredicate {world : Surroundings m} {other : Surroundings n}
    (surround : relation.Surround allowed world other) :
    (predicate : Predicate) →
    (∀ part ∈ predicate.expressions, relation.Suits allowed world other object otherObject part) →
    relation.Relates (fun _ => True) (predicate.evaluate world object)
      (predicate.evaluate other otherObject)
  | .value holds, _ => by
      unfold Predicate.evaluate
      exact relation.returns trivial
  | .comparison comparison, suits => by
      unfold Predicate.evaluate
      exact evaluateComparison surround comparison suits
  | .compound .not parts, suits => by
      unfold Predicate.evaluate
      exact evaluateNone surround parts suits
  | .compound .and parts, suits => by
      unfold Predicate.evaluate
      exact evaluateAll surround parts suits
  | .compound .or parts, suits => by
      unfold Predicate.evaluate
      exact evaluateAny surround parts suits

theorem evaluateNone {world : Surroundings m} {other : Surroundings n}
    (surround : relation.Surround allowed world other) :
    (parts : List Predicate) →
    (∀ part ∈ Predicate.expressionsOfEach parts,
      relation.Suits allowed world other object otherObject part) →
    relation.Relates (fun _ => True) (Predicate.evaluateNone world object parts)
      (Predicate.evaluateNone other otherObject parts)
  | [], _ => by
      unfold Predicate.evaluateNone
      exact relation.returns trivial
  | part :: parts, suits => by
      unfold Predicate.evaluateNone
      refine relation.continues (evaluatePredicate (surround.within .condition) part
        fun expression member => suits_within (suits expression
          (by simp [Predicate.expressionsOfEach, member])) _) ?_
      exact fun _ _ => relation.returns trivial

theorem evaluateAll {world : Surroundings m} {other : Surroundings n}
    (surround : relation.Surround allowed world other) :
    (parts : List Predicate) →
    (∀ part ∈ Predicate.expressionsOfEach parts,
      relation.Suits allowed world other object otherObject part) →
    relation.Relates (fun _ => True) (Predicate.evaluateAll world object parts)
      (Predicate.evaluateAll other otherObject parts)
  | [], _ => by
      unfold Predicate.evaluateAll
      exact relation.returns trivial
  | part :: parts, suits => by
      unfold Predicate.evaluateAll
      refine relation.continues (evaluatePredicate (surround.within .condition) part
        fun expression member => suits_within (suits expression
          (by simp [Predicate.expressionsOfEach, member])) _) ?_
      intro holds _
      cases holds with
      | true =>
          exact evaluateAll (surround.within .otherConditions) parts fun expression member =>
            suits_within (suits expression (by simp [Predicate.expressionsOfEach, member])) _
      | false => exact relation.returns trivial

theorem evaluateAny {world : Surroundings m} {other : Surroundings n}
    (surround : relation.Surround allowed world other) :
    (parts : List Predicate) →
    (∀ part ∈ Predicate.expressionsOfEach parts,
      relation.Suits allowed world other object otherObject part) →
    relation.Relates (fun _ => True) (Predicate.evaluateAny world object parts)
      (Predicate.evaluateAny other otherObject parts)
  | [], _ => by
      unfold Predicate.evaluateAny
      exact relation.returns trivial
  | part :: parts, suits => by
      unfold Predicate.evaluateAny
      refine relation.continues (evaluatePredicate (surround.within .condition) part
        fun expression member => suits_within (suits expression
          (by simp [Predicate.expressionsOfEach, member])) _) ?_
      intro holds _
      cases holds with
      | true => exact relation.returns trivial
      | false =>
          exact evaluateAny (surround.within .otherConditions) parts fun expression member =>
            suits_within (suits expression (by simp [Predicate.expressionsOfEach, member])) _

end

theorem fireFirstOf (surround : relation.Surround allowed world other) {rules : List Rule}
    (suits : ∀ rule ∈ rules, ∀ part ∈ rule.expressions,
      relation.Suits allowed world other object otherObject part) :
    relation.Relates (Value.FoundWithin allowed)
      (Model.fireFirstOf world object rules) (Model.fireFirstOf other otherObject rules) := by
  induction rules generalizing world other with
  | nil => exact relation.returns fun _ none => nomatch none
  | cons rule rules ih =>
      have own := suits rule (by simp)
      refine relation.continues (evaluatePredicate (surround.within .condition) rule.specifier
        fun part member => suits_within (own part (by simp [Rule.expressions, member])) _) ?_
      intro holds _
      cases holds with
      | true =>
          refine relation.continues (evaluate surround rule.value (fun part member =>
            own part (by simp [Rule.expressions, member])) []) ?_
          intro value within
          exact relation.returns fun _ found => Option.some.inj found ▸ within
      | false =>
          exact ih (surround.within .otherRules) fun other member part inside =>
            suits_within (suits other (by simp [member]) part inside) _

theorem fireAllOf (surround : relation.Surround allowed world other) {rules : List Rule}
    (suits : ∀ rule ∈ rules, ∀ part ∈ rule.expressions,
      relation.Suits allowed world other object otherObject part) :
    relation.Relates (Value.EachWithin allowed) (Model.fireAllOf world object rules)
      (Model.fireAllOf other otherObject rules) := by
  induction rules generalizing world other with
  | nil => exact relation.returns trivial
  | cons rule rules ih =>
      have own := suits rule (by simp)
      have further := ih (surround.within .otherRules) fun other member part inside =>
        suits_within (suits other (by simp [member]) part inside) _
      refine relation.continues (evaluatePredicate (surround.within .condition) rule.specifier
        fun part member => suits_within (own part (by simp [Rule.expressions, member])) _) ?_
      intro holds _
      cases holds with
      | true =>
          refine relation.continues (evaluate surround rule.value (fun part member =>
            own part (by simp [Rule.expressions, member])) []) ?_
          intro value within
          exact relation.continues further fun _ rest => relation.returns ⟨within, rest⟩
      | false => exact further

end

theorem read {relation : Correspondence Evaluated Evaluated} {contexts other : Contexts}
    {number otherNumber : Nat} {key : String}
    {infer otherInfer : Nat → String → Evaluated (Option Value)}
    (same : other.value? otherNumber key = contexts.value? number key)
    (stored : ∀ value ∈ contexts.value? number key, value.Within allowed)
    (infers : relation.Relates (Value.FoundWithin allowed) (infer number key)
      (otherInfer otherNumber key)) :
    relation.Relates (Value.Within allowed) (contexts.read infer number key)
      (other.read otherInfer otherNumber key) := by
  unfold Contexts.read
  rw [same]
  cases held : contexts.value? number key with
  | some value => exact relation.returns (stored value held)
  | none =>
      exact relation.continues infers fun _ within => relation.returns (Value.within_getD within)

end Correspondence

end PredicateRules
