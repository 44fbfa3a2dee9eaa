import PredicateRules.Proofs.ModelHistory

namespace PredicateRules

namespace Expression

mutual

def parts : Expression → List Expression
  | constant value => [constant value]
  | selfReference => [selfReference]
  | .variable name => [.variable name]
  | keyPath path => [keyPath path]
  | call function arguments => call function arguments :: partsOfEach arguments
  | custom operand selector arguments =>
    custom operand selector arguments :: (parts operand ++ partsOfEach arguments)
  | aggregate items => aggregate items :: partsOfEach items
  | set operation left right => set operation left right :: (parts left ++ parts right)

def partsOfEach : List Expression → List Expression
  | [] => []
  | item :: items => parts item ++ partsOfEach items

end

end Expression

namespace Predicate

mutual

def expressions : Predicate → List Expression
  | value _ => []
  | comparison inner => inner.left.parts ++ inner.right.parts
  | compound _ inner => expressionsOfEach inner

def expressionsOfEach : List Predicate → List Expression
  | [] => []
  | part :: parts => expressions part ++ expressionsOfEach parts

end

theorem mem_expressionsOfEach {parts : List Predicate} {expression : Expression} :
    expression ∈ expressionsOfEach parts ↔ ∃ part ∈ parts, expression ∈ part.expressions := by
  induction parts with
  | nil => simp [expressionsOfEach]
  | cons part parts ih => simp [expressionsOfEach, ih]

theorem mem_expressions_partsIn (kind : CompoundKind) (predicate : Predicate) {expression : Expression} :
    (∃ part ∈ predicate.partsIn kind, expression ∈ part.expressions) ↔
      expression ∈ predicate.expressions := by
  unfold partsIn
  cases found : predicate.partsOf? kind with
  | some parts =>
      obtain rfl := eq_compound_of_partsOf? found
      exact mem_expressionsOfEach.symm
  | none => simp

theorem mem_expressions_fold {kind : CompoundKind} {left right : Predicate} {expression : Expression} :
    expression ∈ (fold kind left right).expressions ↔
      expression ∈ left.expressions ∨ expression ∈ right.expressions := by
  rw [← mem_expressions_partsIn kind left, ← mem_expressions_partsIn kind right]
  rcases fold_eq kind left right with same | same
  · rw [same, expressions, mem_expressionsOfEach]
    simp only [List.mem_append, or_and_right, exists_or]
  · rw [same, expressions, mem_expressionsOfEach, or_comm]
    simp only [List.mem_append, or_and_right, exists_or]

end Predicate

def Rule.expressions (rule : Rule) : List Expression := rule.specifier.expressions ++ rule.value.parts

/-- All expressions in the rules that can fire have the property. -/
def Model.Everywhere (model : Model) (property : Expression → Prop) : Prop :=
  ∀ key, ∀ bucket ∈ model.candidates? key, ∀ rule ∈ bucket, ∀ part ∈ rule.expressions, property part

/-- The expression itself asks neither for the time nor for a random number. -/
def Expression.Timeless : Expression → Prop
  | .call function _ => function ≠ .now ∧ function ≠ .random
  | _ => True

instance : DecidablePred Expression.Timeless
  | .call function _ => inferInstanceAs (Decidable (function ≠ .now ∧ function ≠ .random))
  | .constant _ | .selfReference | .variable _ | .keyPath _ | .custom _ _ _ | .aggregate _ | .set _ _ _ =>
    .isTrue trivial

/-- The expression itself is not the object that it is evaluated for. -/
def Expression.Selfless : Expression → Prop
  | .selfReference => False
  | _ => True

namespace Model

/-- A rule for the one key reads the other one first in some key path. -/
def Reads (model : Model) (key first : String) : Prop :=
  ∃ bucket ∈ model.candidates? key, ∃ rule ∈ bucket, ∃ path, .keyPath path ∈ rule.expressions ∧
    ∃ component ∈ (KeyPath.components path.toList).head?, first = String.ofList component

theorem Everywhere.candidates {model : Model} {property : Expression → Prop}
    (everywhere : model.Everywhere property) (key : String) :
    ∀ rule ∈ (model.candidates? key).getD [], ∀ part ∈ rule.expressions, property part := by
  cases found : model.candidates? key with
  | none => exact fun rule member => (List.not_mem_nil member).elim
  | some bucket => exact everywhere key bucket found

theorem everywhere_build {rules : List Rule} {bindings : Bindings} {property : Expression → Prop} :
    (build rules bindings).Everywhere property ↔
      ∀ rule ∈ rules, ∀ part ∈ (rule.substitute bindings).expressions, property part := by
  constructor
  · intro everywhere rule member
    refine everywhere rule.key _ ((candidates?_build rules bindings rule.key).trans
      (if_pos ⟨rule, member, rfl⟩)) _ ?_
    refine (RuleIndex.bucketOf_perm _).mem_iff.mpr (List.mem_map_of_mem ?_)
    exact List.mem_filter.mpr ⟨member, beq_self_eq_true _⟩
  · intro each key bucket found rule member
    rw [candidates?_build, Option.mem_def] at found
    obtain ⟨_, same⟩ := Option.ite_none_right_eq_some.mp found
    obtain rfl := Option.some.inj same
    obtain ⟨declared, listed, rfl⟩ := List.mem_map.mp ((RuleIndex.bucketOf_perm _).mem_iff.mp member)
    exact each declared (List.mem_filter.mp listed).1

end Model

end PredicateRules
