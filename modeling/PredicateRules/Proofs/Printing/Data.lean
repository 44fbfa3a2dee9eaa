import PredicateRules.Expression.Evaluation
import PredicateRules.Proofs.Printing.ReadingBack

namespace PredicateRules

namespace Value

/-- The value is data that a literal can stand for: there is none for the least integer, and none for
a string that holds both quotation marks. -/
inductive IsData : Value → Prop where
  | null : IsData .null
  | bool (value : Bool) : IsData (.bool value)
  | int {number : Int64} (notLeast : number ≠ Int64.minValue) : IsData (.int number)
  | string {text : String} (quotable : '"' ∉ text.toList ∨ '\'' ∉ text.toList) : IsData (.string text)
  | list {items : List Value} (each : ∀ item ∈ items, IsData item) : IsData (.list items)

mutual

/-- The expression that the text of data is read as. -/
def literal : Value → Expression
  | list items => .aggregate (literals items)
  | value => .constant value

def literals : List Value → List Expression
  | [] => []
  | item :: items => literal item :: literals items

end

end Value

namespace Parse

variable {caseSensitive : Bool} {describe : Object → String} {value : Value}

theorem closeEach_literals {items : List Value}
    (closes : ∀ item ∈ items, Closes caseSensitive (item.text describe).toList item.literal) :
    CloseEach caseSensitive ((Value.texts describe items).map String.toList) (Value.literals items) := by
  induction items with
  | nil => exact .nil
  | cons item items ih =>
      rw [Value.texts, Value.literals, List.map_cons]
      refine .cons (closes item List.mem_cons_self) (ih fun other member => ?_)
      exact closes other (List.mem_cons_of_mem item member)

/-- Wherever the text of data stands as an operand, it is read as the literal and nothing more. -/
theorem denotes_data (data : value.IsData) :
    Denotes caseSensitive (value.text describe).toList value.literal := by
  induction data with
  | null =>
      have printed : ("NULL", Expression.constant .null) ∈ printedWords := by simp [printedWords]
      exact denotes_printedWord printed
  | bool value =>
      have printed : ((Value.bool value).text describe, Expression.constant (.bool value)) ∈ printedWords := by
        cases value <;> simp [printedWords, Value.text]
      exact denotes_printedWord printed
  | int notLeast => exact denotes_int notLeast
  | string quotable => exact denotes_string quotable
  | list _ ih =>
      rw [Value.text, toList_inBraces]
      exact denotes_aggregate (closeEach_literals fun item member => (ih item member).closes)

end Parse

namespace Expression

variable {m : Type → Type} [Monad m] [LawfulMonad m] [MonadLiftT Evaluated m] (world : Surroundings m)
  (object : Value)

theorem evaluateEach_literals {items : List Value}
    (each : ∀ item ∈ items, ∀ site, item.literal.evaluate world object site = pure item) (site : Site)
    (position : Nat) : evaluateEach world object site position (Value.literals items) = pure items := by
  induction items generalizing position with
  | nil => rfl
  | cons item items ih =>
      have first := each item List.mem_cons_self (position :: site)
      have others := ih (fun other member => each other (List.mem_cons_of_mem item member)) (position + 1)
      rw [Value.literals, evaluateEach, first, others, pure_bind, pure_bind]

theorem evaluate_literal {value : Value} (data : value.IsData) (site : Site) :
    value.literal.evaluate world object site = pure value := by
  induction data generalizing site with
  | list _ ih =>
      rw [Value.literal, evaluate, evaluateEach_literals world object ih, map_pure]
  | _ => rfl

/-- The text of data is accepted, and what is read from it has exactly the data as its value. -/
theorem parse_data {value : Value} (data : value.IsData) (describe : Object → String)
    (arguments : List Value) (caseSensitive : Bool) :
    ∃ tree, parse (value.text describe) arguments caseSensitive = .ok tree ∧
      ∀ {m : Type → Type} [Monad m] [LawfulMonad m] [MonadLiftT Evaluated m] (world : Surroundings m)
        (object : Value) (site : Site), tree.evaluate world object site = pure value := by
  refine ⟨value.literal, parse_of_nests (Parse.denotes_data data).closes.nests, ?_⟩
  intro m _ _ _ world object site
  exact evaluate_literal world object data site

/-- A signed number, and strings that hold separators, braces, a line break, words and a quotation mark. -/
theorem parse_data_nested :
    let value := Value.list [.int (-5), .list [.string "it's, \x7bTRUE\x7d\n", .null],
      .string "say \"NO\" ", .list []]
    value.IsData ∧ ∃ tree, parse (value.text fun _ => "") [] false = .ok tree ∧
      ∀ {m : Type → Type} [Monad m] [LawfulMonad m] [MonadLiftT Evaluated m] (world : Surroundings m)
        (object : Value) (site : Site), tree.evaluate world object site = pure value := by
  have inner : (Value.list [.string "it's, \x7bTRUE\x7d\n", .null]).IsData := by
    refine .list (List.forall_mem_cons.mpr ⟨.string (by decide), ?_⟩)
    exact List.forall_mem_cons.mpr ⟨.null, nofun⟩
  have data : (Value.list [.int (-5), .list [.string "it's, \x7bTRUE\x7d\n", .null],
      .string "say \"NO\" ", .list []]).IsData := by
    refine .list (List.forall_mem_cons.mpr ⟨.int (by decide), ?_⟩)
    refine List.forall_mem_cons.mpr ⟨inner, List.forall_mem_cons.mpr ⟨.string (by decide), ?_⟩⟩
    exact List.forall_mem_cons.mpr ⟨.list nofun, nofun⟩
  exact ⟨data, parse_data data (fun _ => "") [] false⟩

end Expression

end PredicateRules
