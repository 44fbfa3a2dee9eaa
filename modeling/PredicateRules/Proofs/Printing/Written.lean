import PredicateRules.Proofs.Printing.Constant
import PredicateRules.Proofs.Progress.Expression

namespace PredicateRules

/-- There is a literal that is read as the value. -/
def Value.IsLiteral : Value → Prop
  | .null | .bool _ | .float _ => True
  | .int number => number ≠ Int64.minValue
  | .string text => '"' ∉ text.toList ∨ '\'' ∉ text.toList
  | _ => False

namespace Expression

/-- The expression can be read from a text. -/
inductive Written : Expression → Prop where
  | constant {value : Value} (literal : value.IsLiteral) : Written (.constant value)
  | selfReference : Written .selfReference
  | variableName {name : String} (named : KeyPath.IsName name.toList) : Written (.variable name)
  | keyPath {path : String} (written : KeyPath.Written path.toList) : Written (.keyPath path)
  | call {function : Builtin} {arguments : List Expression}
      (written : ∀ argument ∈ arguments, Written argument) : Written (.call function arguments)
  | custom {operand : Expression} {selector : String} {arguments : List Expression}
      (writtenOperand : Written operand) (written : ∀ argument ∈ arguments, Written argument) :
      Written (.custom operand selector arguments)
  | aggregate {items : List Expression} (written : ∀ item ∈ items, Written item) :
      Written (.aggregate items)
  | set {operation : SetOperation} {left right : Expression} (writtenLeft : Written left)
      (writtenRight : Written right) : Written (.set operation left right)

theorem Written.path {path : String} (written : Written (.keyPath path)) : KeyPath.Written path.toList := by
  cases written with
  | keyPath written => exact written

theorem Written.negated {operand : Expression} (written : Written operand) :
    Written (Parse.negated operand) := by
  have call : Written (.call .changeSign [operand]) := .call (by simpa using written)
  unfold Parse.negated
  split
  next number =>
    split
    · exact call
    next notLeast =>
      refine .constant fun least => ?_
      have same : number = -Int64.minValue := by rw [← least, Int64.neg_neg]
      exact notLeast same
  next => exact .constant trivial
  next => exact call

end Expression

namespace Scanner

variable {scanner : Scanner}

theorem scanRun_some {wanted : CharClass} {found : List Char}
    (outcome : (scanner.scanRun wanted).1 = some found) :
    found ≠ [] ∧ ∀ character ∈ found, wanted character = true := by
  unfold scanRun at outcome
  split at outcome
  · cases outcome
  · dsimp only at outcome
    split at outcome
    · cases outcome
    next kept =>
      obtain rfl := Option.some.inj outcome
      refine ⟨kept, fun character member => ?_⟩
      exact List.mem_takeWhile_imp (List.mem_of_mem_filter member)

/-- Before the next occurrence of a literal there is no occurrence of it. -/
theorem not_mem_take_distanceTo {caseSensitive : Bool} {mark : Char} {text : List Char} :
    mark ∉ text.take (distanceTo caseSensitive [mark] text) := by
  induction text with
  | nil => simp
  | cons character text ih =>
      rw [distanceTo]
      split
      · simp
      next apart =>
        rw [List.take_succ_cons, List.mem_cons]
        rintro (rfl | member)
        · exact apart (by simp [startsWith, sameChar])
        · exact ih member

end Scanner

namespace Parse

theorem characters_yields (set : CharClass) (error : Location → ParseError) :
    Yields (characters set error) fun found => found ≠ [] ∧ ∀ character ∈ found, set character = true := by
  have scanned : Yields (scan fun scanner => scanner.scanCharacters set) fun found =>
      ∀ run ∈ found, run ≠ [] ∧ ∀ character ∈ run, set character = true := by
    intro parser found stop outcome run member
    cases outcome
    exact Scanner.scanRun_some member
  refine .bind scanned fun found holds => ?_
  cases found with
  | some run => exact .pure (holds run rfl)
  | none => exact .fail _

theorem identifier_yields : Yields identifier fun name => KeyPath.IsName name.toList := by
  refine .bind (characters_yields _ _) fun found holds => .pure ?_
  rw [String.toList_ofList]
  exact holds

theorem numericLiteral?_yields :
    Yields numericLiteral? fun found => ∀ value ∈ found, value.IsLiteral := by
  rw [numericLiteral?_eq]
  refine .bind (.anything _) fun found _ => ?_
  cases found with
  | none => exact .pure nofun
  | some numeral =>
      rw [Option.map_some, Numeral.value]
      cases whole : numeral.toInt64? with
      | none =>
          refine .pure fun value found => ?_
          obtain rfl := Option.some.inj found
          trivial
      | some number =>
          refine .pure fun value found => ?_
          obtain rfl := Option.some.inj found
          unfold Numeral.toInt64? at whole
          split at whole
          · split at whole
            next within => exact Option.some.inj whole ▸ Int64.ofNat_ne_minValue within
            next => cases whole
          · cases whole

theorem quotedBody_yields {word : String} {mark : Char} (single : word.toList = [mark]) (kind : String) :
    Yields (quotedBody word kind) fun text => mark ∉ text.toList := by
  have scanned : Yields (scan fun scanner => scanner.scanUpToLiteral word) fun body =>
      mark ∉ body.getD [] := by
    intro parser body stop outcome
    cases outcome
    rw [single]
    split
    · exact List.not_mem_nil
    · exact Scanner.not_mem_take_distanceTo
  refine .bind (.anything _) fun before _ => ?_
  refine .bind (.anything _) fun _ _ => ?_
  refine .bind scanned fun body holds => ?_
  refine .bind (.anything _) fun closed _ => ?_
  refine .bind (.anything _) fun _ _ => ?_
  cases closed with
  | true =>
      refine .pure ?_
      rw [String.toList_ofList]
      exact holds
  | false => exact .fail _

theorem quotedBy_yields {word : String} {mark : Char} (single : word.toList = [mark]) (kind : String) :
    Yields (quotedBy word kind) fun found =>
      ∀ constant ∈ found, ∃ text, constant = .constant (.string text) ∧ mark ∉ text.toList := by
  refine .bind (.anything _) fun met _ => ?_
  cases met with
  | true =>
      refine .bind (quotedBody_yields single kind) fun text holds => .pure fun constant found => ?_
      exact ⟨text, (Option.some.inj found).symm, holds⟩
  | false => exact .pure nofun

theorem quoted?_yields : Yields quoted? fun found => ∀ constant ∈ found, constant.Written := by
  refine .bind (quotedBy_yields rfl _) fun double holds => ?_
  cases double with
  | some string =>
      refine .pure fun constant found => ?_
      obtain ⟨text, rfl, unquoted⟩ := holds string rfl
      exact Option.some.inj found ▸ .constant (.inl unquoted)
  | none =>
      intro parser found stop outcome constant member
      obtain ⟨text, rfl, unquoted⟩ := quotedBy_yields rfl _ parser found stop outcome constant member
      exact .constant (.inr unquoted)

theorem selectorPart?_yields : Yields selectorPart? fun found =>
    ∀ part ∈ found, ∃ name, KeyPath.IsName name ∧ part = String.ofList (name ++ [':']) := by
  have scanned : Yields (scan fun scanner => scanner.scanCharacters CharClass.identifier) fun found =>
      ∀ name ∈ found, KeyPath.IsName name := by
    intro parser found stop outcome name member
    cases outcome
    exact Scanner.scanRun_some member
  refine .bind (.anything _) fun before _ => ?_
  refine .bind scanned fun found holds => ?_
  have back : Yields (do backTo before; return none) fun found : Option String =>
      ∀ part ∈ found, ∃ name, KeyPath.IsName name ∧ part = String.ofList (name ++ [':']) :=
    .bind (.anything _) fun _ _ => .pure nofun
  cases found with
  | none => exact back
  | some name =>
      refine .bind (.anything _) fun colon _ => ?_
      cases colon with
      | false => exact back
      | true =>
          refine .pure fun part found => ⟨name, holds name rfl, ?_⟩
          rw [String.ofList_append]
          exact (Option.some.inj found).symm

def Lengthens (path longer : String) : Prop :=
  ∃ parts : List (List Char), (∀ part ∈ parts, KeyPath.IsName part) ∧
    longer.toList = path.toList ++ KeyPath.selectorText parts

theorem selectorParts_yields (selector : String) :
    Yields (selectorParts selector) (Lengthens selector) := by
  unfold selectorParts repeatWhile
  refine Yields.recurse (Lengthens selector) (fun again further current holds => ?_)
    ⟨[], by simp, (List.append_nil _).symm⟩
  have step : Yields (do return (← selectorPart?).map fun part => current ++ part) fun next =>
      ∀ longer ∈ next, Lengthens selector longer := by
    refine .bind selectorPart?_yields fun found made => .pure fun longer member => ?_
    obtain ⟨part, rfl, rfl⟩ := Option.map_eq_some_iff.mp member
    obtain ⟨name, isName, rfl⟩ := made part rfl
    obtain ⟨parts, named, same⟩ := holds
    refine ⟨parts ++ [name], ?_, ?_⟩
    · simpa [or_imp, forall_and] using And.intro named isName
    · simp [same, KeyPath.selectorText]
  refine .bind step fun next more => ?_
  cases next with
  | some longer => exact further longer (more longer rfl)
  | none => exact .pure holds

end Parse

open Parse in
/-- All that the grammar builds up without arguments can be read from a text. -/
theorem Expression.writtenBuilt {ground : Ground} (bare : ground.arguments = []) :
    Expression.Built ground Expression.Written where
  number := fun parser found stop outcome value member =>
    .constant (numericLiteral?_yields parser found stop outcome value member)
  string := quoted?_yields
  word entry member := by
    simp only [constantWords, List.mem_cons, List.not_mem_nil, or_false] at member
    rcases member with rfl | rfl | rfl | rfl | rfl | rfl | rfl
    all_goals first | exact .constant trivial | exact .selfReference
  name := by
    intro parser name stop outcome
    have named := identifier_yields parser name stop outcome
    refine ⟨.variableName named, .keyPath (.name named), .keyPath ?_⟩
    rw [String.toList_append]
    exact .sigil named
  argument given _ := by
    rw [bare] at given
    cases given
  selector {path} written := by
    intro parser selector stop outcome
    obtain ⟨parts, named, same⟩ := selectorParts_yields (path ++ ":") parser selector stop outcome
    refine .keyPath ?_
    rw [same, String.toList_append, List.append_assoc]
    exact .selector written.path named
  further {path rest} written behind := by
    refine .keyPath ?_
    rw [String.toList_append, String.toList_append, List.append_assoc]
    exact .further written.path behind.path
  negated := Written.negated
  aggregate := .aggregate
  named {_ name arguments call} written made := by
    unfold namedCall at made
    split at made
    · split at made
      · cases made
        exact .custom (written _ (by simp)) fun argument member => written argument (by simp [member])
      · cases made
    · split at made
      · cases made
        exact .call written
      · cases made
  element _ written := .call (by simpa using written)
  position target position := .call (by simpa using And.intro target position)
  joined _ left right := .call (by simpa using And.intro left right)
  set := .set

theorem Expression.written_of_parse {text : String} {caseSensitive : Bool} {tree : Expression}
    (accepted : Expression.parse text [] caseSensitive = .ok tree) : tree.Written := by
  have built : Expression.Built ⟨caseSensitive, []⟩ Expression.Written := Expression.writtenBuilt rfl
  have comes := (Parse.Advances.expressionWith built Parser.nextArgument).comes
    (Parser.ofText text [] caseSensitive) ⟨rfl, rfl, rfl⟩ (Nat.lt_succ_self _)
  unfold Expression.parse at accepted
  simp only [bind, EStateM.bind] at accepted
  cases outcome : Parse.expression (Parser.ofText text [] caseSensitive) with
  | error error place =>
      rw [outcome] at accepted
      cases accepted
  | ok expression place =>
      rw [show Parse.expressionWith Parser.nextArgument _ = _ from outcome] at comes
      rw [outcome] at accepted
      dsimp only at accepted
      cases ended : Parse.expectEnd place with
      | error error stop =>
          rw [ended] at accepted
          cases accepted
      | ok _ stop =>
          rw [ended] at accepted
          cases accepted
          exact comes.2.2.2

end PredicateRules
