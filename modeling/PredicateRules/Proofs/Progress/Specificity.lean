import PredicateRules.Proofs.Progress.Predicate

namespace PredicateRules

namespace Predicate

@[simp]
theorem specificitySum_append (parts others : List Predicate) :
    specificitySum (parts ++ others) = specificitySum parts + specificitySum others := by
  induction parts with
  | nil => simp [specificitySum]
  | cons part parts ih => simp [specificitySum, ih, Nat.add_assoc]

theorem specificitySum_partsIn_le (kind : CompoundKind) (predicate : Predicate) :
    specificitySum (predicate.partsIn kind) ≤ predicate.specificity := by
  unfold partsIn
  cases found : predicate.partsOf? kind with
  | some parts =>
      obtain rfl := eq_compound_of_partsOf? found
      exact Nat.le_add_left _ 1
  | none => exact Nat.le_of_eq (Nat.add_zero _)

theorem specificity_fold_le (kind : CompoundKind) (left right : Predicate) :
    (fold kind left right).specificity ≤ left.specificity + (1 + right.specificity) := by
  have first := specificitySum_partsIn_le kind left
  have second := specificitySum_partsIn_le kind right
  rcases fold_eq kind left right with same | same
  · rw [same, specificity, specificitySum_append]
    omega
  · rw [same, specificity, specificitySum_append]
    omega

theorem specificity_negation (part : Predicate) : part.negation.specificity = 1 + part.specificity := rfl

end Predicate

namespace Parse

/-- The step gets on by as many characters as its result costs. -/
def Pays (cost : α → Nat) (step : Parse α) : Prop :=
  ∀ start, start.scanner.skips = some CharClass.skipped →
    match step start with
    | .ok result stop => stop.scanner.skips = some CharClass.skipped ∧
        stop.scanner.ahead.length + cost result ≤ start.scanner.ahead.length
    | .error _ stop => stop.scanner.skips = some CharClass.skipped

namespace Pays

variable {α β : Type} {step : Parse α} {cost : α → Nat} {term : Parse Predicate}

theorem of_advances {spends : α → Bool} {made : α → Prop}
    (advances : ∀ ground room, Advances ground room step step spends made) :
    Pays (fun result => (spends result).toNat) step := by
  intro start skips
  have comes := (advances (Ground.of start) (start.scanner.ahead.length + 1)).comes start
    (Ground.holds_of skips) (Nat.lt_succ_self _)
  revert comes
  cases step start with
  | ok result stop => exact fun comes => ⟨comes.1.skips, comes.2.2.1⟩
  | error error stop => exact fun holds => holds.skips

theorem cheaper {lower : α → Nat} (pays : Pays cost step) (le : ∀ result, lower result ≤ cost result) :
    Pays lower step := by
  intro start skips
  have paid := pays start skips
  revert paid
  cases step start with
  | ok result stop => exact fun paid => ⟨paid.1, (Nat.add_le_add_left (le result) _).trans paid.2⟩
  | error error stop => exact id

theorem pure {result : α} (free : cost result = 0) : Pays cost (Pure.pure result) :=
  fun _ skips => ⟨skips, by rw [free]; exact Nat.le_refl _⟩

theorem fail {error : Location → ParseError} : Pays cost (Parse.fail error) := fun _ skips => skips

theorem bind {first : Parse β} {next : β → Parse α} {deposit : β → Nat} (before : Pays deposit first)
    (after : ∀ found, Pays (fun result => cost result - deposit found) (next found)) :
    Pays cost (first >>= next) := by
  intro start skips
  have paid := before start skips
  simp only [Bind.bind, EStateM.bind]
  cases outcome : first start with
  | error error stop =>
      rw [outcome] at paid
      exact paid
  | ok found middle =>
      rw [outcome] at paid
      have rest := after found middle paid.1
      dsimp only
      revert rest
      cases next found middle with
      | error error stop => exact id
      | ok result stop =>
          rintro ⟨kept, shorter⟩
          have := paid.2
          dsimp only at shorter
          exact ⟨kept, by omega⟩

/-- The cost of the whole is paid where no more is asked for than was paid already. -/
theorem returns {image : β → α} {first : Parse β} {deposit : β → Nat} (before : Pays deposit first)
    (le : ∀ found, cost (image found) ≤ deposit found) : Pays cost (do return image (← first)) :=
  before.bind fun found => pure (Nat.sub_eq_zero_of_le (le found))

theorem recurse {step : (β → Parse α) → β → Parse α} (cost : β → α → Nat)
    (grows : ∀ again, (∀ start, Pays (cost start) (again start)) →
      ∀ start, Pays (cost start) (step again start)) (start : β) :
    Pays (cost start) (Parse.recurse step start) := by
  have deep : ∀ depth start, Pays (cost start) (Parse.recurseTo step depth start) := by
    intro depth
    induction depth with
    | zero => exact fun _ => fail
    | succ depth ih => exact grows _ ih
  exact fun parser => deep _ start parser

theorem repeatWhile {step : α → Parse (Option α)} (cost : α → Nat)
    (pays : ∀ current, Pays (fun next => next.elim 0 (cost · - cost current)) (step current))
    (start : α) : Pays (fun result => cost result - cost start) (Parse.repeatWhile step start) := by
  refine recurse (fun current result => cost result - cost current) (fun again further current => ?_) start
  refine (pays current).bind fun next => ?_
  cases next with
  | none => exact pure (by simp)
  | some next =>
      refine (further next).cheaper fun result => ?_
      show cost result - cost current - (cost next - cost current) ≤ cost result - cost next
      omega

theorem comparison (which : Parser → Nat) : Pays Predicate.specificity (Parse.comparison which) := by
  have operand : Pays (fun _ : Expression => 1) (expressionWith which) :=
    of_advances fun _ _ => .expressionWith .anything which
  refine (of_advances fun _ _ => .firstKeyword Draws.modifierWords_worded).bind fun found => ?_
  rcases found.getD (.direct, false) with ⟨modifier, negates⟩
  refine operand.bind fun left => ?_
  refine (of_advances fun _ _ => .firstKeyword Draws.operatorWords_worded).bind fun operator => ?_
  cases operator with
  | none => exact fail
  | some operator =>
      refine (of_advances fun _ _ => .of_draws .comparisonOptions).bind fun options => ?_
      refine operand.bind fun right => pure ?_
      cases negates <;>
        simp [Predicate.specificity_negation, Predicate.specificity]

theorem terms (pays : Pays Predicate.specificity term) : Pays Predicate.specificity (Parse.terms term) := by
  refine pays.bind fun first => repeatWhile Predicate.specificity (fun left => ?_) first
  have further : Pays (fun found : Option (CompoundKind × Predicate) =>
      found.elim 0 fun further => 1 + further.2.specificity) (furtherTerm term) := by
    refine (of_advances fun _ _ => .firstKeyword Draws.conjunctionWords_worded).bind fun kind => ?_
    cases kind with
    | none => exact pure rfl
    | some kind => exact returns pays fun right => by simp
  refine returns further fun found => ?_
  cases found with
  | none => exact Nat.le_refl 0
  | some found => exact Nat.sub_le_of_le_add ((Predicate.specificity_fold_le _ _ _).trans_eq (Nat.add_comm _ _))

theorem parenthesized (pays : Pays Predicate.specificity term) :
    Pays Predicate.specificity (Parse.parenthesized term) := by
  refine (terms pays).bind fun inner => ?_
  refine (of_advances fun _ _ => .expect (by decide) "predicate").bind fun _ => pure ?_
  simp

theorem opened? (which : Parser → Nat) (pays : Pays Predicate.specificity term) :
    Pays (fun found => found.elim 0 Predicate.specificity) (Parse.opened? which term) := by
  intro start skips
  have opening : Pays (fun found => (id found).toNat) (Parse.literal "(") :=
    of_advances fun _ _ => .literal (by decide)
  have opens := opening start skips
  rw [Setting.opened?_literal]
  cases outcome : Parse.literal "(" start with
  | error error stop =>
      rw [outcome] at opens
      exact opens
  | ok found opened =>
      rw [outcome] at opens
      cases found with
      | false => exact opens
      | true =>
          have inner := parenthesized pays opened opens.1
          dsimp only
          cases outcomeInner : Parse.parenthesized term opened with
          | ok found stop =>
              rw [outcomeInner] at inner
              exact ⟨inner.1, inner.2.trans (Nat.le_of_add_right_le opens.2)⟩
          | error error failed =>
              rw [outcomeInner] at inner
              -- The parenthesis opened no predicate: a comparison is read from where it stands.
              have again := comparison which (failed.back start) inner
              dsimp only
              revert again
              cases Parse.comparison which (failed.back start) with
              | ok operands stop => exact id
              | error _ stop => exact id

theorem termOf (which : Parser → Nat) : Pays Predicate.specificity (Parse.termOf which) := by
  refine recurse (fun _ => Predicate.specificity) (fun again pays start => ?_) ()
  refine (opened? which (pays ())).bind fun opened => ?_
  cases opened with
  | some opened => exact pure (by simp)
  | none => ?_
  have negation : Pays (fun result => result.specificity - 1)
      (do return Predicate.negation (← again ())) :=
    returns (pays ()) fun part => by simp [Predicate.specificity_negation]
  have word {word : String} (solid : Solid word) (worded : Worded word) :
      Pays (fun found => (id found).toNat) (Parse.keyword word) :=
    of_advances fun _ _ => .keyword solid worded
  refine (word (by decide) (by decide)).bind fun met => ?_
  cases met with
  | true => exact negation
  | false => ?_
  refine (word (by decide) (by decide)).bind fun met => ?_
  cases met with
  | true => exact negation
  | false => ?_
  refine (word (by decide) (by decide)).bind fun met => ?_
  cases met with
  | true => exact pure rfl
  | false => ?_
  refine (word (by decide) (by decide)).bind fun met => ?_
  cases met with
  | true => exact pure rfl
  | false => exact comparison which

theorem predicateWith (which : Parser → Nat) : Pays Predicate.specificity (Parse.predicateWith which) :=
  terms (termOf which)

end Pays

end Parse

theorem Predicate.specificity_le_length {text : String} {arguments : List Value} {caseSensitive : Bool}
    {predicate : Predicate} (read : parse text arguments caseSensitive = .ok predicate) :
    predicate.specificity ≤ text.toList.length := by
  have pays := Parse.Pays.predicateWith Parser.nextArgument (Parser.ofText text arguments caseSensitive) rfl
  unfold parse Parse.wholePredicate at read
  simp only [bind, EStateM.bind] at read
  cases outcome : Parse.predicateWith Parser.nextArgument
      (Parser.ofText text arguments caseSensitive) with
  | error error stop =>
      rw [outcome] at read
      cases read
  | ok found stop =>
      rw [outcome] at read pays
      dsimp only at read
      cases ends : Parse.expectEnd stop with
      | error error last =>
          rw [ends] at read
          cases read
      | ok _ last =>
          rw [ends] at read
          cases read
          have least := front_length text.toList
          exact (Nat.le_of_add_left_le pays.2).trans least

end PredicateRules
