import PredicateRules.Proofs.Printing.ReadingBack

/-!
Formulas: arithmetic over key paths and numbers, written with operators and as few parentheses as their
strength and their order allow. A text is described by the level of the grammar at which it is read; at
that level more operands may be joined to it, and it is an operand of every weaker level.
-/

namespace PredicateRules

inductive Operator where
  | add
  | subtract
  | multiply
  | divide
  | power
  deriving DecidableEq, Repr

namespace Operator

def function : Operator → Builtin
  | add => .add
  | subtract => .subtract
  | multiply => .multiply
  | divide => .divide
  | power => .raiseToPower

def sign : Operator → String
  | add => "+"
  | subtract => "-"
  | multiply => "*"
  | divide => "/"
  | power => "**"

/-- How closely the operator binds. -/
def strength : Operator → Nat
  | add => 0
  | subtract => 0
  | multiply => 1
  | divide => 1
  | power => 2

theorem strength_lt (operator : Operator) : operator.strength < 3 := by
  cases operator <;> decide

end Operator

/-- Operators over key paths and over integers that are not negative. -/
inductive Formula where
  | path (keys : String)
      (named : ∀ component ∈ KeyPath.components keys.toList, KeyPath.IsComponent component)
  | number (value : Int64) (unsigned : 0 ≤ value.toInt)
  | operation (operator : Operator) (left right : Formula)

namespace Formula

def expression : Formula → Expression
  | path keys _ => .keyPath keys
  | number value _ => .constant (.int value)
  | operation operator left right => .call operator.function [left.expression, right.expression]

/-- How closely the formula holds together; what is no operation does so most of all. -/
def strength : Formula → Nat
  | operation operator _ _ => operator.strength
  | _ => 3

/-- Numbers of spaces before and behind the operator at each place. -/
abbrev Spacing : Type := Site → Nat × Nat

def spaces (count : Nat) : List Char := List.replicate count ' '

def enclosedIf (weak : Bool) (text : List Char) : List Char :=
  if weak then '(' :: (text ++ [')']) else text

/-- The text of the formula, of which a part is in parentheses if it binds more weakly than the operator
beside it, or as closely on the right of it. -/
def text (spacing : Spacing) (site : Site) : Formula → List Char
  | path keys _ => (KeyPath.text keys).toList
  | number value _ => (Value.intText value).toList
  | operation operator left right =>
    enclosedIf (left.strength < operator.strength) (left.text spacing (0 :: site)) ++
      (spaces (spacing site).1 ++ (operator.sign.toList ++ (spaces (spacing site).2 ++
        enclosedIf (right.strength ≤ operator.strength) (right.text spacing (1 :: site)))))

end Formula

namespace Parse

variable {caseSensitive : Bool} {text rest behind : List Char} {which : Parser → Nat}
  {nested : Parse Expression} {operand : Expression} {strength : Nat}

/-- The operands of the grammar, the weakest operators first. -/
def level (which : Parser → Nat) (nested : Parse Expression) : Nat → Parse Expression
  | 0 => addition which nested
  | 1 => multiplication which nested
  | 2 => power which nested
  | _ => functional which nested

def signs : Nat → List (String × Builtin)
  | 0 => [("+", .add), ("-", .subtract)]
  | 1 => [("*", .multiply), ("/", .divide)]
  | 2 => [("**", .raiseToPower)]
  | _ => []

/-- What an operand of the level may go on with. -/
def levelStep (which : Parser → Nat) (nested : Parse Expression) (strength : Nat) :
    Expression → Parse (Option Expression) :=
  if strength < 3 then Advances.joinedStep (signs strength) (level which nested (strength + 1))
  else functionalStep which nested

theorem level_eq (weak : strength < 3) : level which nested strength =
    level which nested (strength + 1) >>= repeatWhile (levelStep which nested strength) := by
  unfold levelStep
  rw [if_pos weak]
  match strength, weak with
  | 0, _ | 1, _ | 2, _ => rfl

def levelWords (strength : Nat) : List String :=
  if strength < 3 then (signs strength).map Prod.fst else suffixWords

def closerWords : Nat → List String
  | 0 => levelWords 1 ++ (levelWords 2 ++ levelWords 3)
  | 1 => levelWords 2 ++ levelWords 3
  | 2 => levelWords 3
  | _ => []

theorem closerWords_eq (weak : strength < 3) :
    closerWords strength = levelWords (strength + 1) ++ closerWords (strength + 1) := by
  match strength, weak with
  | 0, _ | 1, _ => rfl
  | 2, _ => exact (List.append_nil _).symm

theorem signs_solid : ∀ strength, ∀ entry ∈ signs strength, Solid entry.1
  | 0 | 1 | 2 => by decide
  | _ + 3 => nofun

theorem levelStep_done (quiet : Behind (levelWords strength) text) (operand : Expression) :
    Takes caseSensitive text (levelStep which nested strength operand) none text := by
  unfold levelStep
  unfold levelWords at quiet
  split
  next weak =>
    rw [if_pos weak] at quiet
    refine (sign_missing (signs_solid strength) fun entry member => ?_).bind (.pure none)
    exact quiet entry.1 (List.mem_map_of_mem member)
  next close =>
    rw [if_neg close] at quiet
    exact functionalStep_done quiet operand

theorem level_rejected (barren : Barren text) : Rejects caseSensitive text (level which nested strength) :=
  match strength with
  | 0 => addition_rejected barren
  | 1 => (functional_rejected barren).bind.bind
  | 2 => (functional_rejected barren).bind
  | _ + 3 => functional_rejected barren

/-- The text is an operand of the level, to which further ones may be joined. -/
def Chains (caseSensitive : Bool) (strength : Nat) (text : List Char) (operand : Expression) : Prop :=
  ∀ which depth behind last rest, textWeight (text ++ behind) ≤ depth → Parted behind →
    Behind (closerWords strength) behind →
    Repeats caseSensitive behind (levelStep which (expressionTo which depth) strength) operand last rest →
    Takes caseSensitive (text ++ behind) (level which (expressionTo which depth) strength) last rest

theorem Denotes.chains (denotes : Denotes caseSensitive text operand) :
    Chains caseSensitive 3 text operand :=
  fun which depth behind last rest enough parted _ => denotes which depth behind last rest enough parted

namespace Chains

theorem taken (chains : Chains caseSensitive strength text operand) {depth : Nat}
    (enough : textWeight (text ++ behind) ≤ depth) (parted : Parted behind)
    (quiet : Behind (levelWords strength ++ closerWords strength) behind) :
    Takes caseSensitive (text ++ behind) (level which (expressionTo which depth) strength) operand
      behind := by
  refine chains which depth behind operand behind enough parted (quiet.mono (by simp)) ?_
  exact .done (levelStep_done (quiet.mono (by simp)) operand)

theorem weaker (weak : strength < 3) (chains : Chains caseSensitive (strength + 1) text operand) :
    Chains caseSensitive strength text operand := by
  intro which depth behind last rest enough parted quiet repeats
  rw [closerWords_eq weak] at quiet
  rw [level_eq weak]
  exact (chains.taken enough parted quiet).bind repeats.takes

theorem mono {weakest : Nat} (less : weakest ≤ strength) (most : strength ≤ 3)
    (chains : Chains caseSensitive strength text operand) : Chains caseSensitive weakest text operand := by
  induction strength with
  | zero => exact Nat.le_zero.mp less ▸ chains
  | succ strength ih =>
      rcases Nat.le_succ_iff.mp less with below | rfl
      · exact ih below (by omega) (chains.weaker (by omega))
      · exact chains

theorem nests (most : strength ≤ 3) (chains : Chains caseSensitive strength text operand) :
    Nests caseSensitive text operand := by
  intro which depth rest enough ends
  have weakest : Chains caseSensitive 0 text operand := chains.mono (Nat.zero_le _) most
  refine binary_of_addition (weakest.taken enough ends.parted fun word member => ?_) ends.alone
  have listed : levelWords 0 ++ closerWords 0 ⊆ suffixWords ++ joiningWords := by decide
  exact (List.mem_append.mp (listed member)).elim (ends.single word) (ends.alone word)

theorem enclosed (most : strength ≤ 3) (chains : Chains caseSensitive strength text operand) :
    Chains caseSensitive 3 ('(' :: (text ++ [')'])) operand :=
  (denotes_enclosed (chains.nests most)).chains

end Chains

open Formula (spaces)

theorem skipped_spaces (count : Nat) : ∀ character ∈ spaces count, CharClass.skipped character = true := by
  intro character member
  rw [List.eq_of_mem_replicate member]
  decide

theorem textWeight_spaces (count : Nat) (text : List Char) :
    textWeight (spaces count ++ text) = textWeight text := by
  rw [← textWeight_dropWhile, List.dropWhile_append_of_pos (skipped_spaces count), textWeight_dropWhile]

theorem behind_spaces {words : List String} (quiet : Behind words text) (count : Nat) :
    Behind words (spaces count ++ text) := by
  intro word member
  rw [List.dropWhile_append_of_pos (skipped_spaces count)]
  exact quiet word member

theorem parted_spaces (parted : Parted text) (count : Nat) : Parted (spaces count ++ text) := by
  induction count with
  | zero => exact parted
  | succ count ih => exact ih.after_space

section

variable (operator : Operator)

theorem parted_sign (text : List Char) : Parted (operator.sign.toList ++ text) := by
  cases operator <;>
    exact ⟨⟨severed_of_symbol (by decide) (by decide), by simp [Operator.sign]⟩,
      unselected_of_symbol (by decide) (by decide) (by decide)⟩

theorem textWeight_sign : 0 < textWeight operator.sign.toList := by
  cases operator <;> decide

theorem sign_read (text : List Char) : Takes caseSensitive (operator.sign.toList ++ text)
    (joined.sign (signs operator.strength)) (some operator.function) text := by
  cases operator with
  | add => exact (literal_taken "+" (by decide)).bind (.pure _)
  | subtract =>
      refine (literal_other "+" (by decide) (head?_ne (by decide) (by decide))).bind ?_
      exact (literal_taken "-" (by decide)).bind (.pure _)
  | multiply => exact (literal_taken "*" (by decide)).bind (.pure _)
  | divide =>
      refine (literal_other "*" (by decide) (head?_ne (by decide) (by decide))).bind ?_
      exact (literal_taken "/" (by decide)).bind (.pure _)
  | power => exact (literal_taken "**" (by decide)).bind (.pure _)

theorem behind_symbol {words : List String} {first : Char} (solid : CharClass.skipped first = false)
    (symbol : Scanner.isSymbol first = true)
    (apart : ∀ word ∈ words, Symbolic word ∧ word.toList.head? ≠ some first) :
    Behind words (first :: text) :=
  fun word member => silent_of_symbol solid symbol (.inl (apart word member))

theorem behind_sign (starless : text.head? ≠ some '*') :
    Behind (closerWords operator.strength) (operator.sign.toList ++ text) := by
  cases operator with
  | add => exact behind_symbol (by decide) (by decide) (by decide)
  | subtract => exact behind_symbol (by decide) (by decide) (by decide)
  | multiply =>
      intro word member
      have listed : closerWords 1 = "**" :: suffixWords := by decide
      have suffixes : Behind suffixWords ('*' :: text) := behind_symbol (by decide) (by decide) (by decide)
      rcases List.mem_cons.mp (listed ▸ member) with rfl | suffix
      · intro caseSensitive
        have second : Scanner.startsWith caseSensitive ['*'] text = false :=
          Scanner.startsWith_symbol (by decide) starless
        show (_ && Scanner.startsWith caseSensitive ['*'] text) = false
        rw [second, Bool.and_false]
      · exact suffixes word suffix
  | divide => exact behind_symbol (by decide) (by decide) (by decide)
  | power => exact behind_symbol (by decide) (by decide) (by decide)

theorem starless_of_taken (taken : Takes caseSensitive text (level which nested strength) operand rest) :
    text.head? ≠ some '*' := by
  intro star
  have barren : Barren text := by
    obtain ⟨tail, rfl⟩ := List.head?_eq_some_iff.mp star
    unfold Barren
    rw [head?_solid (by decide)]
    decide
  exact taken.not_rejects (level_rejected barren)

theorem starless_spaces (starless : text.head? ≠ some '*') (count : Nat) :
    (spaces count ++ text).head? ≠ some '*' := by
  cases count with
  | zero => exact starless
  | succ count => exact fun star => absurd (Option.some.inj star) (by decide)

theorem signed_weight (before : Nat) (text : List Char) :
    textWeight text < textWeight (spaces before ++ (operator.sign.toList ++ text)) := by
  have positive := textWeight_sign operator
  rw [textWeight_spaces, textWeight_append]
  omega

/-- An operand of the level of the operator, and behind the sign one of the next level. -/
theorem Chains.operation {first second : List Char} {left right : Expression}
    (chainsLeft : Chains caseSensitive operator.strength first left)
    (chainsRight : Chains caseSensitive (operator.strength + 1) second right) (before after : Nat) :
    Chains caseSensitive operator.strength
      (first ++ (spaces before ++ (operator.sign.toList ++ (spaces after ++ second))))
      (.call operator.function [left, right]) := by
  intro which depth behind last rest enough parted quiet repeats
  simp only [List.append_assoc] at enough ⊢
  have lighter := signed_weight operator before (spaces after ++ (second ++ behind))
  have weight := textWeight_append first
    (spaces before ++ (operator.sign.toList ++ (spaces after ++ (second ++ behind))))
  rw [textWeight_spaces] at lighter
  have weak := operator.strength_lt
  have rightTaken : Takes caseSensitive (second ++ behind)
      (level which (expressionTo which depth) (operator.strength + 1)) right behind :=
    chainsRight.taken (by omega) parted (closerWords_eq weak ▸ quiet)
  have starless : (spaces after ++ (second ++ behind)).head? ≠ some '*' :=
    starless_spaces (starless_of_taken rightTaken) after
  -- the left operand goes on with the sign, and the operation with what comes behind it
  refine chainsLeft which depth _ last rest enough (parted_spaces (parted_sign operator _) before)
    (behind_spaces (behind_sign operator starless) before) (.next ?_ ?_ repeats)
  · have step : Takes caseSensitive (operator.sign.toList ++ (spaces after ++ (second ++ behind)))
        (levelStep which (expressionTo which depth) operator.strength left)
        (some (.call operator.function [left, right])) behind := by
      unfold levelStep
      rw [if_pos weak]
      refine (sign_read operator _).bind ?_
      exact (rightTaken.behind_gap (skipped_spaces after)).bind (.pure _)
    exact step.behind_gap (skipped_spaces before)
  · rw [textWeight_append second] at lighter
    omega

end

end Parse

namespace Formula

variable {caseSensitive : Bool}

theorem strength_le : (formula : Formula) → formula.strength ≤ 3
  | path .. | number .. => Nat.le_refl 3
  | operation operator .. => Nat.le_of_lt operator.strength_lt

/-- What stands in parentheses where it is not strong enough is strong enough. -/
theorem chains_enclosedIf {weak : Bool} {needed strength : Nat} {letters : List Char} {operand : Expression}
    (chains : Parse.Chains caseSensitive strength letters operand) (most : strength ≤ 3)
    (strong : weak = false → needed ≤ strength) (possible : needed ≤ 3) :
    Parse.Chains caseSensitive needed (enclosedIf weak letters) operand := by
  cases weak with
  | true => exact (chains.enclosed most).mono possible (Nat.le_refl 3)
  | false => exact chains.mono (strong rfl) most

theorem chains (spacing : Spacing) (site : Site) (formula : Formula) :
    Parse.Chains caseSensitive formula.strength (formula.text spacing site) formula.expression := by
  induction formula generalizing site with
  | path keys named => exact (Parse.denotes_keyPath (KeyPath.written_of_components named)).chains
  | number value unsigned =>
      have notLeast : value ≠ Int64.minValue := by
        rintro rfl
        exact absurd unsigned (by decide)
      exact (Parse.denotes_int notLeast).chains
  | operation operator left right ihLeft ihRight =>
      have weak := operator.strength_lt
      -- on the right one level more is asked for: operators of one level join from the left
      refine Parse.Chains.operation operator (chains_enclosedIf (ihLeft _) left.strength_le ?_ ?_)
        (chains_enclosedIf (ihRight _) right.strength_le ?_ ?_) _ _
      · exact fun strong => Nat.le_of_not_lt (of_decide_eq_false strong)
      · exact Nat.le_of_lt weak
      · exact fun strong => Nat.lt_of_not_le (of_decide_eq_false strong)
      · exact weak

/-- However it is spaced, the text of a formula is read as the formula. -/
theorem parse_formula (formula : Formula) (spacing : Spacing) (arguments : List Value) (caseSensitive : Bool) :
    Expression.parse (String.ofList (formula.text spacing [])) arguments caseSensitive =
      .ok formula.expression := by
  refine Expression.parse_of_nests ?_
  rw [String.toList_ofList]
  exact (formula.chains spacing []).nests formula.strength_le

example : text (fun site => if site = [] then (0, 2) else (1, 1)) []
    (.operation .subtract
      (.operation .multiply (.operation .add (.number 1 (by decide)) (.path "a.null" (by decide)))
        (.operation .power (.number 2 (by decide)) (.path "b" (by decide))))
      (.operation .subtract (.number 3 (by decide)) (.number 4 (by decide)))) =
        "(1 + a.#null) * 2 ** b-  (3 - 4)".toList := by
  decide +kernel

end Formula

end PredicateRules
