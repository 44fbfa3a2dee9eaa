import Mathlib.Data.List.DropRight
import PredicateRules.Proofs.Printing.Name

/-!
Texts that are cut off. What was read of a text up to some place is read again with nothing behind that
place, or, inside of parentheses, with anything else behind it. For the latter the place is before a
closing parenthesis, which no token reaches over.
-/

namespace PredicateRules

/-- A text without what is skipped first. -/
abbrev front (text : List Char) : List Char := text.dropWhile CharClass.skipped

def Fronted (text : List Char) : Prop := front text = text

theorem fronted_nil : Fronted [] := rfl

theorem fronted_front (text : List Char) : Fronted (front text) :=
  List.dropWhile_idempotent _ _

theorem fronted_cons {first : Char} {text : List Char} :
    Fronted (first :: text) ↔ CharClass.skipped first = false := by
  simp [Fronted, front, List.dropWhile_eq_self_iff]

theorem front_length (text : List Char) : (front text).length ≤ text.length :=
  (List.dropWhile_suffix _).length_le

theorem front_append (text back : List Char) : front (front text ++ back) = front (text ++ back) := by
  unfold front
  rw [List.dropWhile_append, List.dropWhile_append, List.dropWhile_idempotent]

theorem front_ne_nil {text : List Char} (solid : ∃ character ∈ text, CharClass.skipped character = false) :
    front text ≠ [] := by
  obtain ⟨character, member, solid⟩ := solid
  intro empty
  have all := List.dropWhile_eq_nil_iff.mp empty character member
  rw [solid] at all
  cases all

theorem front_of_solid {text : List Char} (solid : ∃ character ∈ text, CharClass.skipped character = false)
    (back : List Char) : front (text ++ back) = front text ++ back := by
  unfold front
  rw [List.dropWhile_append, if_neg (mt List.isEmpty_iff.mp (front_ne_nil solid))]

theorem front_append_cases (text back : List Char) :
    (front text ≠ [] ∧ front (text ++ back) = front text ++ back) ∨ front (text ++ back) = front back := by
  by_cases solid : ∃ character ∈ text, CharClass.skipped character = false
  · exact .inl ⟨front_ne_nil solid, front_of_solid solid back⟩
  · refine .inr (List.dropWhile_append_of_pos fun character member => ?_)
    by_contra outside
    exact solid ⟨character, member, Bool.eq_false_iff.mpr outside⟩

namespace Fronted

variable {text rest back : List Char}

theorem append (fronted : Fronted text) (some : text ≠ []) (back : List Char) :
    front (text ++ back) = text ++ back := by
  cases text with
  | nil => exact absurd rfl some
  | cons first text => exact fronted_cons.mpr (fronted_cons.mp fronted)

theorem of_append (fronted : Fronted (text ++ back)) : Fronted text := by
  cases text with
  | nil => rfl
  | cons first text => exact fronted_cons.mpr (fronted_cons.mp fronted)

theorem length_le (fronted : Fronted text) (back : List Char) :
    text.length + (front back).length ≤ (front (text ++ back)).length := by
  cases text with
  | nil => simp
  | cons first text =>
      rw [fronted.append (List.cons_ne_nil _ _), List.length_append]
      exact Nat.add_le_add_left (front_length back) _

theorem back_le (fronted : Fronted text) (some : text ≠ []) (back : List Char) :
    text.length + back.length = (front (text ++ back)).length := by
  rw [fronted.append some, List.length_append]

theorem eq_nil_of_length_le (fronted : Fronted text)
    (short : (front (text ++ back)).length ≤ back.length) : text = [] := by
  by_contra some
  have := fronted.back_le some back
  have := List.length_pos_iff.mpr some
  omega

theorem unique (fronted : Fronted text) (frontedRest : Fronted rest)
    (same : front (text ++ back) = front (rest ++ back)) : text = rest := by
  by_cases none : text = []
  · subst none
    exact (frontedRest.eq_nil_of_length_le (same ▸ front_length back)).symm
  · by_cases noneRest : rest = []
    · subst noneRest
      exact absurd (fronted.eq_nil_of_length_le (same ▸ front_length back)) none
    · rw [fronted.append none, frontedRest.append noneRest] at same
      exact List.append_cancel_right same

theorem between (fronted : Fronted text) (frontedRest : Fronted rest) {middle : List Char}
    (frontedMiddle : Fronted middle) (inside : middle <:+ front (text ++ back))
    (contains : front (rest ++ back) <:+ middle) :
    ∃ part, Fronted part ∧ middle = front (part ++ back) ∧ rest <:+ part ∧ part <:+ text := by
  by_cases none : text = []
  · subst none
    rw [List.nil_append] at inside
    obtain rfl := frontedRest.eq_nil_of_length_le
      ((contains.trans inside).length_le.trans (front_length back))
    exact ⟨[], fronted_nil, inside.eq_of_length_le contains.length_le, List.suffix_rfl, List.suffix_rfl⟩
  · rw [fronted.append none] at inside
    obtain ⟨before, whole⟩ := inside
    rcases List.append_eq_append_iff.mp whole with ⟨gap, first, second⟩ | ⟨gap, first, second⟩
    · -- The place is in front of all of `back`.
      subst second
      refine ⟨gap, frontedMiddle.of_append, frontedMiddle.symm, ?_, ⟨before, first.symm⟩⟩
      by_cases noneRest : rest = []
      · rw [noneRest]
        exact List.nil_suffix
      · rw [frontedRest.append noneRest] at contains
        obtain ⟨more, same⟩ := contains
        rw [← List.append_assoc] at same
        exact ⟨more, List.append_cancel_right same⟩
    · -- The place is inside of `back`, so only blanks are in front of it there.
      subst second
      obtain rfl := frontedRest.eq_nil_of_length_le
        (contains.length_le.trans (List.suffix_append gap middle).length_le)
      refine ⟨[], fronted_nil, ?_, List.suffix_rfl, List.nil_suffix⟩
      have bound := contains.length_le
      rw [List.nil_append] at bound ⊢
      rcases front_append_cases gap middle with ⟨some, longer⟩ | blank
      · have := List.length_pos_iff.mpr some
        rw [longer, List.length_append] at bound
        omega
      · rw [blank]
        exact frontedMiddle.symm

theorem taken (fronted : Fronted text) (frontedRest : Fronted rest) {count : Nat}
    (solid : ∀ last ∈ ((front (text ++ back)).take count).getLast?, CharClass.skipped last = false)
    (bound : count ≤ (front (text ++ back)).length)
    (behind : front ((front (text ++ back)).drop count) = front (rest ++ back)) :
    count ≤ text.length ∧ front (text.drop count) = rest := by
  have lengths := congrArg List.length behind
  have shorter := front_length ((front (text ++ back)).drop count)
  have less := frontedRest.length_le back
  rw [List.length_drop] at shorter
  by_cases none : text = []
  · subst none
    rw [List.nil_append] at bound behind shorter lengths
    obtain rfl : rest = [] := List.length_eq_zero_iff.mp (by omega)
    exact ⟨by rw [List.nil_append] at lengths; simp only [List.length_nil]; omega, by simp⟩
  · rw [fronted.append none] at solid bound behind shorter lengths
    have within : count ≤ text.length := by
      by_contra beyond
      -- Otherwise a solid character behind the text is taken, and less is left than stands behind the rest.
      obtain ⟨more, rfl⟩ : ∃ more, count = text.length + (more + 1) :=
        ⟨count - text.length - 1, by omega⟩
      rw [List.take_append, List.take_of_length_le (by omega), Nat.add_sub_cancel_left] at solid
      rw [List.length_append] at bound shorter
      have some : back.take (more + 1) ≠ [] := by
        intro empty
        have := congrArg List.length empty
        rw [List.length_take, List.length_nil] at this
        omega
      obtain ⟨last, found⟩ := Option.ne_none_iff_exists'.mp (mt List.getLast?_eq_none_iff.mp some)
      have ends := solid last (by rw [List.getLast?_append, found]; rfl)
      have solid : ∃ character ∈ back.take (more + 1), CharClass.skipped character = false :=
        ⟨last, List.mem_of_getLast? found, ends⟩
      have longer := front_of_solid solid (back.drop (more + 1))
      rw [List.take_append_drop] at longer
      have := List.length_pos_iff.mpr (front_ne_nil solid)
      have lengthsBack := congrArg List.length longer
      rw [List.length_append, List.length_drop] at lengthsBack
      omega
    have same : front (front (text.drop count) ++ back) = front (rest ++ back) := by
      rw [front_append, ← behind, List.drop_append_of_le_length within]
    exact ⟨within, (fronted_front _).unique frontedRest same⟩

end Fronted

/-- No letter counts as the character. -/
def Unlettered (character : Char) : Prop :=
  ∀ caseSensitive letter, letter.isAlpha = true →
    Scanner.sameChar caseSensitive character letter = false

theorem unlettered_of_symbol {character : Char} (symbol : Scanner.isSymbol character = true) :
    Unlettered character := by
  intro caseSensitive letter letters
  refine Bool.eq_false_iff.mpr fun same => ?_
  obtain rfl := Scanner.eq_of_sameChar symbol (Scanner.sameChar_symm .. ▸ same)
  simp [Scanner.isSymbol, letters] at symbol

/-- What is behind a text is not needed to see where its last token ends. -/
def Settled (text rest : List Char) : Prop :=
  ∀ last ∈ text.getLast?, ∀ next ∈ rest.head?,
    (CharClass.continuesKeyword next = true → Unlettered last) ∧ (next = '=' → last ≠ ':')

/-- A text before `back` that is read again before `other`. -/
inductive Cut (text back other : List Char) : Prop
  | final (none : other = []) (settled : Settled text back)
  | closing (last : text.getLast? = some ')')

theorem getLast?_suffix {text part : List Char} (inside : part <:+ text) (some : part ≠ []) :
    text.getLast? = part.getLast? := by
  obtain ⟨before, rfl⟩ := inside
  rw [List.getLast?_append]
  cases last : part.getLast? with
  | none => exact absurd (List.getLast?_eq_none_iff.mp last) some
  | some last => rfl

theorem Cut.between {text part rest back other : List Char} (cut : Cut text back other)
    (cutRest : Cut rest back other) (contains : rest <:+ part) (inside : part <:+ text) :
    Cut part back other := by
  by_cases none : part = []
  · subst none
    obtain rfl := List.suffix_nil.mp contains
    exact cutRest
  · have last := getLast?_suffix inside none
    cases cut with
    | final none settled => exact .final none (by unfold Settled; rwa [← last])
    | closing closing => exact .closing (last ▸ closing)

theorem Cut.behind {first : Char} {text back other : List Char} (cut : Cut (first :: text) back other)
    (opening : first ≠ ')') : Cut (front text) back other := by
  have inside : front text <:+ first :: text := (List.dropWhile_suffix _).trans (List.suffix_cons _ _)
  cases cut with
  | final none settled =>
      refine .final none fun last found => settled last ?_
      have some : front text ≠ [] := by
        intro empty
        simp [empty] at found
      rwa [getLast?_suffix inside some]
  | closing last =>
      have ends : text.getLast? = some ')' := by
        cases text with
        | nil => exact absurd (Option.some.inj last) opening
        | cons second text => rwa [List.getLast?_cons_cons] at last
      have some := front_ne_nil ⟨')', List.mem_of_getLast? ends, by decide⟩
      exact .closing ((getLast?_suffix inside some).symm.trans last)

end PredicateRules
