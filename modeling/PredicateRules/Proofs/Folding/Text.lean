import PredicateRules.Predicate.Operator

namespace PredicateRules

namespace Unicode

theorem withoutDiacritics_append (text rest : List Char) :
    withoutDiacritics (text ++ rest) = withoutDiacritics text ++ withoutDiacritics rest := by
  simp [withoutDiacritics]

/-- The lower case of a part of a text, with `before` the characters in front of it, the nearest first. -/
def lowerBetween (before : List Char) : List Char → List Char → List Char
  | [], _ => []
  | character :: part, after =>
    (if character = 'Σ' then [lowerSigma before (part ++ after)] else lowerChar character) ++
      lowerBetween (character :: before) part after

theorem lowerFrom_append (before part after : List Char) : lowerFrom before (part ++ after) =
    lowerBetween before part after ++ lowerFrom (part.reverse ++ before) after := by
  induction part generalizing before with
  | nil => rfl
  | cons character part ih => simp [lowerFrom, lowerBetween, ih]

theorem lowerFrom_of_not_mem {text : List Char} (none : 'Σ' ∉ text) (before : List Char) :
    lowerFrom before text = text.flatMap lowerChar := by
  induction text generalizing before with
  | nil => rfl
  | cons character text ih =>
      simp only [List.mem_cons, not_or] at none
      simp [lowerFrom, Ne.symm none.1, ih none.2]

theorem lowerBetween_of_not_mem {part : List Char} (none : 'Σ' ∉ part) (before after : List Char) :
    lowerBetween before part after = lowerText part := by
  rw [lowerText, lowerFrom_of_not_mem none]
  induction part generalizing before with
  | nil => rfl
  | cons character part ih =>
      simp only [List.mem_cons, not_or] at none
      simp [lowerBetween, Ne.symm none.1, ih none.2]

theorem lowerChar_ne_nil (character : Char) : lowerChar character ≠ [] := by
  unfold lowerChar
  split
  · exact List.cons_ne_nil _ _
  · split <;> exact List.cons_ne_nil _ _

theorem lowerText_ne_nil {text : List Char} (some : text ≠ []) : lowerText text ≠ [] := by
  obtain ⟨character, text, rfl⟩ := List.exists_cons_of_ne_nil some
  unfold lowerText lowerFrom
  split <;> simp [lowerChar_ne_nil]

end Unicode

theorem isInfixText_iff {part whole : List Char} : isInfixText part whole = true ↔ part <:+: whole := by
  induction whole with
  | nil => simp [isInfixText]
  | cons head rest ih =>
      rw [isInfixText, Bool.or_eq_true, List.isPrefixOf_iff_prefix, ih, List.infix_cons_iff]

namespace ComparisonOptions

variable {options : ComparisonOptions} {before part after : List Char}

def stripped (options : ComparisonOptions) (text : List Char) : List Char :=
  if options.diacriticInsensitive then Unicode.withoutDiacritics text else text

def folded (options : ComparisonOptions) (text : List Char) : List Char :=
  if options.caseInsensitive then Unicode.lowerText (options.stripped text) else options.stripped text

theorem toList_foldText (text : String) : (options.foldText text).toList = options.folded text.toList := by
  simp [foldText, folded, stripped]

theorem stripped_append (text rest : List Char) :
    options.stripped (text ++ rest) = options.stripped text ++ options.stripped rest := by
  unfold stripped
  split
  · exact Unicode.withoutDiacritics_append text rest
  · rfl

/-- Where it stands in the text, the part is folded to what it is by itself, and something of the text
is left. -/
structure KeepsPart (options : ComparisonOptions) (before part after : List Char) : Prop where
  remains : options.diacriticInsensitive = true → options.stripped (before ++ part ++ after) ≠ []
  settled : options.caseInsensitive = true →
    Unicode.lowerBetween (options.stripped before).reverse (options.stripped part) (options.stripped after) =
      Unicode.lowerText (options.stripped part)

theorem KeepsPart.folded (keeps : options.KeepsPart before part after) :
    ∃ front behind, options.folded (before ++ part ++ after) = front ++ options.folded part ++ behind ∧
      (before = [] → front = []) ∧ (after = [] → behind = []) := by
  have empty : options.stripped [] = [] := by
    unfold stripped
    split <;> rfl
  unfold ComparisonOptions.folded
  simp only [stripped_append]
  cases lowers : options.caseInsensitive with
  | false => exact ⟨_, _, rfl, fun none => by rw [none, empty], fun none => by rw [none, empty]⟩
  | true =>
      have settled := keeps.settled lowers
      simp only [if_true, Unicode.lowerText, List.append_assoc] at settled ⊢
      rw [Unicode.lowerFrom_append, Unicode.lowerFrom_append, List.append_nil, settled]
      refine ⟨_, _, rfl, fun none => ?_, fun none => ?_⟩
      · rw [none, empty]
        rfl
      · rw [none, empty]
        rfl

theorem folded_ne_nil {text : List Char} (some : text ≠ [])
    (remains : options.diacriticInsensitive = true → options.stripped text ≠ []) :
    options.folded text ≠ [] := by
  have left : options.stripped text ≠ [] := by
    cases strips : options.diacriticInsensitive with
    | true => exact remains strips
    | false => simpa [stripped, strips] using some
  unfold folded
  split
  · exact Unicode.lowerText_ne_nil left
  · exact left

end ComparisonOptions

end PredicateRules
