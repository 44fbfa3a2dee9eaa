import PredicateRules.Proofs.Inheritance
import PredicateRules.Proofs.ModelHistory
import PredicateRules.Proofs.Progress.Building
import PredicateRules.Proofs.Progress.Specificity

namespace PredicateRules

namespace Predicate

theorem specificity_pos (predicate : Predicate) : 0 < predicate.specificity := by
  cases predicate with
  | value => exact Nat.one_pos
  | comparison => exact Nat.two_pos
  | compound kind parts => exact Nat.add_pos_left Nat.one_pos _

theorem specificity_le_partsIn (kind : CompoundKind) (predicate : Predicate) :
    predicate.specificity ≤ 1 + specificitySum (predicate.partsIn kind) := by
  unfold partsIn
  cases found : predicate.partsOf? kind with
  | some parts =>
      obtain rfl := eq_compound_of_partsOf? found
      exact Nat.le_of_eq (specificity.eq_3 kind parts)
  | none =>
      simp only [Option.getD_none, specificitySum]
      omega

/-- A compound has parts. -/
def Populated (predicate : Predicate) : Prop := ∀ kind, predicate.partsOf? kind ≠ some []

theorem populated_compound (kind : CompoundKind) {parts : List Predicate} (some : parts ≠ []) :
    (compound kind parts).Populated := by
  intro other same
  injection eq_compound_of_partsOf? same with _ none
  exact some none

theorem partsIn_ne_nil {predicate : Predicate} (populated : predicate.Populated) (kind : CompoundKind) :
    predicate.partsIn kind ≠ [] := by
  unfold partsIn
  cases found : predicate.partsOf? kind with
  | some parts =>
      rintro rfl
      exact populated kind found
  | none => exact List.cons_ne_nil _ _

theorem specificitySum_pos {parts : List Predicate} (some : parts ≠ []) : 0 < specificitySum parts := by
  obtain ⟨part, parts, rfl⟩ := List.exists_cons_of_ne_nil some
  exact Nat.add_pos_left part.specificity_pos _

/-- Whatever side gives its parts, the joined predicate asks for more than the left one. -/
theorem specificity_lt_fold (kind : CompoundKind) (left : Predicate) {right : Predicate}
    (populated : right.Populated) : left.specificity < (fold kind left right).specificity := by
  have least := specificity_le_partsIn kind left
  have positive := specificitySum_pos (partsIn_ne_nil populated kind)
  rcases fold_eq kind left right with same | same
  · rw [same, specificity, specificitySum_append]
    omega
  · rw [same, specificity, specificitySum_append]
    omega

theorem populated_fold (kind : CompoundKind) (left : Predicate) {right : Predicate}
    (populated : right.Populated) : (fold kind left right).Populated := by
  have some := partsIn_ne_nil populated kind
  rcases fold_eq kind left right with same | same
  · exact same ▸ populated_compound kind (List.append_ne_nil_of_right_ne_nil _ some)
  · exact same ▸ populated_compound kind (List.append_ne_nil_of_left_ne_nil some _)

theorem populated_built : Built Populated where
  value _ := nofun
  comparison _ := nofun
  negation _ := populated_compound _ (List.cons_ne_nil _ _)
  fold _ _ := populated_fold _ _

end Predicate

namespace Chain

/-- Every term that is a compound has parts. -/
structure Populated (chain : Chain) : Prop where
  first : chain.first.Populated
  further : ∀ term ∈ chain.further, term.2.Populated

theorem populated_of_accepted {text : String} {caseSensitive : Bool} {chain : Chain}
    (accepted : parse? text caseSensitive = some chain) : chain.Populated := by
  obtain ⟨stop, outcome⟩ := Parse.ok_of_outcome? accepted
  have yields : Parse.Yields Parse.wholeChain Populated := by
    have term := Parse.termOf_yields Predicate.populated_built Parser.nextArgument
    have terms : Parse.Yields (Parse.termsWith Chain.add (fun first => ⟨first, []⟩)
        (Parse.termOf Parser.nextArgument)) Populated := by
      refine Parse.Yields.bind term fun first populated => ?_
      refine Parse.joinFrom_yields term (fun kind chain right _ before more => ?_) ⟨populated, by simp⟩
      exact ⟨before.first, List.forall_mem_cons.mpr ⟨more, before.further⟩⟩
    exact Parse.Yields.bind terms fun chain populated =>
      Parse.Yields.bind (Parse.Yields.anything _) fun _ _ => Parse.Yields.pure populated
  exact yields _ _ _ outcome

theorem specificity_le_foldFrom {further : List (CompoundKind × Predicate)}
    (populated : ∀ term ∈ further, term.2.Populated) (left : Predicate) :
    left.specificity ≤ (foldFrom left further).specificity := by
  induction further with
  | nil => exact Nat.le_refl _
  | cons term before ih =>
      obtain ⟨own, others⟩ := List.forall_mem_cons.mp populated
      exact (ih others).trans (Predicate.specificity_lt_fold term.1 _ own).le

theorem specificity_lt_append (chain : Chain) {behind : Chain} (populated : behind.Populated) :
    chain.predicate.specificity < (chain.append behind).predicate.specificity := by
  have whole : (chain.append behind).predicate =
      foldFrom (.fold .and chain.predicate behind.first) behind.further :=
    foldFrom_append chain.first behind.further _
  rw [whole]
  exact (Predicate.specificity_lt_fold .and _ populated.first).trans_le
    (specificity_le_foldFrom populated.further _)

end Chain

theorem specifierText_append {path further : List String} (some : path ≠ []) (more : further ≠ []) :
    specifierText (path ++ further) = specifierText path ++ " AND " ++ specifierText further := by
  induction path with
  | nil => exact absurd rfl some
  | cons text path ih =>
      cases path with
      | nil =>
          obtain ⟨next, further, rfl⟩ := List.exists_cons_of_ne_nil more
          exact specifierText_cons text next further
      | cons next path =>
          rw [List.cons_append, List.cons_append, specifierText_cons, specifierText_cons,
            ← List.cons_append, ih (List.cons_ne_nil _ _)]
          simp only [String.append_assoc]

theorem specifierText_accepted {caseSensitive : Bool} {path : List String} (some : path ≠ [])
    (accepted : ∀ part ∈ path, ∃ predicate, Predicate.parse part [] caseSensitive = .ok predicate) :
    ∃ chain, Chain.parse? (specifierText path) caseSensitive = .some chain := by
  induction path with
  | nil => exact absurd rfl some
  | cons text path ih =>
      obtain ⟨⟨predicate, read⟩, others⟩ := List.forall_mem_cons.mp accepted
      obtain ⟨chain, found, _⟩ := (Chain.parse_eq text caseSensitive predicate).mp read
      cases path with
      | nil =>
          have same : specifierText [text] = text := String.intercalate_singleton
          exact ⟨chain, same ▸ found⟩
      | cons next path =>
          obtain ⟨behind, foundBehind⟩ := ih (List.cons_ne_nil _ _) others
          rw [specifierText_cons]
          exact ⟨chain.append behind, Chain.parse?_and found foundBehind⟩

namespace PlacedRule

variable {text : String} {caseSensitive : Bool} {rules : List PlacedRule}

/-- A rule under a longer path asks for more. -/
theorem specificity_lt_of_nested (accepted : PlacedRule.parseAll text caseSensitive = .ok rules)
    {outer inner : PlacedRule} (outerRule : outer ∈ rules) (innerRule : inner ∈ rules)
    {further : List String} (nested : inner.path = outer.path ++ further) (more : further ≠ []) :
    outer.rule.specifier.specificity < inner.rule.specifier.specificity := by
  obtain ⟨nonempty, reads⟩ := PlacedRule.parseAll_placed accepted outer outerRule
  have readsInner := (PlacedRule.parseAll_placed accepted inner innerRule).reads
  have parts := (parseAll_standing texts_accepted accepted inner innerRule).parts
  rw [nested] at readsInner parts
  obtain ⟨behind, foundBehind⟩ := specifierText_accepted more (List.forall_mem_append.mp parts).2
  obtain ⟨chain, found, same⟩ := (Chain.parse_eq _ caseSensitive _).mp reads
  obtain ⟨whole, foundWhole, sameInner⟩ := (Chain.parse_eq _ caseSensitive _).mp readsInner
  rw [specifierText_append nonempty more, Chain.parse?_and found foundBehind] at foundWhole
  obtain rfl := Option.some.inj foundWhole
  rw [← same, ← sameInner]
  exact Chain.specificity_lt_append chain (Chain.populated_of_accepted foundBehind)

theorem descends_of_ranks {declared bucket : List Rule} {bindings : Bindings} {key : String}
    (ranks : RuleIndex.Ranks declared bindings key bucket) :
    bucket.Pairwise fun first second => second.priority ≤ first.priority := by
  obtain ⟨ordered, _, precedes, rfl⟩ := ranks
  rw [List.pairwise_map]
  exact precedes.imp RuleIndex.Precedes.priority_le

theorem place_lt_of_descends {bucket : List Rule} {rule other : Rule} {place behind : Nat}
    (descends : bucket.Pairwise fun first second => second.priority ≤ first.priority)
    (higher : other.priority < rule.priority) (atPlace : bucket[place]? = some rule)
    (atBehind : bucket[behind]? = some other) : place < behind := by
  obtain ⟨insidePlace, rfl⟩ := List.getElem?_eq_some_iff.mp atPlace
  obtain ⟨insideBehind, rfl⟩ := List.getElem?_eq_some_iff.mp atBehind
  by_contra notBefore
  rcases Nat.eq_or_lt_of_le (Nat.le_of_not_lt notBefore) with same | before
  · subst same
    exact Int64.lt_irrefl higher
  · exact Int64.not_le.mpr higher
      (List.pairwise_iff_getElem.mp descends behind place insideBehind insidePlace before)

theorem mem_of_candidates? {declared bucket : List Rule} {bindings : Bindings} {rule : Rule}
    (listed : rule ∈ declared)
    (found : (Model.build declared bindings).candidates? rule.key = some bucket) :
    rule.substitute bindings ∈ bucket := by
  rw [Model.candidates?_build, if_pos ⟨rule, listed, rfl⟩] at found
  obtain rfl := Option.some.inj found
  refine (RuleIndex.bucketOf_perm _).mem_iff.mpr (List.mem_map_of_mem ?_)
  exact List.mem_filter.mpr ⟨listed, beq_self_eq_true _⟩

/-- No rule asks for more than the text of its path has bytes. -/
theorem specificity_le_utf8ByteSize (accepted : PlacedRule.parseAll text caseSensitive = .ok rules)
    {placed : PlacedRule} (member : placed ∈ rules) :
    placed.rule.specifier.specificity ≤ (specifierText placed.path).utf8ByteSize := by
  have read := Predicate.specificity_le_length (PlacedRule.parseAll_placed accepted placed member).reads
  refine read.trans ((Scanner.length_le_byteLength _).trans_eq ?_)
  rw [← Scanner.utf8ByteSize_ofList, String.ofList_toList]

/-- A rule under a longer path has a higher priority than a rule under the front of the path; and where
both are for the same key, it stands before that one, whatever the variables are bound to. A priority has
64 bits, and the joined text is held as one string, which has fewer bytes than that can count. -/
theorem nested_outranks (accepted : PlacedRule.parseAll text caseSensitive = .ok rules)
    {outer inner : PlacedRule} (outerRule : outer ∈ rules) (innerRule : inner ∈ rules)
    {further : List String} (nested : inner.path = outer.path ++ further) (more : further ≠ [])
    (sized : (specifierText inner.path).utf8ByteSize < 2 ^ 63) :
    outer.rule.priority < inner.rule.priority ∧
      ∀ bindings, inner.rule.key = outer.rule.key →
        ∃ bucket, (Model.build (rules.map PlacedRule.rule) bindings).candidates? outer.rule.key =
            some bucket ∧
          outer.rule.substitute bindings ∈ bucket ∧ inner.rule.substitute bindings ∈ bucket ∧
          ∀ place behind : Nat, bucket[place]? = some (inner.rule.substitute bindings) →
            bucket[behind]? = some (outer.rule.substitute bindings) → place < behind := by
  have standing := parseAll_standing texts_accepted accepted
  have higher : outer.rule.priority < inner.rule.priority := by
    have less := specificity_lt_of_nested accepted outerRule innerRule nested more
    have fits := specificity_le_utf8ByteSize accepted innerRule
    rw [(standing outer outerRule).priority, (standing inner innerRule).priority, Int64.lt_iff_toInt_lt,
      Int64.toInt_ofNat_of_lt (by omega), Int64.toInt_ofNat_of_lt (by omega)]
    exact Int.ofNat_lt.mpr less
  refine ⟨higher, fun bindings sameKey => ?_⟩
  have listed : outer.rule ∈ rules.map PlacedRule.rule := List.mem_map_of_mem outerRule
  have listedInner : inner.rule ∈ rules.map PlacedRule.rule := List.mem_map_of_mem innerRule
  have found := Model.candidates?_build (rules.map PlacedRule.rule) bindings outer.rule.key
  rw [if_pos ⟨outer.rule, listed, rfl⟩] at found
  refine ⟨_, found, mem_of_candidates? listed found,
    mem_of_candidates? listedInner (sameKey ▸ found), ?_⟩
  intro place behind atPlace atBehind
  have descends := descends_of_ranks (Model.ranks_of_candidates?_build found)
  have substituted : (outer.rule.substitute bindings).priority < (inner.rule.substitute bindings).priority :=
    higher
  exact place_lt_of_descends descends substituted atPlace atBehind

/-- What stands behind an OR in a nested text asks for more all the same. -/
theorem nested_outranks_disjunction :
    ∃ rules outer inner,
      PlacedRule.parseAll
        "FALSEPREDICATE \x7b k: 'x'; FALSEPREDICATE OR TRUEPREDICATE \x7b k: 'y' \x7d \x7d" false =
          .ok rules ∧
      outer ∈ rules ∧ inner ∈ rules ∧
      inner.path = outer.path ++ ["FALSEPREDICATE OR TRUEPREDICATE"] ∧
      (specifierText inner.path).utf8ByteSize < 2 ^ 63 ∧
      outer.rule.priority < inner.rule.priority ∧
      ∀ bindings, inner.rule.key = outer.rule.key →
        ∃ bucket, (Model.build (rules.map PlacedRule.rule) bindings).candidates? outer.rule.key =
            some bucket ∧
          outer.rule.substitute bindings ∈ bucket ∧ inner.rule.substitute bindings ∈ bucket ∧
          ∀ place behind : Nat, bucket[place]? = some (inner.rule.substitute bindings) →
            bucket[behind]? = some (outer.rule.substitute bindings) → place < behind := by
  have read : (PlacedRule.parseAll
      "FALSEPREDICATE \x7b k: 'x'; FALSEPREDICATE OR TRUEPREDICATE \x7b k: 'y' \x7d \x7d"
      false).toOption.map (List.map PlacedRule.path) =
        some [["FALSEPREDICATE"], ["FALSEPREDICATE", "FALSEPREDICATE OR TRUEPREDICATE"]] := by
    decide +kernel
  obtain ⟨rules, accepted, paths⟩ := Parse.ok_of_map_toOption read
  obtain ⟨outer, further, rfl, above, paths⟩ := List.map_eq_cons_iff.mp paths
  obtain ⟨inner, rest, rfl, below, -⟩ := List.map_eq_cons_iff.mp paths
  have path : inner.path = outer.path ++ ["FALSEPREDICATE OR TRUEPREDICATE"] := by
    rw [above, below]
    rfl
  have sized : (specifierText inner.path).utf8ByteSize < 2 ^ 63 := by
    rw [below]
    decide +kernel
  exact ⟨_, outer, inner, accepted, by simp, by simp, path, sized,
    nested_outranks accepted (by simp) (by simp) path (by simp) sized⟩

end PlacedRule

end PredicateRules
