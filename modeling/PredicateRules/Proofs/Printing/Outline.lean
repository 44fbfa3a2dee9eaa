import PredicateRules.Proofs.Inheritance
import PredicateRules.Proofs.Nesting
import PredicateRules.Proofs.Printing.Specifier

namespace PredicateRules

open PredicateRules.Parser

/-- What is left of a body: a declaration or a nested ruleset comes first. -/
inductive Outline where
  | done
  | declare (declaration : Declaration) (next : Outline)
  | nest (specifiers : List Specifier) (body next : Outline)

/-- Specifiers with the body behind them. -/
structure RulesetOutline where
  specifiers : List Specifier
  body : Outline

namespace Outline

section

variable (describe : Object → String)

def headText (specifiers : List Specifier) : String :=
  Value.commaSeparated (specifiers.map (Specifier.text describe))

def text : Outline → String
  | done => ""
  | declare declaration next => declaration.text describe ++ " " ++ next.text
  | nest specifiers body next =>
    headText describe specifiers ++ " \x7b " ++ body.text ++ "\x7d " ++ next.text

end

def declarations : Outline → List Declaration
  | done => []
  | declare declaration next => declaration :: next.declarations
  | nest _ _ next => next.declarations

/-- Each specifier under each path, the paths in order. -/
def pathsUnder (parents : List (List Specifier)) (specifiers : List Specifier) :
    List (List Specifier) :=
  parents.flatMap fun parent => specifiers.map fun specifier => parent ++ [specifier]

def pairs (paths : List (List Specifier)) (declarations : List Declaration) :
    List (List Specifier × Declaration) :=
  paths.flatMap fun path => declarations.map fun declaration => (path, declaration)

/-- What each of the nested rulesets lists under the paths. -/
def nested (paths : List (List Specifier)) : Outline → List (List (List Specifier × Declaration))
  | done => []
  | declare _ next => next.nested paths
  | nest specifiers body next =>
    let own := pathsUnder paths specifiers
    (pairs own body.declarations ++ (body.nested own).flatten) :: next.nested paths

inductive IsWritable : Outline → Prop where
  | done : IsWritable done
  | declare {declaration : Declaration} {next : Outline} (plain : declaration.IsPlain)
      (further : IsWritable next) : IsWritable (declare declaration next)
  | nest {specifiers : List Specifier} {body next : Outline} (some : specifiers ≠ [])
      (printable : ∀ specifier ∈ specifiers, specifier.predicate.IsPrintable)
      (inside : IsWritable body) (further : IsWritable next) :
      IsWritable (nest specifiers body next)

theorem IsWritable.declared {outline : Outline} (writable : IsWritable outline) :
    ∀ declaration ∈ outline.declarations, declaration.IsPlain := by
  induction writable with
  | done => exact List.forall_mem_nil _
  | declare plain _ ih => exact List.forall_mem_cons.mpr ⟨plain, ih⟩
  | nest _ _ _ _ _ ih => exact ih

end Outline

namespace RulesetOutline

def text (describe : Object → String) (ruleset : RulesetOutline) : String :=
  Outline.headText describe ruleset.specifiers ++ " \x7b " ++ ruleset.body.text describe ++ "\x7d"

/-- The rules of a ruleset, each as the path and the declaration it comes from: first those of its own
declarations and then those of the nested rulesets. -/
def rules (ruleset : RulesetOutline) (parents : List (List Specifier)) :
    List (List Specifier × Declaration) :=
  let own := Outline.pathsUnder parents ruleset.specifiers
  Outline.pairs own ruleset.body.declarations ++ (ruleset.body.nested own).flatten

structure IsWritable (ruleset : RulesetOutline) : Prop where
  some : ruleset.specifiers ≠ []
  printable : ∀ specifier ∈ ruleset.specifiers, specifier.predicate.IsPrintable
  body : ruleset.body.IsWritable

def modelText (describe : Object → String) : List RulesetOutline → String
  | [] => ""
  | ruleset :: rulesets => ruleset.text describe ++ " " ++ modelText describe rulesets

end RulesetOutline

namespace Parse

variable {caseSensitive : Bool} {text rest behind : List Char} {describe : Object → String}

theorem specifier_isTerms {specifier : Specifier} (printable : specifier.predicate.IsPrintable) :
    IsTerms caseSensitive (specifier.text describe).toList specifier.predicate.spliced := by
  have isTerms : IsTerms caseSensitive _ specifier.predicate.spliced :=
    printable_isTerms describe printable
  unfold Specifier.text
  split
  · exact isTerms.toList_enclosed.2.terms
  · exact isTerms

theorem specifier_written {specifier : Specifier} (printable : specifier.predicate.IsPrintable)
    (ends : Ends rest) (alone : Behind joinWords rest) :
    Takes caseSensitive ((specifier.text describe).toList ++ rest) Parse.specifier
      (specifier.text describe) rest := by
  have specifies : Specifies (specifier.text describe).toList := specifies_specifier printable
  have taken : Takes caseSensitive ((specifier.text describe).toList ++ rest) Parse.predicate _ rest :=
    predicateWith_taken (specifier_isTerms printable) ends alone
  have cut := specifier_taken taken specifies.some specifies.trimmed
  rwa [String.ofList_toList] at cut

/-- The texts of specifiers with a comma between each two. -/
abbrev headLetters (describe : Object → String) (specifiers : List Specifier) : List Char :=
  listText (specifiers.map fun specifier => (specifier.text describe).toList)

theorem toList_headText (specifiers : List Specifier) :
    (Outline.headText describe specifiers).toList = headLetters describe specifiers := by
  rw [Outline.headText, toList_commaSeparated, List.map_map]
  rfl

theorem specifiersFrom_taken {first : Specifier} {others : List Specifier}
    (printable : ∀ specifier ∈ first :: others, specifier.predicate.IsPrintable) (read : List String) :
    Recurs caseSensitive (headLetters describe (first :: others) ++ ' ' :: '\x7b' :: rest)
      (fun again texts => do
        let text ← Parse.specifier
        if ← literal "," then again (text :: texts) else return (text :: texts).reverse) read
      (read.reverse ++ (first :: others).map (Specifier.text describe)) (' ' :: '\x7b' :: rest) := by
  induction others generalizing first read with
  | nil =>
      intro depth enough
      obtain ⟨depth, rfl⟩ : ∃ less, depth = less + 1 := ⟨depth - 1, by omega⟩
      have ends : Ends (' ' :: '\x7b' :: rest) := (ends_closer (by decide) rest).after_space
      have alone : Behind joinWords ('\x7b' :: rest) := alone_closer (by decide) rest
      refine (specifier_written (printable first (by simp)) ends alone).bind ?_
      refine (literal_other "," (by decide) ?_).bind ?_
      · show (('\x7b' :: rest).dropWhile CharClass.skipped).head? ≠ _
        exact head?_ne (by decide) (by decide)
      · rw [List.map_singleton, ← List.reverse_cons]
        exact .pure _
  | cons next others ih =>
      intro depth enough
      obtain ⟨depth, rfl⟩ : ∃ less, depth = less + 1 := ⟨depth - 1, by omega⟩
      have whole : headLetters describe (first :: next :: others) ++ ' ' :: '\x7b' :: rest =
          (first.text describe).toList ++
            ',' :: ' ' :: (headLetters describe (next :: others) ++ ' ' :: '\x7b' :: rest) := by
        simp [headLetters, listText]
      have result : read.reverse ++ (first :: next :: others).map (Specifier.text describe) =
          (first.text describe :: read).reverse ++ (next :: others).map (Specifier.text describe) := by
        simp
      rw [whole] at enough ⊢
      rw [textWeight_append, textWeight_cons (by decide), textWeight_space] at enough
      rw [result]
      have closer : ',' ∈ closers.toList := by decide
      refine (specifier_written (printable first (by simp)) (ends_closer closer _)
        (alone_closer closer _)).bind ?_
      refine (literal_taken "," (by decide)).bind (Takes.after_space ?_)
      exact ih (fun specifier member => printable specifier (by simp [member]))
        (first.text describe :: read) depth (by omega)

theorem specifiers_taken {own : List Specifier} (some : own ≠ [])
    (printable : ∀ specifier ∈ own, specifier.predicate.IsPrintable) :
    Takes caseSensitive (headLetters describe own ++ ' ' :: '\x7b' :: rest) Parse.specifiers
      (own.map (Specifier.text describe)) (' ' :: '\x7b' :: rest) := by
  obtain ⟨first, others, rfl⟩ := List.exists_cons_of_ne_nil some
  exact (specifiersFrom_taken printable []).takes

theorem predicate_rejected (barren : Barren text)
    (differs : (text.dropWhile CharClass.skipped).head? ≠ some '!') :
    Rejects caseSensitive text Parse.predicate := by
  have unled : ∀ word ∈ leadingWords,
      meetsWord caseSensitive word.toList (text.dropWhile CharClass.skipped) = false := by
    have kinds : ∀ word ∈ leadingWords, word = "!" ∨ word.toList.head?.any Char.isAlpha = true := by
      decide
    intro word member
    rcases kinds word member with rfl | lettered
    · rw [meetsWord, startsWith_other "!" (by decide) differs, Bool.false_and]
    · exact meetsWord_symbol lettered barren.symbol
  have comparison : Rejects caseSensitive text (Parse.comparison Parser.nextArgument) := by
    have operand : Rejects caseSensitive text (expressionWith Parser.nextArgument) :=
      fun parser facing => binary_rejected barren parser facing
    refine (firstKeyword_missing (fun entry member => (modifierWords_solid entry member).1) ?_).rejects
      operand.bind
    exact firstMet_symbol (by decide) barren.symbol
  have term : Rejects caseSensitive text (termOf Parser.nextArgument) :=
    fun parser facing => termWith_rejected (barren.differs (by decide)) unled comparison parser facing
  exact term.bind

theorem specifiers_rejected (rejects : Rejects caseSensitive text Parse.predicate) :
    Rejects caseSensitive text Parse.specifiers := by
  have specifier : Rejects caseSensitive text Parse.specifier := by
    intro parser facing
    obtain ⟨error, stop, failed, kept⟩ := rejects parser facing
    refine ⟨error, stop, ?_, kept⟩
    rw [Setting.specifier_eq, failed]
  exact fun parser facing => specifier.bind parser facing

theorem ruleset_rejected (barren : Barren text)
    (differs : (text.dropWhile CharClass.skipped).head? ≠ some '!') (depth : Nat)
    (parents : List (List String)) :
    Rejects caseSensitive text (recurseTo (rulesetWith caseSensitive) depth parents) := by
  cases depth with
  | zero => exact .fail _
  | succ depth =>
      exact (specifiers_rejected (predicate_rejected barren differs)).tried.rejects (.fail _)

/-- A path of specifiers that can be written. -/
structure Readable (path : List Specifier) : Prop where
  nonempty : path ≠ []
  printable : ∀ specifier ∈ path, specifier.predicate.IsPrintable

/-- What the joined text of a path denotes. -/
def Denoted (caseSensitive : Bool) (describe : Object → String) (path : List Specifier)
    (predicate : Predicate) : Prop :=
  Predicate.parse (specifierText (path.map (Specifier.text describe))) [] caseSensitive = .ok predicate

theorem chain_of_specifier (describe : Object → String) (caseSensitive : Bool) {specifier : Specifier}
    (printable : specifier.predicate.IsPrintable) :
    ∃ chain, Chain.parse? (specifier.text describe) caseSensitive = some chain := by
  have isTerms : IsTerms caseSensitive (specifier.text describe).toList specifier.predicate.spliced :=
    specifier_isTerms printable
  obtain ⟨chain, found, _⟩ := (Chain.parse_eq _ _ _).mp (Predicate.parse_of_isTerms isTerms [])
  exact ⟨chain, found⟩

theorem chain_of_path (describe : Object → String) (caseSensitive : Bool) {first : Specifier}
    {path : List Specifier}
    (printable : ∀ specifier ∈ first :: path, specifier.predicate.IsPrintable) :
    ∃ chain, Chain.parse? (specifierText ((first :: path).map (Specifier.text describe)))
      caseSensitive = some chain := by
  obtain ⟨chain, found⟩ := chain_of_specifier describe caseSensitive (printable first (by simp))
  induction path generalizing first chain with
  | nil =>
      have same : specifierText [first.text describe] = first.text describe := String.intercalate_singleton
      exact ⟨chain, by rwa [List.map_singleton, same]⟩
  | cons next path ih =>
      have further := fun specifier member => printable specifier (List.mem_cons_of_mem first member)
      obtain ⟨chainNext, foundNext⟩ := chain_of_specifier describe caseSensitive (further next (by simp))
      obtain ⟨behind, foundBehind⟩ := ih further chainNext foundNext
      rw [List.map_cons, List.map_cons, specifierText_cons]
      exact ⟨_, Chain.parse?_and found foundBehind⟩

theorem Readable.denoted {path : List Specifier} (readable : Readable path) :
    ∃ predicate, Denoted caseSensitive describe path predicate := by
  obtain ⟨first, others, rfl⟩ := List.exists_cons_of_ne_nil readable.nonempty
  obtain ⟨chain, found⟩ := chain_of_path describe caseSensitive readable.printable
  exact ⟨_, (Chain.parse_eq _ _ _).mpr ⟨chain, found, rfl⟩⟩

theorem pathsUnder_ne_nil {parents : List (List Specifier)} {own : List Specifier}
    (above : parents ≠ []) (some : own ≠ []) : Outline.pathsUnder parents own ≠ [] := by
  obtain ⟨parent, parents, rfl⟩ := List.exists_cons_of_ne_nil above
  obtain ⟨first, others, rfl⟩ := List.exists_cons_of_ne_nil some
  simp [Outline.pathsUnder]

theorem readable_under {parents : List (List Specifier)} {own : List Specifier}
    (above : ∀ path ∈ parents, ∀ specifier ∈ path, specifier.predicate.IsPrintable)
    (printable : ∀ specifier ∈ own, specifier.predicate.IsPrintable) :
    ∀ path ∈ Outline.pathsUnder parents own, Readable path := by
  intro path member
  obtain ⟨parent, listed, member⟩ := List.mem_flatMap.mp member
  obtain ⟨specifier, last, rfl⟩ := List.mem_map.mp member
  refine ⟨by simp, fun other listedOther => ?_⟩
  rcases List.mem_append.mp listedOther with listedOther | listedOther
  · exact above parent listed other listedOther
  · obtain rfl := List.mem_singleton.mp listedOther
    exact printable other last

theorem printable_top :
    ∀ path ∈ [([] : List Specifier)], ∀ specifier ∈ path, specifier.predicate.IsPrintable := by
  simp

def pathTexts (describe : Object → String) (paths : List (List Specifier)) : List (List String) :=
  paths.map fun path => path.map (Specifier.text describe)

theorem joinedPaths_under {parents : List (List Specifier)} (some : parents ≠ [])
    (own : List Specifier) :
    joinedPaths (pathTexts describe parents) (own.map (Specifier.text describe)) =
      pathTexts describe (Outline.pathsUnder parents own) := by
  have more : (pathTexts describe parents).isEmpty = false := by
    simpa [pathTexts] using some
  rw [joinedPaths, if_neg (by simp [more])]
  simp [pathTexts, Outline.pathsUnder, List.map_flatMap, List.flatMap_map, Function.comp_def]

theorem joinedPaths_top (own : List Specifier) :
    joinedPaths [] (own.map (Specifier.text describe)) =
      pathTexts describe (Outline.pathsUnder [[]] own) := by
  simp [joinedPaths, pathTexts, Outline.pathsUnder]

section

variable (describe) (meaning : List Specifier → Predicate)

def placed (entry : List Specifier × Declaration) : PlacedRule where
  path := entry.1.map (Specifier.text describe)
  rule := {
    specifier := meaning entry.1
    key := entry.2.key
    value := entry.2.value
    weight := 0
    priority := Rule.priorityOf (meaning entry.1) 0 }

variable {describe meaning} {declarations : List Declaration}
  (plain : ∀ declaration ∈ declarations, declaration.IsPlain)

include plain

theorem rulesFor_plain (path : List Specifier) :
    rulesFor (path.map (Specifier.text describe)) (meaning path) declarations =
      .ok (declarations.map fun declaration => placed describe meaning (path, declaration)) := by
  induction declarations with
  | nil => rfl
  | cons declaration declarations ih =>
      have keyed : declaration.key.isEmpty = false := by
        have letters := (plain declaration (by simp)).keyed
        simpa using letters
      have others := ih fun other member => plain other (by simp [member])
      simp only [rulesFor, Rule.make, keyed, others]
      rfl

theorem rulesForEach_plain {paths : List (List Specifier)}
    (denoted : ∀ path ∈ paths, Denoted caseSensitive describe path (meaning path)) :
    rulesForEach caseSensitive declarations (pathTexts describe paths) =
      .ok ((Outline.pairs paths declarations).map (placed describe meaning)) := by
  induction paths with
  | nil => rfl
  | cons path paths ih =>
      have first : Predicate.parse _ [] caseSensitive = _ := denoted path (by simp)
      have others := ih fun other member => denoted other (by simp [member])
      have own : rulesFor (path.map (Specifier.text describe)) (meaning path) declarations = _ :=
        rulesFor_plain plain path
      show rulesForEach caseSensitive declarations (_ :: pathTexts describe paths) = _
      simp only [rulesForEach, bind, Except.bind, first, own, others, pure, Except.pure]
      simp [Outline.pairs]

end

abbrev rulesetLetters (describe : Object → String) (specifiers : List Specifier) (body : Outline)
    (rest : List Char) : List Char :=
  headLetters describe specifiers ++ ' ' :: '\x7b' :: ' ' :: ((body.text describe).toList ++ '\x7d' :: rest)

/-- The body is read up to its end, under whatever paths. -/
def BodyTaken (caseSensitive : Bool) (describe : Object → String)
    (meaning : List Specifier → Predicate) (body : Outline) : Prop :=
  ∀ paths, paths ≠ [] → (∀ path ∈ paths, Readable path) → ∀ (read : Body) depth rest,
    textWeight ((body.text describe).toList ++ '\x7d' :: rest) ≤ depth →
    Recurs caseSensitive ((body.text describe).toList ++ '\x7d' :: rest)
      (bodyStep (recurseTo (rulesetWith caseSensitive) depth (pathTexts describe paths))) read
      ⟨body.declarations.reverse ++ read.declarations,
        ((body.nested paths).map (List.map (placed describe meaning))).reverse ++ read.nested⟩
      ('\x7d' :: rest)

section

variable {meaning : List Specifier → Predicate} {specifiers : List Specifier} {body : Outline}
  (denoted : ∀ path, Readable path → Denoted caseSensitive describe path (meaning path))
  (taken : BodyTaken caseSensitive describe meaning body)
  (plain : ∀ declaration ∈ body.declarations, declaration.IsPlain)
  (some : specifiers ≠ []) (printable : ∀ specifier ∈ specifiers, specifier.predicate.IsPrintable)

include denoted taken plain some printable

theorem rulesetWith_taken {parents : List (List String)} {paths : List (List Specifier)}
    (joined : joinedPaths parents (specifiers.map (Specifier.text describe)) = pathTexts describe paths)
    (nonempty : paths ≠ []) (readable : ∀ path ∈ paths, Readable path) {depth : Nat}
    (enough : textWeight (rulesetLetters describe specifiers body rest) ≤ depth + 1) :
    Takes caseSensitive (rulesetLetters describe specifiers body rest)
      (rulesetWith caseSensitive (recurseTo (rulesetWith caseSensitive) depth) parents)
      ((Outline.pairs paths body.declarations ++ (body.nested paths).flatten).map
        (placed describe meaning)) rest := by
  have inside : textWeight ((body.text describe).toList ++ '\x7d' :: rest) ≤ depth := by
    rw [textWeight_append, textWeight_space, textWeight_cons (by decide), textWeight_space] at enough
    omega
  refine (specifiers_taken some printable).tried.bind (Takes.after_space ?_)
  refine (expect_taken "\x7b" (by decide) _).bind (Takes.after_space ?_)
  have held := (taken paths nonempty readable ⟨[], []⟩ depth rest inside).takes
  rw [← joined] at held
  refine Takes.bind held ((expect_taken "\x7d" (by decide) _).bind ?_)
  have made := rulesForEach_plain plain fun path member => denoted path (readable path member)
  simp only [List.append_nil, List.reverse_reverse, joined, made]
  rw [List.map_append, List.map_flatten]
  exact .pure _

end

theorem undeclared_head {first : Specifier} {others : List Specifier}
    (printable : first.predicate.IsPrintable) :
    Undeclared (headLetters describe (first :: others) ++ ' ' :: '\x7b' :: rest) := by
  have specifies : Specifies (first.text describe).toList := specifies_specifier printable
  cases others with
  | nil => exact specifies.undeclared _ (ends_closer (by decide) rest).after_space
  | cons next others =>
      have whole : headLetters describe (first :: next :: others) ++ ' ' :: '\x7b' :: rest =
          (first.text describe).toList ++
            ',' :: ' ' :: (headLetters describe (next :: others) ++ ' ' :: '\x7b' :: rest) := by
        simp [headLetters, listText]
      rw [whole]
      exact specifies.undeclared _ (ends_closer (by decide) _)

/-- A body is read item by item: no ruleset is taken for a declaration, and none is found at its end. -/
theorem body_taken {meaning : List Specifier → Predicate} {body : Outline}
    (denoted : ∀ path, Readable path → Denoted caseSensitive describe path (meaning path))
    (writable : body.IsWritable) : BodyTaken caseSensitive describe meaning body := by
  induction writable with
  | done =>
      intro paths _ _ read depth rest _ fuel more
      obtain ⟨fuel, rfl⟩ : ∃ less, fuel = less + 1 := ⟨fuel - 1, by omega⟩
      -- A closing brace begins neither a declaration nor a ruleset.
      have closes : (('\x7d' :: rest).dropWhile CharClass.skipped).head? = Option.some '\x7d' := by rfl
      have rejected : Rejects caseSensitive ('\x7d' :: rest)
          (recurseTo (rulesetWith caseSensitive) depth (pathTexts describe paths)) :=
        ruleset_rejected (barren_closer (by decide) closes) (by rw [closes]; decide) depth _
      have undeclared : Undeclared ('\x7d' :: rest) := undeclared_first (by decide) (by decide) (by decide)
      exact (declaration_rejected undeclared).tried.bind (rejected.tried.bind (.pure read))
  | @declare declaration next plain _ ih =>
      intro paths nonempty readable read depth rest enough fuel more
      obtain ⟨fuel, rfl⟩ : ∃ less, fuel = less + 1 := ⟨fuel - 1, by omega⟩
      have whole : ((Outline.declare declaration next).text describe).toList ++ '\x7d' :: rest =
          declaration.key.toList ++ ':' :: ' ' :: ((declaration.value.text describe).toList ++
            ';' :: ' ' :: ((next.text describe).toList ++ '\x7d' :: rest)) := by
        simp [Outline.text, Declaration.text]
      have items : (declaration :: next.declarations).reverse ++ read.declarations =
          next.declarations.reverse ++ declaration :: read.declarations := by
        simp
      rw [whole] at enough more ⊢
      simp only [textWeight_append, textWeight_cons (by decide : CharClass.skipped ';' = false),
        textWeight_cons (by decide : CharClass.skipped ':' = false), textWeight_space] at enough more
      simp only [Outline.declarations, items]
      refine (declaration_taken plain).tried.bind ((literal_taken ";" (by decide)).bind ?_)
      have weight := textWeight_append (next.text describe).toList ('\x7d' :: rest)
      exact (ih paths nonempty readable { read with declarations := declaration :: read.declarations }
        depth rest (by omega) fuel (by omega)).after_space
  | @nest specifiers inner next some printable inside _ ihInner ihNext =>
      intro paths nonempty readable read depth rest enough fuel more
      obtain ⟨fuel, rfl⟩ : ∃ less, fuel = less + 1 := ⟨fuel - 1, by omega⟩
      have whole : ((Outline.nest specifiers inner next).text describe).toList ++ '\x7d' :: rest =
          rulesetLetters describe specifiers inner
            (' ' :: ((next.text describe).toList ++ '\x7d' :: rest)) := by
        simp [Outline.text, toList_headText]
      obtain ⟨first, others, rfl⟩ := List.exists_cons_of_ne_nil some
      have undeclared : Undeclared (rulesetLetters describe (first :: others) inner
          (' ' :: ((next.text describe).toList ++ '\x7d' :: rest))) :=
        undeclared_head (printable first (by simp))
      rw [whole] at enough more ⊢
      -- Behind the braces there is less text, so the fuel that is left is enough for it.
      have further : textWeight ((next.text describe).toList ++ '\x7d' :: rest) <
          textWeight (rulesetLetters describe (first :: others) inner
            (' ' :: ((next.text describe).toList ++ '\x7d' :: rest))) := by
        simp only [rulesetLetters, textWeight_append, textWeight_space,
          textWeight_cons (by decide : CharClass.skipped '\x7b' = false),
          textWeight_cons (by decide : CharClass.skipped '\x7d' = false)]
        omega
      obtain ⟨depth, rfl⟩ : ∃ less, depth = less + 1 := ⟨depth - 1, by omega⟩
      have own := readable_under (fun path member => (readable path member).printable) printable
      have ruleset := rulesetWith_taken denoted ihInner inside.declared some printable
        (joinedPaths_under nonempty _) (pathsUnder_ne_nil nonempty some) own enough
      refine (declaration_rejected undeclared).tried.bind (ruleset.tried.bind ?_)
      simp only [Outline.nested, Outline.declarations, List.map_cons, List.reverse_cons,
        List.append_assoc, List.singleton_append]
      exact (ihNext paths nonempty readable { read with nested := _ :: read.nested } (depth + 1) rest
        (by omega) fuel (by omega)).after_space

theorem toList_ruleset (ruleset : RulesetOutline) (rest : List Char) :
    (ruleset.text describe).toList ++ rest =
      rulesetLetters describe ruleset.specifiers ruleset.body rest := by
  simp [RulesetOutline.text, toList_headText]

/-- A ruleset at the top is read up to the end of its body. -/
theorem ruleset_taken {meaning : List Specifier → Predicate} {ruleset : RulesetOutline}
    (denoted : ∀ path, Readable path → Denoted caseSensitive describe path (meaning path))
    (writable : ruleset.IsWritable) :
    Takes caseSensitive ((ruleset.text describe).toList ++ rest) (Parse.ruleset caseSensitive [])
      ((ruleset.rules [[]]).map (placed describe meaning)) rest := by
  rw [toList_ruleset]
  have recurs : Recurs caseSensitive (rulesetLetters describe ruleset.specifiers ruleset.body rest)
      (rulesetWith caseSensitive) [] ((ruleset.rules [[]]).map (placed describe meaning)) rest := by
    intro depth enough
    obtain ⟨depth, rfl⟩ : ∃ less, depth = less + 1 := ⟨depth - 1, by omega⟩
    exact rulesetWith_taken denoted (body_taken denoted writable.body) writable.body.declared
      writable.some writable.printable (joinedPaths_top _)
      (pathsUnder_ne_nil (List.cons_ne_nil _ _) writable.some) (readable_under printable_top writable.printable)
      (by omega)
  exact recurs.takes

theorem rulesetsFrom_taken {meaning : List Specifier → Predicate} {rulesets : List RulesetOutline}
    (denoted : ∀ path, Readable path → Denoted caseSensitive describe path (meaning path))
    (writable : ∀ ruleset ∈ rulesets, ruleset.IsWritable) (found : List (List PlacedRule)) :
    Repeats caseSensitive (RulesetOutline.modelText describe rulesets).toList
      (fun found => do return (← tried (Parse.ruleset caseSensitive [])).map (· :: found)) found
      ((rulesets.map fun ruleset => (ruleset.rules [[]]).map (placed describe meaning)).reverse ++
        found) [] := by
  induction rulesets generalizing found with
  | nil =>
      have rejected : Rejects caseSensitive [] (Parse.ruleset caseSensitive []) :=
        fun parser facing => ruleset_rejected (by decide) (by decide) _ [] parser facing
      exact .done (rejected.tried.bind (.pure _))
  | cons ruleset rulesets ih =>
      have whole : (RulesetOutline.modelText describe (ruleset :: rulesets)).toList =
          (ruleset.text describe).toList ++ ' ' :: (RulesetOutline.modelText describe rulesets).toList := by
        simp [RulesetOutline.modelText]
      have less : textWeight (RulesetOutline.modelText describe rulesets).toList <
          textWeight ((ruleset.text describe).toList ++
            ' ' :: (RulesetOutline.modelText describe rulesets).toList) := by
        rw [toList_ruleset]
        simp only [rulesetLetters, textWeight_append, textWeight_space,
          textWeight_cons (by decide : CharClass.skipped '\x7b' = false),
          textWeight_cons (by decide : CharClass.skipped '\x7d' = false)]
        omega
      have taken : Takes caseSensitive (_ ++ ' ' :: (RulesetOutline.modelText describe rulesets).toList)
          (Parse.ruleset caseSensitive []) _ _ := ruleset_taken denoted (writable ruleset (by simp))
      rw [whole]
      refine .next (taken.before_space.tried.bind (.pure _)) less ?_
      have others := ih (fun other member => writable other (by simp [member]))
        ((ruleset.rules [[]]).map (placed describe meaning) :: found)
      simpa using others

theorem readable_pairs {paths : List (List Specifier)} (readable : ∀ path ∈ paths, Readable path)
    (declarations : List Declaration) :
    ∀ entry ∈ Outline.pairs paths declarations, Readable entry.1 := by
  intro entry member
  obtain ⟨path, listed, member⟩ := List.mem_flatMap.mp member
  obtain ⟨declaration, _, rfl⟩ := List.mem_map.mp member
  exact readable path listed

theorem readable_nested {body : Outline} (writable : body.IsWritable) {paths : List (List Specifier)}
    (readable : ∀ path ∈ paths, Readable path) :
    ∀ entries ∈ body.nested paths, ∀ entry ∈ entries, Readable entry.1 := by
  induction writable generalizing paths with
  | done => exact List.forall_mem_nil _
  | declare _ _ ih => exact ih readable
  | nest _ printable _ _ ihInner ihNext =>
      have own := readable_under (fun path member => (readable path member).printable) printable
      refine List.forall_mem_cons.mpr ⟨fun entry member => ?_, ihNext readable⟩
      rcases List.mem_append.mp member with member | member
      · exact readable_pairs own _ entry member
      · obtain ⟨entries, listed, member⟩ := List.mem_flatten.mp member
        exact ihInner own entries listed entry member

theorem readable_rules {ruleset : RulesetOutline} (writable : ruleset.IsWritable) :
    ∀ entry ∈ ruleset.rules [[]], Readable entry.1 := by
  have own := readable_under printable_top writable.printable
  intro entry member
  rcases List.mem_append.mp member with member | member
  · exact readable_pairs own _ entry member
  · obtain ⟨entries, listed, member⟩ := List.mem_flatten.mp member
    exact readable_nested writable.body own entries listed entry member

theorem denoted_single {specifier : Specifier} (readable : Readable [specifier]) {predicate : Predicate}
    (denoted : Denoted caseSensitive describe [specifier] predicate) :
    predicate = specifier.predicate.spliced := by
  have isTerms : IsTerms caseSensitive (specifier.text describe).toList specifier.predicate.spliced :=
    specifier_isTerms (readable.printable specifier (by simp))
  have same : specifierText ([specifier].map (Specifier.text describe)) = specifier.text describe :=
    String.intercalate_singleton
  rw [Denoted, same, Predicate.parse_of_isTerms isTerms] at denoted
  exact (Except.ok.inj denoted).symm

end Parse

/-- The text of rulesets denotes the rules that they list, no more and in the same order. A specifier is
what the texts of its path denote when they are joined; at the top it is its own tree. -/
theorem RulesetOutline.parseAll_modelText {rulesets : List RulesetOutline}
    (writable : ∀ ruleset ∈ rulesets, ruleset.IsWritable) (describe : Object → String)
    (caseSensitive : Bool) :
    ∃ rules, Rule.parseAll (modelText describe rulesets) caseSensitive = .ok rules ∧
      List.Forall₂ (fun (rule : Rule) (entry : List Specifier × Declaration) =>
          Predicate.parse (specifierText (entry.1.map (Specifier.text describe))) [] caseSensitive =
              .ok rule.specifier ∧
            (∀ specifier, entry.1 = [specifier] → rule.specifier = specifier.predicate.spliced) ∧
            rule.key = entry.2.key ∧ rule.value = entry.2.value ∧ rule.weight = 0)
        rules (rulesets.flatMap fun ruleset => ruleset.rules [[]]) := by
  have exists_ : ∀ path, ∃ predicate, Parse.Readable path →
      Parse.Denoted caseSensitive describe path predicate := by
    intro path
    by_cases readable : Parse.Readable path
    · obtain ⟨predicate, denoted⟩ : ∃ predicate, Parse.Denoted caseSensitive describe path predicate :=
        readable.denoted
      exact ⟨predicate, fun _ => denoted⟩
    · exact ⟨.value true, fun other => absurd other readable⟩
  choose meaning denoted using exists_
  obtain ⟨stop, same, facing, _⟩ := (Parse.rulesetsFrom_taken denoted writable []).takes
    (Parser.ofModel (modelText describe rulesets) caseSensitive) ⟨rfl, rfl, rfl⟩
  have accepted : Rule.parseAll (modelText describe rulesets) caseSensitive =
      .ok ((rulesets.flatMap fun ruleset => ruleset.rules [[]]).map fun entry =>
        (Parse.placed describe meaning entry).rule) := by
    rw [Rule.parseAll_eq, Parse.parseAll_eq_ok.mpr ⟨_, stop, same, facing.ahead, rfl⟩]
    simp [Except.map, List.flatMap, Function.comp_def]
  refine ⟨_, accepted, ?_⟩
  rw [List.forall₂_map_left_iff, List.forall₂_same]
  intro entry member
  obtain ⟨ruleset, own, member⟩ := List.mem_flatMap.mp member
  have readable := Parse.readable_rules (writable ruleset own) entry member
  refine ⟨denoted _ readable, fun specifier single => ?_, rfl, rfl, rfl⟩
  have found := denoted _ readable
  rw [single] at readable found
  show meaning entry.1 = _
  rw [single]
  exact Parse.denoted_single readable found

def RulesetOutline.around : RulesetOutline where
  specifiers := [⟨.direct (.keyPath "a") .equalTo (.constant (.int 1)), false⟩, ⟨.value false, true⟩]
  body := .declare ⟨"k", .constant (.int (-1))⟩
    (.nest [⟨.value true, false⟩] (.declare ⟨"l", .constant (.int 2)⟩ .done)
      (.declare ⟨"m", .keyPath "b"⟩ .done))

/-- The declarations of the body come before those of the nested ruleset, under each specifier. -/
theorem RulesetOutline.parseAll_modelText_around :
    ∃ rules, Rule.parseAll
        "a == 1, (FALSEPREDICATE) \x7b k: (-1); TRUEPREDICATE \x7b l: 2; \x7d m: b; \x7d " false =
          .ok rules ∧
      rules.map Rule.key = ["k", "m", "k", "m", "l", "l"] := by
  have inner : Outline.IsWritable (.declare ⟨"l", .constant (.int 2)⟩ .done) :=
    .declare ⟨by decide, by decide, by decide⟩ .done
  have last : Outline.IsWritable (.declare ⟨"m", .keyPath "b"⟩ .done) :=
    .declare ⟨by decide, by decide, by decide⟩ .done
  have body : around.body.IsWritable :=
    .declare ⟨by decide, by decide, by decide⟩ (.nest (List.cons_ne_nil _ _)
      (List.forall_mem_singleton.mpr (.value true)) inner last)
  have writable : around.IsWritable :=
    ⟨List.cons_ne_nil _ _, List.forall_mem_cons.mpr ⟨.comparison (by decide),
      List.forall_mem_singleton.mpr (.value false)⟩, body⟩
  have text : modelText (fun _ => "") [around] =
      "a == 1, (FALSEPREDICATE) \x7b k: (-1); TRUEPREDICATE \x7b l: 2; \x7d m: b; \x7d " := by
    decide +kernel
  obtain ⟨rules, accepted, each⟩ :=
    RulesetOutline.parseAll_modelText (List.forall_mem_singleton.mpr writable) (fun _ => "") false
  have keys := List.forall₂_map_left_iff.mpr (List.forall₂_map_right_iff.mpr
    (each.imp fun rule entry same => same.2.2.1))
  rw [List.forall₂_eq_eq_eq] at keys
  exact ⟨rules, text ▸ accepted, keys⟩

end PredicateRules
