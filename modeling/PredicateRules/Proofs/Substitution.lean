import PredicateRules.Proofs.Evaluation.Timeless

namespace PredicateRules

/-- What a variable reads as, `null` without a binding. -/
def Bindings.reading (bindings : Bindings) (name : String) : Value :=
  (bindings.lookup name).getD .null

theorem Bindings.lookup_append (first second : Bindings) (name : String) :
    (first ++ second).lookup name = (first.lookup name).or (second.lookup name) := by
  induction first with
  | nil => rfl
  | cons binding first ih =>
      obtain ⟨other, value⟩ := binding
      rw [List.cons_append, List.lookup_cons, List.lookup_cons, ih]
      cases name == other <;> rfl

section

variable {m : Type → Type} [Monad m] [MonadLiftT Evaluated m]

section

variable (reading : String → Value) (world : Surroundings m) (object : Value)

namespace Expression

mutual

/-- Evaluation in which variables have values. -/
def evaluateReading (site : Site) : Expression → m Value
  | constant value => return value
  | selfReference => return object
  | .variable name => return reading name
  | keyPath path => KeyPath.resolve world site path object
  | call function arguments => do
    let values ← evaluateEachReading site 2 arguments
    function.call world (0 :: site) values
  | custom operand selector arguments => do
    let target ← evaluateReading (1 :: site) operand
    let values ← evaluateEachReading site 2 arguments
    world.invoke (0 :: site) target selector values
  | aggregate items => Value.list <$> evaluateEachReading site 2 items
  | set operation left right => do
    match ← evaluateReading (2 :: site) left with
    | .set elements =>
      let operand ← evaluateReading (3 :: site) right
      liftM (operation.evaluate elements operand)
    | _ => return .null

def evaluateEachReading (site : Site) (position : Nat) : List Expression → m (List Value)
  | [] => return []
  | item :: items => do
    let value ← evaluateReading (position :: site) item
    let values ← evaluateEachReading site (position + 1) items
    return value :: values

end

end Expression

end

def Comparison.evaluateReading (reading : String → Value) (world : Surroundings m) (object : Value)
    (comparison : Comparison) : m Bool := do
  let left ← comparison.left.evaluateReading reading world object [0]
  let right ← comparison.right.evaluateReading reading world object [1]
  liftM (comparison.decide left right)

namespace Predicate

variable (reading : String → Value)

mutual

def evaluateReading (world : Surroundings m) (object : Value) : Predicate → m Bool
  | value holds => return holds
  | comparison inner => inner.evaluateReading reading world object
  | compound .not parts => evaluateNoneReading world object parts
  | compound .and parts => evaluateAllReading world object parts
  | compound .or parts => evaluateAnyReading world object parts

def evaluateNoneReading (world : Surroundings m) (object : Value) : List Predicate → m Bool
  | [] => return false
  | part :: _ => do return !(← evaluateReading (world.within .condition) object part)

def evaluateAllReading (world : Surroundings m) (object : Value) : List Predicate → m Bool
  | [] => return true
  | part :: parts => do
    if ← evaluateReading (world.within .condition) object part then
      evaluateAllReading (world.within .otherConditions) object parts
    else return false

def evaluateAnyReading (world : Surroundings m) (object : Value) : List Predicate → m Bool
  | [] => return false
  | part :: parts => do
    if ← evaluateReading (world.within .condition) object part then return true
    else evaluateAnyReading (world.within .otherConditions) object parts

end

end Predicate

variable {object : Value} (bindings : Bindings)

namespace Expression

variable {world : Surroundings m}

mutual

theorem evaluate_substitute : (expression : Expression) → (site : Site) →
    (expression.substitute bindings).evaluate world object site =
      expression.evaluateReading bindings.reading world object site
  | constant _, _ | selfReference, _ | keyPath _, _ => by
      simp only [substitute, evaluateReading, evaluate]
  | .variable name, _ => by
      cases found : bindings.lookup name <;>
        simp [substitute, evaluateReading, evaluate, Bindings.reading, found]
  | call _ arguments, site | aggregate arguments, site => by
      simp only [substitute, evaluateReading, evaluate, evaluateEach_substitute arguments]
  | custom operand _ arguments, site => by
      simp only [substitute, evaluateReading, evaluate, evaluate_substitute operand,
        evaluateEach_substitute arguments]
  | set _ left right, site => by
      rw [substitute, evaluate, evaluate_substitute left, evaluate_substitute right]
      rfl

theorem evaluateEach_substitute : (items : List Expression) → (site : Site) → (position : Nat) →
    evaluateEach world object site position (substituteEach bindings items) =
      evaluateEachReading bindings.reading world object site position items
  | [], _, _ => by simp only [substituteEach, evaluateEachReading, evaluateEach]
  | item :: items, site, position => by
      simp only [substituteEach, evaluateEachReading, evaluateEach, evaluate_substitute item,
        evaluateEach_substitute items]

end

end Expression

theorem Comparison.evaluate_substitute (world : Surroundings m) (comparison : Comparison) :
    (comparison.substitute bindings).evaluate world object =
      comparison.evaluateReading bindings.reading world object := by
  unfold Comparison.evaluate Comparison.evaluateReading
  simp only [Comparison.substitute, Expression.evaluate_substitute]
  rfl

namespace Predicate

mutual

theorem evaluate_substitute : (world : Surroundings m) → (predicate : Predicate) →
    (predicate.substitute bindings).evaluate world object =
      predicate.evaluateReading bindings.reading world object
  | _, value _ => by simp only [substitute, evaluateReading, evaluate]
  | world, comparison inner => by
      simp only [substitute, evaluateReading, evaluate, inner.evaluate_substitute bindings]
  | world, compound .not parts => by
      simp only [substitute, evaluateReading, evaluate, evaluateNone_substitute world parts]
  | world, compound .and parts => by
      simp only [substitute, evaluateReading, evaluate, evaluateAll_substitute world parts]
  | world, compound .or parts => by
      simp only [substitute, evaluateReading, evaluate, evaluateAny_substitute world parts]

theorem evaluateNone_substitute : (world : Surroundings m) → (parts : List Predicate) →
    evaluateNone world object (substituteEach bindings parts) =
      evaluateNoneReading bindings.reading world object parts
  | _, [] => by simp only [substituteEach, evaluateNone, evaluateNoneReading]
  | world, part :: _ => by
      simp only [substituteEach, evaluateNone, evaluateNoneReading, evaluate_substitute _ part]

theorem evaluateAll_substitute : (world : Surroundings m) → (parts : List Predicate) →
    evaluateAll world object (substituteEach bindings parts) =
      evaluateAllReading bindings.reading world object parts
  | _, [] => by simp only [substituteEach, evaluateAll, evaluateAllReading]
  | world, part :: parts => by
      simp only [substituteEach, evaluateAll, evaluateAllReading, evaluate_substitute _ part,
        evaluateAll_substitute _ parts]

theorem evaluateAny_substitute : (world : Surroundings m) → (parts : List Predicate) →
    evaluateAny world object (substituteEach bindings parts) =
      evaluateAnyReading bindings.reading world object parts
  | _, [] => by simp only [substituteEach, evaluateAny, evaluateAnyReading]
  | world, part :: parts => by
      simp only [substituteEach, evaluateAny, evaluateAnyReading, evaluate_substitute _ part,
        evaluateAny_substitute _ parts]

end

end Predicate

end

section

variable (first second : Bindings)

namespace Expression

mutual

theorem substitute_substitute : (expression : Expression) →
    (expression.substitute first).substitute second = expression.substitute (first ++ second)
  | constant _ | selfReference | keyPath _ => by simp only [substitute]
  | .variable name => by
      cases found : first.lookup name with
      | some value => simp [substitute, Bindings.lookup_append, found]
      | none => simp [substitute, Bindings.lookup_append, found]
  | call _ arguments | aggregate arguments => by
      simp only [substitute, substituteEach_substituteEach arguments]
  | custom operand _ arguments => by
      simp only [substitute, substitute_substitute operand, substituteEach_substituteEach arguments]
  | set _ left right => by
      simp only [substitute, substitute_substitute left, substitute_substitute right]

theorem substituteEach_substituteEach : (items : List Expression) →
    substituteEach second (substituteEach first items) = substituteEach (first ++ second) items
  | [] => by simp only [substituteEach]
  | item :: items => by
      simp only [substituteEach, substitute_substitute item, substituteEach_substituteEach items]

end

end Expression

theorem Comparison.substitute_substitute (comparison : Comparison) :
    (comparison.substitute first).substitute second = comparison.substitute (first ++ second) := by
  simp only [Comparison.substitute, Expression.substitute_substitute]

namespace Predicate

mutual

theorem substitute_substitute : (predicate : Predicate) →
    (predicate.substitute first).substitute second = predicate.substitute (first ++ second)
  | value _ => by simp only [substitute]
  | comparison inner => by simp only [substitute, inner.substitute_substitute first second]
  | compound _ parts => by simp only [substitute, substituteEach_substituteEach parts]

theorem substituteEach_substituteEach : (parts : List Predicate) →
    substituteEach second (substituteEach first parts) = substituteEach (first ++ second) parts
  | [] => by simp only [substituteEach]
  | part :: parts => by
      simp only [substituteEach, substitute_substitute part, substituteEach_substituteEach parts]

end

end Predicate

end

namespace Predicate

mutual

/-- The predicate with nothing left in its comparisons but how they compare. -/
def skeleton : Predicate → Predicate
  | value holds => value holds
  | comparison inner => comparison { inner with left := .selfReference, right := .selfReference }
  | compound kind parts => compound kind (skeletonEach parts)

def skeletonEach : List Predicate → List Predicate
  | [] => []
  | part :: parts => skeleton part :: skeletonEach parts

end

mutual

/-- A predicate asks for as much as its skeleton does. -/
theorem specificity_skeleton : (predicate : Predicate) →
    predicate.skeleton.specificity = predicate.specificity
  | value _ | comparison _ => by simp only [skeleton, specificity]
  | compound _ parts => by simp only [skeleton, specificity, specificitySum_skeletonEach parts]

theorem specificitySum_skeletonEach : (parts : List Predicate) →
    specificitySum (skeletonEach parts) = specificitySum parts
  | [] => by simp only [skeletonEach]
  | part :: parts => by
      simp only [skeletonEach, specificitySum, specificity_skeleton part,
        specificitySum_skeletonEach parts]

end

variable (bindings : Bindings)

mutual

theorem skeleton_substitute : (predicate : Predicate) →
    (predicate.substitute bindings).skeleton = predicate.skeleton
  | value _ | comparison _ => by simp only [substitute, skeleton, Comparison.substitute]
  | compound _ parts => by simp only [substitute, skeleton, skeletonEach_substituteEach parts]

theorem skeletonEach_substituteEach : (parts : List Predicate) →
    skeletonEach (substituteEach bindings parts) = skeletonEach parts
  | [] => by simp only [substituteEach]
  | part :: parts => by
      simp only [substituteEach, skeletonEach, skeleton_substitute part,
        skeletonEach_substituteEach parts]

end

theorem specificity_substitute (predicate : Predicate) :
    (predicate.substitute bindings).specificity = predicate.specificity := by
  rw [← specificity_skeleton, skeleton_substitute, specificity_skeleton]

end Predicate

theorem Rule.make_substitute (bindings : Bindings) (specifier : Predicate) (key : String)
    (value : Expression) (weight : Int64) :
    make (specifier.substitute bindings) key (value.substitute bindings) weight =
      (substitute bindings) <$> make specifier key value weight := by
  unfold make
  split
  · rfl
  · simp only [priorityOf, Predicate.specificity_substitute]
    rfl

namespace Expression

theorem Timeless.substitute (bindings : Bindings) :
    {part : Expression} → part.Timeless → (part.substitute bindings).Timeless
  | .variable name, _ => by
      unfold Expression.substitute
      split <;> trivial
  | call _ _, timeless => by
      rw [Expression.substitute]
      exact timeless
  | constant _, _ | selfReference, _ | keyPath _, _ | custom _ _ _, _ | aggregate _, _
  | set _ _ _, _ => by
      rw [Expression.substitute]
      trivial

variable (bindings : Bindings)

mutual

theorem parts_substitute : (expression : Expression) →
    (expression.substitute bindings).parts = expression.parts.map (substitute bindings)
  | constant _ | selfReference | keyPath _ => by simp [substitute, parts]
  | .variable name => by
      cases found : bindings.lookup name <;> simp [substitute, parts, found]
  | call _ arguments | aggregate arguments => by
      simp [substitute, parts, partsOfEach_substituteEach arguments]
  | custom operand _ arguments => by
      simp [substitute, parts, parts_substitute operand, partsOfEach_substituteEach arguments]
  | set _ left right => by simp [substitute, parts, parts_substitute left, parts_substitute right]

theorem partsOfEach_substituteEach : (items : List Expression) →
    partsOfEach (substituteEach bindings items) = (partsOfEach items).map (substitute bindings)
  | [] => by simp [substituteEach, partsOfEach]
  | item :: items => by
      simp [substituteEach, partsOfEach, parts_substitute item, partsOfEach_substituteEach items]

end

variable {bindings}

theorem NeverTimed.substitute {expression : Expression} (timeless : expression.NeverTimed) :
    (expression.substitute bindings).NeverTimed := by
  intro part member
  rw [parts_substitute] at member
  obtain ⟨original, inside, rfl⟩ := List.mem_map.mp member
  exact (timeless original inside).substitute _

end Expression

namespace Predicate

variable (bindings : Bindings)

mutual

theorem expressions_substitute : (predicate : Predicate) →
    (predicate.substitute bindings).expressions =
      predicate.expressions.map (Expression.substitute bindings)
  | value _ => by simp [substitute, expressions]
  | comparison inner => by
      simp [substitute, expressions, Comparison.substitute, Expression.parts_substitute]
  | compound _ parts => by simp [substitute, expressions, expressionsOfEach_substituteEach parts]

theorem expressionsOfEach_substituteEach : (parts : List Predicate) →
    expressionsOfEach (substituteEach bindings parts) =
      (expressionsOfEach parts).map (Expression.substitute bindings)
  | [] => by simp [substituteEach, expressionsOfEach]
  | part :: parts => by
      simp [substituteEach, expressionsOfEach, expressions_substitute part,
        expressionsOfEach_substituteEach parts]

end

variable {bindings}

theorem NeverTimed.substitute {predicate : Predicate} (timeless : predicate.NeverTimed) :
    (predicate.substitute bindings).NeverTimed := by
  intro part member
  rw [expressions_substitute] at member
  obtain ⟨original, inside, rfl⟩ := List.mem_map.mp member
  exact (timeless original inside).substitute _

end Predicate

/-- One substitution after the other is one under both bindings, of which the first ones count where
both bind a name. A tree under bindings comes to what the tree comes to with its variables read from
them, `null` where there is none, and it does so later as well if it asks for no time and for no random
number. Of a predicate nothing changes but the operands of its comparisons, so a rule under bindings is
the one that is made under them, with its priority. -/
theorem Bindings.substitution_is_reading (first second : Bindings) :
    (∀ name, (first ++ second).lookup name = (first.lookup name).or (second.lookup name)) ∧
    (∀ expression : Expression,
      (expression.substitute first).substitute second = expression.substitute (first ++ second) ∧
      (∀ {m : Type → Type} [Monad m] [MonadLiftT Evaluated m] (world : Surroundings m)
        (object : Value) (site : Site),
        (expression.substitute first).evaluate world object site =
          expression.evaluateReading first.reading world object site) ∧
      (expression.NeverTimed → ∀ world other : World, world.Agrees other →
        ∀ (object : Value) (site : Site),
          (expression.substitute first).evaluate world object site =
            expression.evaluateReading first.reading other object site)) ∧
    (∀ predicate : Predicate,
      (predicate.substitute first).substitute second = predicate.substitute (first ++ second) ∧
      (∀ {m : Type → Type} [Monad m] [MonadLiftT Evaluated m] (world : Surroundings m)
        (object : Value),
        (predicate.substitute first).evaluate world object =
          predicate.evaluateReading first.reading world object) ∧
      (predicate.NeverTimed → ∀ world other : World, world.Agrees other → ∀ object : Value,
        (predicate.substitute first).evaluate world object =
          predicate.evaluateReading first.reading other object) ∧
      (predicate.substitute first).specificity = predicate.specificity ∧
      (predicate.substitute first).skeleton = predicate.skeleton) ∧
    ∀ (specifier : Predicate) (key : String) (value : Expression) (weight : Int64),
      Rule.make (specifier.substitute first) key (value.substitute first) weight =
        (Rule.substitute first) <$> Rule.make specifier key value weight := by
  refine ⟨lookup_append first second, ?_, ?_, Rule.make_substitute first⟩
  · intro expression
    refine ⟨expression.substitute_substitute first second, ?_, ?_⟩
    · intro m _ _ world object site
      exact expression.evaluate_substitute first site
    · intro timeless world other agrees object site
      rw [timeless.substitute.evaluate_eq agrees, expression.evaluate_substitute]
  · intro predicate
    refine ⟨predicate.substitute_substitute first second, ?_, ?_,
      predicate.specificity_substitute first, predicate.skeleton_substitute first⟩
    · intro m _ _ world object
      exact predicate.evaluate_substitute first world
    · intro timeless world other agrees object
      rw [timeless.substitute.evaluate_eq agrees, predicate.evaluate_substitute]

/-- A bound and a free variable, in a world and in one that draws other numbers. -/
theorem Bindings.substitution_is_reading_between :
    let world : World := ⟨fun _ => .silent, fun _ _ _ => .ok .null⟩
    let other : World :=
      ⟨fun site => { Host.silent with random := fun _ => .ofNat site.length }, fun _ _ _ => .ok .null⟩
    let predicate := Predicate.direct (.variable "a") .between (.aggregate [.variable "b", .constant (.int 3)])
    predicate.NeverTimed ∧ world.Agrees other ∧
      (predicate.substitute [("a", .int 2)]).evaluate world .null =
        predicate.evaluateReading (reading [("a", .int 2)]) other .null ∧
      (predicate.substitute [("a", .int 2)]).evaluate world .null =
        .error (.typeMismatch "BETWEEN" "comparable values" "null") := by
  intro world other predicate
  have timeless : predicate.NeverTimed := by
    intro part member
    simp [predicate, Predicate.direct, Predicate.expressions, Expression.parts,
      Expression.partsOfEach] at member
    rcases member with rfl | rfl | rfl | rfl <;> trivial
  have agrees : world.Agrees other := ⟨fun _ => ⟨rfl, rfl, rfl⟩, rfl⟩
  refine ⟨timeless, agrees, ?_, rfl⟩
  exact ((substitution_is_reading [("a", .int 2)] []).2.2.1 predicate).2.2.1 timeless world other
    agrees .null

end PredicateRules
