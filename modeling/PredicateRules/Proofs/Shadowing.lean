import PredicateRules.Proofs.Inference.Completion
import PredicateRules.Proofs.Inference.Course

namespace PredicateRules

theorem findSome?_congr {α β : Type} {first second : α → Option β} {items : List α}
    (same : ∀ item ∈ items, first item = second item) :
    items.findSome? first = items.findSome? second := by
  rw [← List.head?_filterMap, ← List.head?_filterMap, List.filterMap_congr same]

namespace Scope

theorem lookup_without (entries : List (String × Value)) (key other : String) :
    (entries.filter fun entry => entry.1 != key).lookup other =
      if other = key then none else entries.lookup other := by
  induction entries with
  | nil => simp
  | cons entry entries ih =>
      obtain ⟨name, value⟩ := entry
      by_cases removed : name = key
      · subst removed
        simp only [List.filter_cons, bne_self_eq_false, Bool.false_eq_true, if_false, ih,
          List.lookup_cons]
        split
        next => rfl
        next different => rw [beq_false_of_ne different]
      · have kept : (name != key) = true := bne_iff_ne.mpr removed
        simp only [List.filter_cons, kept, if_true, List.lookup_cons, ih]
        by_cases same : other = name
        · simp [same, removed]
        · simp [beq_false_of_ne same]

theorem lookup_set (scope : Scope) (key other : String) (value : Value) :
    (scope.set key value).values.lookup other =
      if other = key then some value else scope.values.lookup other := by
  simp only [set, List.lookup_cons, lookup_without]
  by_cases same : other = key
  · simp [same]
  · simp [same, beq_false_of_ne same]

theorem lookup_remove (scope : Scope) (key other : String) :
    (scope.remove key).values.lookup other =
      if other = key then none else scope.values.lookup other :=
  lookup_without scope.values key other

end Scope

namespace Contexts

variable {contexts : Contexts} {number : Nat} {key : String}

/-- What the scope itself holds for a key. -/
def held? (contexts : Contexts) (number : Nat) (key : String) : Option Value :=
  (contexts.scope? number).bind fun scope => scope.values.lookup key

theorem held?_cons (latest : Scope) (older : Contexts) (number : Nat) (key : String) :
    held? (latest :: older) number key =
      if number = older.length then latest.values.lookup key else held? older number key := by
  simp only [held?, scope?]
  split <;> rfl

theorem held?_write {written : Nat} (known : written < contexts.length) (key : String)
    (value? : Option Value) (other : Nat) (read : String) :
    (contexts.write written key value?).held? other read =
      if written = other ∧ key = read then value? else contexts.held? other read := by
  obtain ⟨scope, found⟩ := exists_scope? known
  have update (change : Scope → Scope)
      (changes : (change scope).values.lookup read =
        if read = key then value? else scope.values.lookup read) :
      (contexts.update change written).held? other read =
        if written = other ∧ key = read then value? else contexts.held? other read := by
    unfold held?
    rw [scope?_update]
    by_cases same : other = written
    · subst same
      simp only [if_true, found, Option.map_some, Option.bind_some, changes, true_and, eq_comm]
    · have different : ¬(written = other ∧ key = read) := fun both => same both.1.symm
      rw [if_neg same, if_neg different]
  cases value? with
  | some value => exact update (fun scope => scope.set key value) (scope.lookup_set key read value)
  | none => exact update (fun scope => scope.remove key) (scope.lookup_remove key read)

def lineage : Contexts → Nat → List Nat
  | [], _ => []
  | latest :: older, number =>
    if number = older.length then number :: (latest.parent.map (lineage older)).getD []
    else lineage older number

theorem lt_length_of_mem_lineage {scope : Nat} (member : scope ∈ contexts.lineage number) :
    scope < contexts.length := by
  induction contexts generalizing number with
  | nil => cases member
  | cons latest older ih =>
      unfold lineage at member
      split at member
      next same =>
        rcases List.mem_cons.mp member with rfl | further
        · rw [same]
          exact Nat.lt_succ_self _
        · cases parent : latest.parent with
          | none =>
              rw [parent] at further
              cases further
          | some parent' =>
              rw [parent] at further
              exact Nat.lt_succ_of_lt (ih further)
      next => exact Nat.lt_succ_of_lt (ih member)

theorem nodup_lineage (contexts : Contexts) (number : Nat) : (contexts.lineage number).Nodup := by
  induction contexts generalizing number with
  | nil => exact List.nodup_nil
  | cons latest older ih =>
      unfold lineage
      split
      next same =>
        cases latest.parent with
        | none => exact List.nodup_singleton _
        | some parent =>
            refine List.nodup_cons.mpr ⟨fun member => ?_, ih parent⟩
            exact absurd (lt_length_of_mem_lineage member) (same ▸ Nat.lt_irrefl _)
      next => exact ih number

theorem value?_eq (contexts : Contexts) (number : Nat) (key : String) :
    contexts.value? number key =
      (contexts.lineage number).findSome? fun scope => contexts.held? scope key := by
  induction contexts generalizing number with
  | nil => rfl
  | cons latest older ih =>
      -- Around an older scope are older scopes only, and the latest one changes nothing of these.
      have outer (start : Nat) :
          (lineage older start).findSome? (fun scope => held? (latest :: older) scope key) =
            value? older start key := by
        rw [ih]
        refine findSome?_congr fun scope member => ?_
        rw [held?_cons, if_neg (Nat.ne_of_lt (lt_length_of_mem_lineage member))]
      unfold value? lineage
      split
      next same =>
        rw [List.findSome?_cons, held?_cons, if_pos same]
        cases latest.values.lookup key with
        | some value => rfl
        | none =>
            cases latest.parent with
            | none => rfl
            | some parent => exact (outer parent).symm
      next => exact (outer number).symm

/-- Where parents were there before their children, the scopes around a scope are itself and then those
around its parent. -/
theorem lineage_eq
    (parents : ∀ number scope, contexts.scope? number = some scope →
      ∀ parent ∈ scope.parent, parent < number)
    {scope : Scope} (found : contexts.scope? number = some scope) :
    contexts.lineage number = number :: (scope.parent.map contexts.lineage).getD [] := by
  induction contexts with
  | nil => cases found
  | cons latest older ih =>
      have below := lt_length_of_scope? found
      have outer : scope.parent.map (lineage older) = scope.parent.map (lineage (latest :: older)) := by
        refine Option.map_congr fun parent member => ?_
        have behind := parents number scope found parent member
        rw [List.length_cons] at below
        rw [lineage, if_neg (by omega)]
      rw [← outer]
      unfold lineage
      unfold scope? at found
      split at found
      next same =>
        obtain rfl := Option.some.inj found
        rw [if_pos same]
      next different =>
        rw [if_neg different]
        exact ih (fun other scope listed => parents other scope (scope?_older listed)) found

theorem lineage_update {change : Scope → Scope} (kept : ∀ scope, (change scope).parent = scope.parent)
    (contexts : Contexts) (written number : Nat) :
    (contexts.update change written).lineage number = contexts.lineage number := by
  induction contexts generalizing number with
  | nil => rfl
  | cons latest older ih =>
      unfold update
      split
      next => simp only [lineage, kept]
      next => simp only [lineage, length_update, ih, funext ih]

theorem lineage_write (contexts : Contexts) (written : Nat) (key : String) (value? : Option Value)
    (number : Nat) : (contexts.write written key value?).lineage number = contexts.lineage number := by
  cases value? with
  | some value =>
      have kept (scope : Scope) : (scope.set key value).parent = scope.parent := rfl
      exact lineage_update kept contexts written number
  | none =>
      have kept (scope : Scope) : (scope.remove key).parent = scope.parent := rfl
      exact lineage_update kept contexts written number

theorem held?_grow {latest : Scope} (empty : latest.values = []) :
    held? (latest :: contexts) number key = contexts.held? number key := by
  rw [held?_cons]
  split
  next same =>
    have unknown : contexts.scope? number = none := by
      by_contra found
      obtain ⟨scope, found⟩ := Option.ne_none_iff_exists'.mp found
      exact Nat.lt_irrefl _ (same ▸ lt_length_of_scope? found)
    rw [empty, held?, unknown]
    rfl
  next => rfl

end Contexts

/-- The value that was set last for a key in a scope and was not removed since. -/
def writtenTo : List Writing → Nat → String → Option Value
  | [], _, _ => none
  | latest :: earlier, scope, key =>
    if latest.scope = scope ∧ latest.key = key then latest.value? else writtenTo earlier scope key

/-- In this order of scopes none holds the key before the one that is written to; the further ones stand
behind it. -/
def Reaches (past : List Writing) (key : String) (scopes : List Nat) (written : Nat)
    (further : List Nat) : Prop :=
  ∃ nearer, scopes = nearer ++ written :: further ∧ ∀ scope ∈ nearer, writtenTo past scope key = none

section

variable {past : List Writing} {scopes further : List Nat} {written : Nat} {key : String}
  {value? : Option Value}

theorem findSome?_reached (different : scopes.Nodup) (reaches : Reaches past key scopes written further) :
    scopes.findSome? (fun scope => writtenTo (⟨written, key, value?⟩ :: past) scope key) =
      value?.or (further.findSome? fun scope => writtenTo past scope key) := by
  obtain ⟨nearer, rfl, passed⟩ := reaches
  obtain ⟨-, beyond, apart⟩ := List.nodup_append.mp different
  have near : nearer.findSome? (fun scope => writtenTo (⟨written, key, value?⟩ :: past) scope key) =
      none := by
    refine List.findSome?_eq_none_iff.mpr fun scope member => ?_
    have other : ¬(written = scope ∧ key = key) := fun both =>
      apart scope member written List.mem_cons_self both.1.symm
    rw [writtenTo, if_neg other]
    exact passed scope member
  have far : further.findSome? (fun scope => writtenTo (⟨written, key, value?⟩ :: past) scope key) =
      further.findSome? fun scope => writtenTo past scope key := by
    refine findSome?_congr fun scope member => ?_
    have other : ¬(written = scope ∧ key = key) := fun both =>
      (List.nodup_cons.mp beyond).1 (both.1 ▸ member)
    rw [writtenTo, if_neg other]
  have own : writtenTo (⟨written, key, value?⟩ :: past) written key = value? := if_pos ⟨rfl, rfl⟩
  rw [List.findSome?_append, near, Option.none_or, List.findSome?_cons, own, far]
  cases value? <;> rfl

theorem findSome?_passed {read : String}
    (hidden : read = key → ∀ further, ¬ Reaches past key scopes written further) :
    scopes.findSome? (fun scope => writtenTo (⟨written, key, value?⟩ :: past) scope read) =
      scopes.findSome? fun scope => writtenTo past scope read := by
  have unchanged (some : List Nat) (apart : read = key → written ∉ some) :
      some.findSome? (fun scope => writtenTo (⟨written, key, value?⟩ :: past) scope read) =
        some.findSome? fun scope => writtenTo past scope read := by
    refine findSome?_congr fun scope member => ?_
    have other : ¬(written = scope ∧ key = read) := fun ⟨same, sameKey⟩ =>
      apart sameKey.symm (same ▸ member)
    rw [writtenTo, if_neg other]
  -- Where the scope is around all the same, a nearer one holds the key and hides it.
  by_cases around : read = key ∧ written ∈ scopes
  · obtain ⟨rfl, member⟩ := around
    obtain ⟨nearer, further, rfl, first⟩ := List.eq_append_cons_of_mem member
    rw [List.findSome?_append, List.findSome?_append, unchanged nearer fun _ => first]
    cases held : nearer.findSome? fun scope => writtenTo past scope read with
    | some value => rfl
    | none =>
        exact absurd ⟨nearer, rfl, List.findSome?_eq_none_iff.mp held⟩ (hidden rfl further)
  · exact unchanged scopes fun same member => around ⟨same, member⟩

end

namespace Working

variable {past : List Writing} {working : Working}

/-- Each scope holds what was written to it. -/
theorem Course.held (course : Course past working) (number : Nat) (key : String) :
    working.session.contexts.held? number key = writtenTo past number key := by
  induction course with
  | start => rfl
  | change change _ ih => cases change <;> exact ih
  | openContext limit _ ih => exact (Contexts.held?_grow rfl).trans ih
  | openChild known course ih =>
      obtain ⟨scope, found⟩ := Contexts.exists_scope? (course.sound.contexts _ _ known)
      unfold Session.openChild
      rw [Contexts.createChild_eq found]
      exact (Contexts.held?_grow rfl).trans ih
  | share _ _ ih | enter _ _ _ _ _ ih | leave _ _ ih => exact ih
  | write key value? known course ih =>
      rw [writtenTo, ← ih]
      exact Contexts.held?_write (course.sound.contexts _ _ known) key value? number _
  | request completes _ ih =>
      rw [resume_of_completes completes]
      exact ih

theorem Course.value?_eq (course : Course past working) (number : Nat) (key : String) :
    working.session.contexts.value? number key =
      (working.session.contexts.lineage number).findSome? fun scope => writtenTo past scope key := by
  rw [Contexts.value?_eq]
  exact findSome?_congr fun scope _ => course.held scope key

theorem Course.value?_write (course : Course past working) {context written : Nat}
    (known : working.session.scopeOf? context = some written) (key : String) (value? : Option Value)
    (number : Nat) (read : String) :
    (working.session.write written key value?).contexts.value? number read =
      (working.session.contexts.lineage number).findSome? fun scope =>
        writtenTo (⟨written, key, value?⟩ :: past) scope read := by
  rw [(course.write key value? known).value?_eq number read]
  have same := Contexts.lineage_write working.session.contexts written key value? number
  exact congrArg (List.findSome? _) same

theorem completes_read {activity : Activity} {number : Nat} {key : String} {value : Value}
    (seen : activity.contexts.value? number key = some value) (program : Program) :
    activity.Completes program (.inquire .valueForKey number key) (.ok (.value value))
      activity.count := by
  refine ⟨0, ?_⟩
  have counted : activity.count.contexts.value? number key = some value := seen
  show (Answer.value <$> Running.read (Running.infer program 0 activity.trail) number key).run.run
    activity.count = _
  rw [map_eq_pure_bind]
  exact Running.run_bind_ok (Running.run_read_seen counted _)

/-- From a context its own scope is seen first, then the parent of that one and so on outward, each with
what was written to it last; a write is seen where the scope that is written to is reached, and nowhere
else and under no other key; what is seen is read as it is, without an inference; and calls leave all of
this alone. That is so at every moment of whatever is done, also in the middle of inferences. -/
theorem Course.scopes_shadow (course : Course past working) {context number : Nat}
    (stands : working.session.scopeOf? context = some number) :
    let contexts := working.session.contexts
    (∃ scope, contexts.scope? number = some scope ∧
      contexts.lineage number = number :: (scope.parent.map contexts.lineage).getD []) ∧
    (∀ key, contexts.value? number key =
      (contexts.lineage number).findSome? fun scope => writtenTo past scope key) ∧
    (∀ other written, working.session.scopeOf? other = some written →
      ∀ (key : String) (value? : Option Value),
        let later := (working.session.write written key value?).contexts
        (∀ further, Reaches past key (contexts.lineage number) written further →
          later.value? number key =
            value?.or (further.findSome? fun scope => writtenTo past scope key)) ∧
        ∀ read, (read = key → ∀ further, ¬ Reaches past key (contexts.lineage number) written further) →
          later.value? number read = contexts.value? number read) ∧
    (∀ key value, contexts.value? number key = some value →
      (∀ infer, (Running.read infer number key).run.run working.activity =
        some (.ok value, working.activity)) ∧
      ∀ program, working.activity.Completes program (.inquire .valueForKey number key) (.ok (.value value))
        working.activity.count) ∧
    ∀ program request outcome after, working.activity.Completes program request outcome after →
      working.resume after = working.count := by
  intro contexts
  have sound := course.sound
  obtain ⟨scope, found⟩ := Contexts.exists_scope? (sound.contexts context number stands)
  have parents (number : Nat) (scope : Scope) (found : contexts.scope? number = some scope) :=
    (sound.scopes number scope found).parent
  have different := contexts.nodup_lineage number
  refine ⟨⟨scope, found, Contexts.lineage_eq parents found⟩, course.value?_eq number, ?_, ?_, ?_⟩
  · intro other written known key value? later
    refine ⟨fun further reaches => ?_, fun read hidden => ?_⟩
    · exact (course.value?_write known key value? number key).trans
        (findSome?_reached different reaches)
    · rw [course.value?_eq]
      exact (course.value?_write known key value? number read).trans (findSome?_passed hidden)
  · exact fun key value seen => ⟨Running.run_read_seen seen, completes_read seen⟩
  · exact fun program request outcome after completes => resume_of_completes completes

def shaded : Session :=
  ((((Session.start chainedRules []).openContext 2).openChild 0).share 0).write 0 "outer" (some .null)

/-- The key that was written can be under inference all the same. -/
theorem course_shaded : Course [⟨0, "outer", some .null⟩]
    ⟨shaded, Stacks.replace (fun _ => []) 0 ["outer"], 0⟩ := by
  have opened := (Course.start chainedRules []).openContext 2
  have nested := opened.openChild (show Session.scopeOf? _ 0 = some 0 from rfl)
  have shared := nested.share (show Session.scopeOf? _ 0 = some 0 from rfl)
  have written : Course [⟨0, "outer", some .null⟩] ⟨shaded, fun _ => [], 0⟩ :=
    shared.write "outer" (some .null) (show Session.scopeOf? _ 2 = some 0 from rfl)
  have found : shaded.contexts.scope? 0 =
    some ⟨Model.ofRules chainedRules, none, 2, [("outer", .null)]⟩ := rfl
  have rules : (Model.ofRules chainedRules).candidates? "outer" =
    some [⟨.value true, "outer", .keyPath "inner", 0, 0⟩] := rfl
  refine written.enter found List.not_mem_nil ?_ rules
  exact Nat.two_pos

/-- Null is seen from inside and read, although the key is under inference, until a value is set nearer. -/
theorem Course.scopes_shadow_null :
    shaded.contexts.value? 1 "outer" = some .null ∧
      Activity.Completes .silent (Working.activity ⟨shaded, Stacks.replace (fun _ => []) 0 ["outer"], 0⟩)
        (.inquire .valueForKey 1 "outer") (.ok (.value .null))
        (Working.activity ⟨shaded, Stacks.replace (fun _ => []) 0 ["outer"], 1⟩) ∧
      (shaded.write 1 "outer" (some (.bool true))).contexts.value? 1 "outer" = some (.bool true) ∧
      (shaded.write 1 "outer" (some (.bool true))).contexts.value? 0 "outer" = some .null := by
  have child : shaded.scopeOf? 1 = some 1 := rfl
  have clone : shaded.scopeOf? 2 = some 0 := rfl
  have seen : shaded.contexts.value? 1 "outer" = some .null := rfl
  obtain ⟨-, -, writes, reads, -⟩ := Course.scopes_shadow course_shaded child
  obtain ⟨-, -, writesOuter, -, -⟩ := Course.scopes_shadow course_shaded clone
  refine ⟨seen, (reads "outer" .null seen).2 .silent, ?_, ?_⟩
  · exact (writes 1 1 child "outer" (some (.bool true))).1 [0] ⟨[], rfl, nofun⟩
  · refine (writesOuter 1 1 child "outer" (some (.bool true))).2 "outer" fun _ further reaches => ?_
    obtain ⟨nearer, same, -⟩ := reaches
    have member : 1 ∈ shaded.contexts.lineage 0 := same ▸ List.mem_append_right _ List.mem_cons_self
    exact absurd member (show 1 ∉ [0] by decide)

end Working

end PredicateRules
