import PredicateRules.Proofs.RuleOrder
import PredicateRules.Session

namespace PredicateRules

inductive Session.Change where
  | newModel (rules : List Rule)
  | newRules (rules : List Rule)
  | newBindings (bindings : Bindings)
  | snapshot

namespace Session

def change (session : Session) : Change → Session
  | .newModel rules => session.setModel rules
  | .newRules rules => session.setRules rules
  | .newBindings bindings => session.setBindings bindings
  | .snapshot => session.takeSnapshot

def changes (session : Session) (history : List Change) : Session := history.foldl change session

def Change.snapshots (history : List Change) : Nat :=
  history.countP fun
    | .snapshot => true
    | _ => false

end Session

/-- The rules in force, as they were given, and the bindings in force. -/
structure Declared where
  rules : List Rule
  bindings : Bindings

namespace Declared

def change (declared : Declared) : Session.Change → Declared
  | .newModel rules => ⟨rules, []⟩
  | .newRules rules => { declared with rules := rules }
  | .newBindings bindings => { declared with bindings := bindings }
  | .snapshot => declared

def changes (declared : Declared) (history : List Session.Change) : Declared :=
  history.foldl change declared

end Declared

namespace Model

/-- The index is that of the rules under the bindings, also where the substitution is left out. -/
theorem build_index (rules : List Rule) (bindings : Bindings) :
    (build rules bindings).index =
      RuleIndex.build (rules.map fun rule => rule.substitute bindings) := by
  unfold build
  cases bindings with
  | nil => simp
  | cons binding bindings => rfl

theorem exists_key_map_substitute {rules : List Rule} {bindings : Bindings} {key : String} :
    (∃ rule ∈ rules.map fun rule => rule.substitute bindings, rule.key = key) ↔
      ∃ rule ∈ rules, rule.key = key := by
  constructor
  · rintro ⟨_, substituted, same⟩
    obtain ⟨rule, member, rfl⟩ := List.mem_map.mp substituted
    exact ⟨rule, member, same⟩
  · rintro ⟨rule, member, same⟩
    exact ⟨rule.substitute bindings, List.mem_map_of_mem member, same⟩

theorem candidates?_build (rules : List Rule) (bindings : Bindings) (key : String) :
    (build rules bindings).candidates? key =
      if ∃ rule ∈ rules, rule.key = key then
        some (RuleIndex.bucketOf
          ((rules.filter fun rule => rule.key == key).map fun rule => rule.substitute bindings))
      else none := by
  simp only [candidates?, build_index, RuleIndex.candidates?_build, exists_key_map_substitute,
    List.filter_map, Function.comp_def, Rule.key_substitute]

theorem candidates?_build_eq_none {rules : List Rule} {bindings : Bindings} {key : String} :
    (build rules bindings).candidates? key = none ↔ ∀ rule ∈ rules, rule.key ≠ key := by
  rw [candidates?_build]
  split
  next found =>
    obtain ⟨rule, member, same⟩ := found
    simp only [reduceCtorEq, false_iff]
    exact fun others => others rule member same
  next missing =>
    simp only [true_iff]
    exact fun rule member same => missing ⟨rule, member, same⟩

theorem ranks_of_candidates?_build {rules : List Rule} {bindings : Bindings} {key : String}
    {bucket : List Rule} (found : (build rules bindings).candidates? key = some bucket) :
    RuleIndex.Ranks rules bindings key bucket := by
  rw [candidates?_build] at found
  split at found
  next _ =>
    obtain rfl := Option.some.inj found
    let numbered := rules.zipIdx.filter fun rule => rule.1.key == key
    have increasing : numbered.Pairwise fun first second => first.2 < second.2 :=
      (RuleIndex.zipIdx_increasing rules 0).filter _
    obtain ⟨ordered, perm, precedes, same⟩ := RuleIndex.bucketOf_ordered
      (fun rule => rule.1.substitute bindings) (fun rule => rfl) increasing
    have unnumbered : numbered.map (fun rule => rule.1.substitute bindings) =
        (rules.filter fun rule => rule.key == key).map fun rule => rule.substitute bindings := by
      have places : rules.zipIdx.map Prod.fst = rules := List.zipIdx_map_fst 0 rules
      conv => rhs; rw [← places]
      simp only [numbered, List.filter_map, List.map_map, Function.comp_def]
    refine ⟨ordered, perm, precedes, ?_⟩
    rw [← unnumbered]
    exact same
  next _ => cases found

theorem mem_inferrableKeys_build {rules : List Rule} {bindings : Bindings} {key : String} :
    key ∈ (build rules bindings).inferrableKeys ↔ ∃ rule ∈ rules, rule.key = key := by
  simp only [inferrableKeys, RuleIndex.sortedKeys, List.mem_mergeSort, build_index,
    RuleIndex.keys_build, RuleIndex.mem_keysOf, exists_key_map_substitute]

theorem nodup_inferrableKeys_build (rules : List Rule) (bindings : Bindings) :
    (build rules bindings).inferrableKeys.Nodup := by
  refine (List.mergeSort_perm _ _).nodup_iff.mpr ?_
  rw [build_index, RuleIndex.keys_build]
  exact RuleIndex.nodup_eraseDups _

end Model

namespace Session

theorem model_change {session : Session} {declared : Declared}
    (holds : session.model = Model.build declared.rules declared.bindings) (step : Change) :
    (session.change step).model =
      Model.build (declared.change step).rules (declared.change step).bindings := by
  cases step with
  | newModel rules => rfl
  | newRules rules => exact congrArg (fun model => model.setRules rules) holds
  | newBindings bindings => exact congrArg (fun model => model.setBindings bindings) holds
  | snapshot => exact holds

theorem model_changes {session : Session} (declared : Declared)
    (holds : session.model = Model.build declared.rules declared.bindings) (history : List Change) :
    (session.changes history).model =
      Model.build (declared.changes history).rules (declared.changes history).bindings := by
  induction history generalizing session declared with
  | nil => exact holds
  | cons step history ih => exact ih (declared.change step) (model_change holds step)

theorem snapshots_changes (session : Session) (history : List Change) :
    ∃ taken : List RuleIndex, taken.length = Change.snapshots history ∧
      (session.changes history).snapshots = session.snapshots ++ taken := by
  induction history generalizing session with
  | nil => exact ⟨[], rfl, (List.append_nil _).symm⟩
  | cons step history ih =>
      obtain ⟨taken, count, rest⟩ := ih (session.change step)
      cases step with
      | snapshot =>
          refine ⟨session.model.index :: taken, ?_, ?_⟩
          · simp only [List.length_cons, count, Change.snapshots, List.countP_cons_of_pos]
          · exact rest.trans (List.append_assoc session.snapshots [session.model.index] taken)
      | newModel rules => exact ⟨taken, count, rest⟩
      | newRules rules => exact ⟨taken, count, rest⟩
      | newBindings bindings => exact ⟨taken, count, rest⟩

theorem snapshot_kept (session : Session) (fresh : session.snapshots = [])
    (earlier later : List Change) :
    (session.changes (earlier ++ .snapshot :: later)).snapshots[Change.snapshots earlier]? =
      some (session.changes earlier).model.index := by
  obtain ⟨before, count, sofar⟩ := snapshots_changes session earlier
  obtain ⟨after, _, rest⟩ := snapshots_changes ((session.changes earlier).change .snapshot) later
  have split : session.changes (earlier ++ .snapshot :: later) =
      ((session.changes earlier).change .snapshot).changes later := by
    simp only [changes, List.foldl_append, List.foldl_cons]
  have added : ((session.changes earlier).change .snapshot).snapshots =
      before ++ [(session.changes earlier).model.index] := by
    rw [fresh, List.nil_append] at sofar
    exact congrArg (· ++ _) sofar
  rw [split, rest, added, ← count]
  simp

/-- After any history the model answers for the rules declared last under the bindings declared last,
and every snapshot answers as the model did when it was taken. -/
theorem answers_follow_declarations (rules : List Rule) (bindings : Bindings)
    (history : List Change) (key : String) :
    let session := (start rules bindings).changes history
    let declared := (Declared.mk rules bindings).changes history
    (session.model.candidates? key = none ↔ ∀ rule ∈ declared.rules, rule.key ≠ key) ∧
    (∀ bucket, session.model.candidates? key = some bucket →
      RuleIndex.Ranks declared.rules declared.bindings key bucket) ∧
    (key ∈ session.model.inferrableKeys ↔ ∃ rule ∈ declared.rules, rule.key = key) ∧
    session.model.inferrableKeys.Nodup ∧
    ∀ earlier later, history = earlier ++ .snapshot :: later →
      ∃ snapshot, session.snapshots[Change.snapshots earlier]? = some snapshot ∧
        snapshot.candidates? key =
          ((start rules bindings).changes earlier).model.candidates? key := by
  intro session declared
  have current : session.model = Model.build declared.rules declared.bindings :=
    model_changes ⟨rules, bindings⟩ rfl history
  rw [current]
  refine ⟨Model.candidates?_build_eq_none, fun bucket => Model.ranks_of_candidates?_build,
    Model.mem_inferrableKeys_build, Model.nodup_inferrableKeys_build _ _, ?_⟩
  rintro earlier later rfl
  exact ⟨_, snapshot_kept (start rules bindings) rfl earlier later, rfl⟩

end Session

end PredicateRules
