import Mathlib.Data.List.Forall2
import PredicateRules.Proofs.Evaluation.Correspondence

namespace PredicateRules

namespace Evaluated

variable {α β : Type} {first : Evaluated α} {result : β}

theorem bind_eq_ok_iff {next : α → Evaluated β} :
    first >>= next = .ok result ↔ ∃ middle, first = .ok middle ∧ next middle = .ok result := by
  cases first with
  | error cause => simp [bind, Except.bind]
  | ok middle => simp [bind, Except.bind]

theorem map_eq_ok_iff {change : α → β} :
    change <$> first = .ok result ↔ ∃ middle, first = .ok middle ∧ change middle = result := by
  cases first with
  | error cause => simp [Functor.map, Except.map]
  | ok middle => simp [Functor.map, Except.map]

end Evaluated

/-- A read gives the same wherever it stands. -/
structure Surroundings.Placeless {m : Type → Type} (world : Surroundings m) : Prop where
  host (site place : Site) : (world.host site).Agrees (world.host place)
  contextKey (site place : Site) : world.contextKey site = world.contextKey place

namespace KeyPath

section

variable {m : Type → Type} [Monad m] [MonadLiftT Evaluated m]

theorem resolve_append [LawfulMonad m] (world : Surroundings m) (site : Site) (first second : String)
    (value : Value) :
    resolve world site (first ++ "." ++ second) value =
      resolve world site first value >>= resolve world site second := by
  have pieces : components (first ++ "." ++ second).toList =
      components first.toList ++ components second.toList := by
    rw [← components_append]
    simp
  unfold resolve
  rw [pieces, List.foldlM_append]

mutual

theorem resolveNamed_site {world : Surroundings m} (placeless : world.Placeless) (key : String)
    (site other : Site) : (value : Value) →
    resolveNamed world key site value = resolveNamed world key other value
  | .list items | .set items => by
      unfold resolveNamed
      rw [resolveEach_site placeless key site other 0 items]
  | .object (.host _) => by
      have same := placeless.host site other
      simp only [resolveNamed, Surroundings.valueForKey, same.valueForKey, same.call]
  | .object (.context _ _) => by
      simp only [resolveNamed, Surroundings.valueForKey, placeless.contextKey site other,
        (placeless.host site other).call]
  | .map _ | .null | .bool _ | .int _ | .float _ | .string _ | .dateTime _ | .function _ => by
      unfold resolveNamed
      rfl

theorem resolveEach_site {world : Surroundings m} (placeless : world.Placeless) (key : String)
    (site other : Site) (position : Nat) : (items : List Value) →
    resolveEach world key site position items = resolveEach world key other position items
  | [] => by
      unfold resolveEach
      rfl
  | item :: items => by
      unfold resolveEach
      rw [resolveNamed_site placeless key (position :: site) (position :: other) item,
        resolveEach_site placeless key site other (position + 1) items]

end

theorem resolve_site {world : Surroundings m} (placeless : world.Placeless) (site other : Site)
    (path : String) (value : Value) :
    resolve world site path value = resolve world other path value := by
  unfold resolve
  congr 1
  funext reached key
  unfold resolveKey
  rw [resolveNamed_site placeless _ site other]

theorem resolveKey_of_ne_nil (world : Surroundings m) (site : Site) {key : List Char}
    (named : key ≠ []) (value : Value) :
    resolveKey world site (String.ofList key) value =
      resolveNamed world (String.ofList key) site value := by
  unfold resolveKey
  rw [if_neg (by simpa using named)]

theorem resolve_elements (world : Surroundings m) (site : Site) (path : String) {collection : Value}
    {items : List Value} (found : collection.elements? = some items) :
    resolve world site path collection = resolve world site path (.list items) := by
  cases collection with
  | list _ =>
      cases found
      rfl
  | set _ =>
      cases found
      unfold resolve
      cases front : components path.toList with
      | nil => exact absurd front (components_ne_nil _)
      | cons key keys =>
          simp only [List.foldlM_cons, resolveKey, resolveNamed]
  | _ => cases found

end

/-- What the items lead to, each read at its own place, from the given position on. -/
def Leads (read : Site → Value → Value → Prop) (site : Site) (position : Nat)
    (items values : List Value) : Prop :=
  List.Forall₂ (fun entry value => read (entry.2 :: site) entry.1 value) (items.zipIdx position) values

section

variable {read further : Site → Value → Value → Prop} {site : Site} {position : Nat}
  {items values : List Value}

theorem leads_nil : Leads read site position [] values ↔ values = [] := by
  simp [Leads]

theorem leads_cons {item : Value} : Leads read site position (item :: items) values ↔
    ∃ value rest, read (position :: site) item value ∧
      Leads read site (position + 1) items rest ∧ values = value :: rest := by
  simp [Leads, List.forall₂_cons_left_iff]

theorem leads_same : Leads (fun _ item value => item = value) site position items values ↔
    items = values := by
  induction items generalizing position values with
  | nil => simp [leads_nil, eq_comm]
  | cons item items ih => simp [leads_cons, ih, eq_comm]

/-- Reading all items and then all results leads where reading item by item leads. -/
theorem leads_trans : Leads (fun place item value => ∃ middle, read place item middle ∧
      further place middle value) site position items values ↔
    ∃ middles, Leads read site position items middles ∧ Leads further site position middles values := by
  induction items generalizing position values with
  | nil => simp [leads_nil]
  | cons item items ih =>
      simp only [leads_cons, ih]
      constructor
      · rintro ⟨value, rest, ⟨middle, one, two⟩, ⟨middles, ones, twos⟩, rfl⟩
        exact ⟨middle :: middles, ⟨middle, middles, one, ones, rfl⟩,
          leads_cons.mpr ⟨value, rest, two, twos, rfl⟩⟩
      · rintro ⟨_, ⟨middle, middles, one, ones, rfl⟩, twice⟩
        obtain ⟨value, rest, two, twos, same⟩ := leads_cons.mp twice
        exact ⟨value, rest, ⟨middle, one, two⟩, ⟨middles, ones, twos⟩, same⟩

theorem exists_leads : (∃ values, Leads read site position items values) ↔
    ∀ entry ∈ items.zipIdx position, ∃ value, read (entry.2 :: site) entry.1 value := by
  induction items generalizing position with
  | nil => simp [leads_nil]
  | cons item items ih =>
      simp only [leads_cons, List.zipIdx_cons, List.forall_mem_cons, ← ih]
      constructor
      · rintro ⟨_, value, rest, one, ones, rfl⟩
        exact ⟨⟨value, one⟩, rest, ones⟩
      · rintro ⟨⟨value, one⟩, rest, ones⟩
        exact ⟨_, value, rest, one, ones, rfl⟩

end

section

variable {world : World} {site : Site} {items values : List Value}

theorem resolveEach_eq_ok_iff {key : String} {position : Nat} :
    resolveEach world key site position items = .ok values ↔
      Leads (fun place item value => resolveNamed world key place item = .ok value) site position
        items values := by
  induction items generalizing position values with
  | nil =>
      unfold resolveEach
      simp [leads_nil, eq_comm]
  | cons item items ih =>
      unfold resolveEach
      simp only [leads_cons, Evaluated.bind_eq_ok_iff, ih, Evaluated.pure_eq_ok, Except.ok.injEq,
        @eq_comm _ values, exists_and_left]

theorem resolveKey_list_eq_ok_iff {key : List Char} (named : key ≠ []) {value : Value} :
    resolveKey world site (String.ofList key) (.list items) = .ok value ↔ ∃ values,
      value = .list values ∧ Leads (fun place item value =>
        resolveKey world place (String.ofList key) item = .ok value) site 0 items values := by
  simp only [resolveKey_of_ne_nil world _ named, resolveNamed, Evaluated.map_eq_ok_iff,
    resolveEach_eq_ok_iff]
  exact exists_congr fun values => and_comm.trans (and_congr_left fun _ => eq_comm)

/-- The keys may be resolved item by item: what one key makes of a list is a list again. -/
theorem foldlM_list_eq_ok_iff {keys : List (List Char)} (named : ∀ key ∈ keys, key ≠ [])
    {value : Value} :
    keys.foldlM (fun reached key => resolveKey world site (String.ofList key) reached)
        (.list items) = .ok value ↔
      ∃ values, value = .list values ∧ Leads (fun place item value =>
        keys.foldlM (fun reached key => resolveKey world place (String.ofList key) reached) item =
          .ok value) site 0 items values := by
  -- one key of the list gives a list of as many items, at the same places
  induction keys generalizing items with
  | nil => simp [leads_same, eq_comm]
  | cons key keys ih =>
      rw [List.forall_mem_cons] at named
      simp only [List.foldlM_cons, Evaluated.bind_eq_ok_iff, leads_trans,
        resolveKey_list_eq_ok_iff named.1]
      constructor
      · rintro ⟨_, ⟨middles, rfl, ones⟩, reached⟩
        obtain ⟨values, same, twos⟩ := (ih named.2).mp reached
        exact ⟨values, same, middles, ones, twos⟩
      · rintro ⟨values, same, middles, ones, twos⟩
        exact ⟨_, ⟨middles, rfl, ones⟩, (ih named.2).mpr ⟨values, same, twos⟩⟩

end

/-- Resolution composes along a point and distributes over the elements of a collection; where
contexts answer alike at all places, the places that the elements are read at do not matter. -/
theorem composes_and_distributes :
    (∀ (m : Type → Type) [Monad m] [LawfulMonad m] [MonadLiftT Evaluated m] (world : Surroundings m)
        (site : Site) (first second : String) (value : Value),
      resolve world site (first ++ "." ++ second) value =
        resolve world site first value >>= resolve world site second) ∧
    (∀ (world : World) (site : Site) (path : String) (collection : Value) (items : List Value),
      (∀ component ∈ components path.toList, component ≠ []) → collection.elements? = some items →
      ((∃ value, resolve world site path collection = .ok value) ↔
        ∀ entry ∈ items.zipIdx, ∃ value, resolve world (entry.2 :: site) path entry.1 = .ok value) ∧
      ∀ value, resolve world site path collection = .ok value ↔
        ∃ values, value = .list values ∧ List.Forall₂ (fun entry value =>
          resolve world (entry.2 :: site) path entry.1 = .ok value) items.zipIdx values) ∧
    ∀ (world : World), world.Placeless → ∀ (site other : Site) (path : String) (value : Value),
      resolve world site path value = resolve world other path value := by
  refine ⟨fun m => resolve_append, ?_, fun world => resolve_site⟩
  intro world site path collection items named found
  have distributes : ∀ value, resolve world site path collection = .ok value ↔
      ∃ values, value = .list values ∧
        Leads (fun place item value => resolve world place path item = .ok value) site 0 items values :=
    fun value => by
      rw [resolve_elements world site path found]
      exact foldlM_list_eq_ok_iff named
  have each : (∃ values, Leads (fun place item value => resolve world place path item = .ok value) site 0
        items values) ↔
      ∀ entry ∈ items.zipIdx, ∃ value, resolve world (entry.2 :: site) path entry.1 = .ok value :=
    exists_leads
  refine ⟨?_, distributes⟩
  rw [← each]
  constructor
  · rintro ⟨value, resolved⟩
    obtain ⟨values, -, leads⟩ := (distributes value).mp resolved
    exact ⟨values, leads⟩
  · rintro ⟨values, leads⟩
    exact ⟨.list values, (distributes _).mpr ⟨values, rfl, leads⟩⟩

/-- A set inside a list, a missing key, a key of a host object and a function under it. -/
theorem composes_and_distributes_nested :
    let host : Host :=
      { now := ⟨2000, 1, 1, 0, 0, 0, 0⟩
        random := id
        valueForKey := fun _ _ => .ok (.function 0)
        call := fun _ _ => .ok (.int 2) }
    let world : World := ⟨fun _ => host, fun _ _ _ => .ok .null⟩
    let items : List Value := [.map [("b", .object (.host 1))],
      .set [.map [("b", .map [("c", .int 3)])], .null]]
    (∀ component ∈ components "b.c".toList, component ≠ []) ∧
      (Value.list items).elements? = some items ∧ world.Placeless ∧
      resolve world [] "b.c" (.list items) =
        resolve world [] "b" (.list items) >>= resolve world [] "c" ∧
      resolve world [] "b.c" (.list items) = .ok (.list [.int 2, .list [.int 3, .null]]) ∧
      resolve world [] "b.c" (.list items) = resolve world [4] "b.c" (.list items) := by
  intro host world items
  have named : ∀ component ∈ components "b.c".toList, component ≠ [] := by decide
  have placeless : world.Placeless := ⟨fun _ _ => host.agrees_self, fun _ _ => rfl⟩
  obtain ⟨composes, distributes, places⟩ := composes_and_distributes
  refine ⟨named, rfl, placeless, composes Evaluated world [] "b" "c" _, ?_, places world placeless _ _ _ _⟩
  refine ((distributes world [] "b.c" _ items named rfl).2 _).mpr ⟨_, rfl, .cons ?_ (.cons ?_ .nil)⟩
  · rfl
  · rfl

end KeyPath

end PredicateRules
