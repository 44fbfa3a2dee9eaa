import PredicateRules.Evaluation.World

/-!
Key paths: keys with a point between each two, resolved one after the other. A key of a collection
is the list of that key of each element; a function that an object holds under a key is called.
-/

namespace PredicateRules.KeyPath

/-- The pieces between the points; there is always one more than there are points. -/
def components : List Char → List (List Char)
  | [] => [[]]
  | head :: rest =>
    if head = '.' then [] :: components rest
    else
      match components rest with
      | [] => [[head]]
      | first :: others => (head :: first) :: others

theorem components_ne_nil (text : List Char) : components text ≠ [] := by
  cases text with
  | nil => exact List.cons_ne_nil _ _
  | cons head rest =>
      unfold components
      split
      · exact List.cons_ne_nil _ _
      · split <;> exact List.cons_ne_nil _ _

theorem components_append (path rest : List Char) :
    components (path ++ '.' :: rest) = components path ++ components rest := by
  induction path with
  | nil => rfl
  | cons head path ih =>
      simp only [List.cons_append, components, ih]
      split
      · rfl
      · cases front : components path with
        | nil => exact absurd front (components_ne_nil path)
        | cons first others => rfl

section

variable {m : Type → Type} [Monad m] [MonadLiftT Evaluated m]

section

variable (world : Surroundings m) (key : String)

mutual

def resolveNamed (site : Site) : Value → m Value
  | .list items => Value.list <$> resolveEach site 0 items
  | .set items => Value.list <$> resolveEach site 0 items
  | .map entries => return (Value.entry? key entries).getD .null
  | .object reference => do
    match ← world.valueForKey site reference key with
    | .function number => liftM ((world.host site).call number [])
    | value => return value
  | _ => return .null

def resolveEach (site : Site) (position : Nat) : List Value → m (List Value)
  | [] => return []
  | item :: items => do
    let value ← resolveNamed (position :: site) item
    let values ← resolveEach site (position + 1) items
    return value :: values

end

end

/-- One key of a value. The empty key names nothing. -/
def resolveKey (world : Surroundings m) (site : Site) (key : String) (value : Value) : m Value :=
  if key.isEmpty then return .null else resolveNamed world key site value

def resolve (world : Surroundings m) (site : Site) (path : String) (value : Value) : m Value :=
  (components path.toList).foldlM (fun reached key => resolveKey world site (String.ofList key) reached)
    value

mutual

theorem resolveNamed_within (world : Surroundings m) (step : Step) (key : String) (site : Site) :
    (value : Value) →
    resolveNamed (world.within step) key site value = resolveNamed world key (site ++ [step]) value
  | .list items | .set items => by
      unfold resolveNamed
      rw [resolveEach_within world step key site 0 items]
  | .object reference => by
      unfold resolveNamed
      cases reference <;> rfl
  | .map _ | .null | .bool _ | .int _ | .float _ | .string _ | .dateTime _ | .function _ => by
      unfold resolveNamed
      rfl

theorem resolveEach_within (world : Surroundings m) (step : Step) (key : String) (site : Site)
    (position : Nat) : (items : List Value) →
    resolveEach (world.within step) key site position items =
      resolveEach world key (site ++ [step]) position items
  | [] => by
      unfold resolveEach
      rfl
  | item :: items => by
      unfold resolveEach
      rw [resolveNamed_within world step key (position :: site) item,
        resolveEach_within world step key site (position + 1) items]
      rfl

end

theorem resolve_within (world : Surroundings m) (step : Step) (site : Site) (path : String)
    (value : Value) :
    resolve (world.within step) site path value = resolve world (site ++ [step]) path value := by
  unfold resolve resolveKey
  simp only [resolveNamed_within]

end

end PredicateRules.KeyPath
