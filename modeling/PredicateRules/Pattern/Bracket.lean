import PredicateRules.Pattern.Escape

/-!
Sets in brackets: members, ranges, named classes, nested sets and the operations between them. The
operations have equal precedence, less than putting members side by side.
-/

namespace PredicateRules.Pattern.Bracket

inductive Operation where
  | intersection
  | difference
  | symmetricDifference

def Operation.apply : Operation → CharacterSet → CharacterSet → CharacterSet
  | intersection => Unicode.Ranges.intersection
  | difference => Unicode.Ranges.difference
  | symmetricDifference => Unicode.Ranges.symmetricDifference

/-- A set, and how deeply it is nested as it is written. -/
structure Nested where
  members : CharacterSet
  depth : Nat

structure Level where
  negated : Bool
  members : CharacterSet
  /-- How many items are put side by side, and the depth of the deepest. -/
  items : Nat
  depth : Nat
  /-- The left side of an operation whose right side is being read. -/
  pending : Option (Nested × Operation)

namespace Level

def opened (negated : Bool) : Level := ⟨negated, [], 0, 0, none⟩

def addNested (level : Level) (item : Nested) : Level :=
  { level with
    members := level.members.union item.members
    items := level.items + 1
    depth := Nat.max level.depth item.depth }

def add (level : Level) (members : CharacterSet) : Level := level.addNested ⟨members, 0⟩

/-- The items side by side, which are a level of their own if there are several. -/
def side (level : Level) : Nested :=
  ⟨level.members, if level.items < 2 then level.depth else level.depth + 1⟩

def combined (flags : Flags) (level : Level) : Nested :=
  match level.pending with
  | none => level.side
  | some (left, operation) =>
    ⟨operation.apply (flags.withVariants left.members) (flags.withVariants level.members),
      Nat.max left.depth level.side.depth + 1⟩

def operate (flags : Flags) (operation : Operation) (level : Level) : Level :=
  { opened level.negated with pending := some (level.combined flags, operation) }

end Level

def takeHyphens (flags : Flags) (level : Level) : Nat → List Char → Level × List Char
  | rounds + 1, '-' :: rest =>
    takeHyphens flags (level.add (CharacterSet.single '-'.toNat)) rounds (flags.skipBlanks rest)
  | _, rest => (level, rest)

/-- A new level after an opening bracket. A closing bracket in the first place is a member. -/
def openLevel (flags : Flags) (rest : List Char) : Option (Level × List Char) :=
  let body := flags.skipBlanks rest
  let (negated, body) := match body with
    | '^' :: tail => (true, flags.skipBlanks tail)
    | body => (false, body)
  let (level, tail) := takeHyphens flags (Level.opened negated) body.length body
  let (level, tail) := match body, tail with
    | '-' :: _, tail => (level, tail)
    | _, ']' :: after => (level.add (CharacterSet.single ']'.toNat), flags.skipBlanks after)
    | _, tail => (level, tail)
  if tail.isEmpty then none else some (level, tail)

def namedClass? (flags : Flags) : List Char → Option (CharacterSet × List Char)
  | ':' :: body =>
    let (negated, body) := match body with
      | '^' :: tail => (true, tail)
      | body => (false, body)
    match body.dropWhile (· != ':') with
    | ':' :: ']' :: rest => do
      let members ← CharacterSet.bracketClass? (String.ofList (body.takeWhile (· != ':')))
      let members ← flags.finish? negated members
      some (members, rest)
    | _ => none
  | _ => none

inductive Item where
  | character (code : Nat)
  | set (members : CharacterSet)

def readItem (flags : Flags) : List Char → Option (Item × List Char)
  | [] => none
  | '\\' :: rest => do
    match ← Escape.read flags rest with
    | (.literal code _, rest) => some (.character (← Escape.memberCode? flags code), rest)
    | (.set members, rest) => some (.set members, rest)
    | (.assertion _, _) => none
  | character :: rest => do some (.character (← Escape.memberCode? flags character.toNat), rest)

def Item.members : Item → CharacterSet
  | character code => CharacterSet.single code
  | set members => members

/-- Whether a hyphen here is the middle of a range. -/
def continuesRange (flags : Flags) : List Char → Bool
  | '-' :: rest =>
    match flags.skipBlanks rest with
    | ']' :: _ => false
    | '-' :: _ => false
    | _ => true
  | _ => false

def readRange (flags : Flags) (input : List Char) : Option (CharacterSet × List Char) := do
  let (first, rest) ← readItem flags input
  let rest := flags.skipBlanks rest
  if rest.isEmpty then none
  else if continuesRange flags rest then do
    let tail := flags.skipBlanks (rest.drop 1)
    let (last, rest) ← readItem flags tail
    match first, last with
    | .character low, .character high =>
      if low ≤ high then some (CharacterSet.range low high, rest) else none
    | _, _ => none
  else some (first.members, rest)

/-- The levels, the innermost first, up to the bracket that closes the last. Every round takes a
character at least. -/
def readLevels (flags : Flags) : Nat → Level → List Level → List Char →
    Option (Nested × List Char)
  | 0, _, _, _ => none
  | rounds + 1, level, outer, input =>
    match flags.skipBlanks input with
    | [] => none
    | '[' :: rest =>
      match namedClass? flags rest with
      | some (members, rest) => readLevels flags rounds (level.add members) outer rest
      | none => do
        let (inner, rest) ← openLevel flags rest
        readLevels flags rounds inner (level :: outer) rest
    | ']' :: rest => do
      let combined := level.combined flags
      let closed := ⟨← flags.finish? level.negated combined.members, combined.depth + 1⟩
      match outer with
      | [] => some (closed, rest)
      | enclosing :: outer => readLevels flags rounds (enclosing.addNested closed) outer rest
    | '&' :: '&' :: rest => readLevels flags rounds (level.operate flags .intersection) outer rest
    | '-' :: '-' :: rest => readLevels flags rounds (level.operate flags .difference) outer rest
    | '~' :: '~' :: rest =>
      readLevels flags rounds (level.operate flags .symmetricDifference) outer rest
    | input => do
      let (members, rest) ← readRange flags input
      readLevels flags rounds (level.add members) outer rest

def read (flags : Flags) (rest : List Char) : Option (Nested × List Char) := do
  let (level, rest) ← openLevel flags rest
  readLevels flags (rest.length + 1) level [] rest

end PredicateRules.Pattern.Bracket
