import PredicateRules.Pattern.Automaton
import PredicateRules.Pattern.Bracket

/-!
The pattern that a text denotes. Groups are kept on a stack, so that reading is one pass; a text that
denotes no pattern gives none. There is no look-around and there are no back-references.
-/

namespace PredicateRules.Pattern

/-- How deeply a pattern may be nested as it is written. -/
def depthLimit : Nat := 250

/-- A pattern, and how deeply it is nested as it is written. -/
structure Piece where
  pattern : Pattern
  depth : Nat

/-- What stands in a sequence: something that can be repeated, or a change of flags. -/
inductive Item where
  | part (piece : Piece)
  | flags

namespace Item

def pattern : Item → Pattern
  | part piece => piece.pattern
  | flags => .empty

def depth : Item → Nat
  | part piece => piece.depth
  | flags => 0

end Item

/-- The surroundings of an open group, with its number if it has one. -/
structure Enclosing where
  alternatives : List Piece
  items : List Item
  flags : Flags
  number : Option Nat

/-- How far a pattern is read: the alternatives already ended and the items of the one that is open,
the latest first. -/
structure Reader where
  alternatives : List Piece
  items : List Item
  flags : Flags
  enclosing : List Enclosing
  /-- How many groups with a number there are so far. -/
  groups : Nat
  names : List (List Char)

namespace Reader

def initial : Reader := ⟨[], [], Flags.initial, [], 0, []⟩

/-- Several things side by side are a level above them. -/
def depthOver (depths : List Nat) : Nat :=
  match depths with
  | [depth] => depth
  | depths => if depths.isEmpty then 0 else depths.foldl Nat.max 0 + 1

/-- The items, the latest first, as one piece. -/
def sequenceOf (items : List Item) : Piece :=
  ⟨inSequence (items.reverse.map Item.pattern), depthOver (items.map Item.depth)⟩

def closed (reader : Reader) : Piece :=
  let alternatives := (sequenceOf reader.items :: reader.alternatives).reverse
  ⟨anyOf (alternatives.map Piece.pattern), depthOver (alternatives.map Piece.depth)⟩

def addPiece (reader : Reader) (piece : Piece) : Reader :=
  { reader with items := .part piece :: reader.items }

def add (reader : Reader) (pattern : Pattern) : Reader := reader.addPiece ⟨pattern, 0⟩

def literal? (flags : Flags) (code : Nat) (byte : Bool) : Option Pattern :=
  if !flags.unicode && byte && 0x80 ≤ code then none
  else
    let single := CharacterSet.single code
    some (ofSet (if flags.unicode || code < 0x80 then flags.withVariants single else single))

def dot? (flags : Flags) : Option Pattern :=
  if !flags.unicode then none
  else if flags.dotMatchesNewLine then some (.oneOf (CharacterSet.negated []))
  else if flags.anyLineEnd then some (.oneOf (CharacterSet.negated [(0xA, 0xA), (0xD, 0xD)]))
  else some (.oneOf (CharacterSet.negated [(0xA, 0xA)]))

def lineStart (flags : Flags) : Assertion :=
  if !flags.multiLine then .textStart
  else if flags.anyLineEnd then .anyLineStart
  else .lineStart

def lineEnd (flags : Flags) : Assertion :=
  if !flags.multiLine then .textEnd
  else if flags.anyLineEnd then .anyLineEnd
  else .lineEnd

/-- The last item repeated, if it can be, and what follows. A question mark after a repetition
changes whether the longest match is tried first. -/
def repeatLast? (reader : Reader) (least : Nat) (most : Option Nat) (rest : List Char) :
    Option (Reader × List Char) :=
  match reader.items with
  | .part piece :: items =>
    let (lazily, rest) := match rest with
      | '?' :: rest => (true, rest)
      | rest => (false, rest)
    let longestFirst := lazily == reader.flags.swapGreed
    let repetition := repeated piece.pattern least most longestFirst
    some ({ reader with items := .part ⟨repetition, piece.depth + 1⟩ :: items }, rest)
  | _ => none

def count? (flags : Flags) (input : List Char) : Option (Nat × List Char) :=
  let input := input.dropWhile fun character => Unicode.isWhiteSpace character.toNat
  let (digits, rest) := takeDigits input.length input
  if digits.isEmpty then none
  else
    let value := digits.foldl (fun value digit => value * 10 + (digit.toNat - '0'.toNat)) 0
    if value < UInt32.size then
      some (value, flags.skipBlanks
        (rest.dropWhile fun character => Unicode.isWhiteSpace character.toNat))
    else none
where
  takeDigits : Nat → List Char → List Char × List Char
    | rounds + 1, digit :: rest =>
      if digit.isDigit then
        let (digits, rest) := takeDigits rounds (flags.skipBlanks rest)
        (digit :: digits, rest)
      else ([], digit :: rest)
    | _, rest => ([], rest)

def counted? (reader : Reader) (rest : List Char) : Option (Reader × List Char) := do
  let flags := reader.flags
  let (least, rest) ← count? flags (flags.skipBlanks rest)
  let (most, rest) ← match rest with
    | ',' :: rest =>
      match flags.skipBlanks rest with
      | '}' :: rest => some (none, '}' :: rest)
      | rest => do
        let (most, rest) ← count? flags rest
        some (some most, rest)
    | rest => some (some least, rest)
  match rest with
  | '}' :: rest =>
    if most.any fun most => most < least then none
    else reader.repeatLast? least most (flags.skipBlanks rest)
  | _ => none

def groupName? (names : List (List Char)) (input : List Char) :
    Option (List Char × List Char) :=
  let name := input.takeWhile (· != '>')
  match name, input.dropWhile (· != '>') with
  | first :: others, '>' :: rest =>
    if (first = '_' || Unicode.isAlphabetic first.toNat) &&
        (others.all fun character => character = '_' || character = '.' || character = '[' ||
          character = ']' || Unicode.isAlphabetic character.toNat ||
          Unicode.isNumeric character.toNat) &&
        !names.contains name then some (name, rest)
    else none
  | _, _ => none

def setFlag? (flags : Flags) (on : Bool) : Char → Option Flags
  | 'i' => some { flags with caseInsensitive := on }
  | 'm' => some { flags with multiLine := on }
  | 's' => some { flags with dotMatchesNewLine := on }
  | 'U' => some { flags with swapGreed := on }
  | 'u' => some { flags with unicode := on }
  | 'R' => some { flags with anyLineEnd := on }
  | 'x' => some { flags with ignoreBlanks := on }
  | _ => none

/-- The flags up to a colon or a parenthesis, with the letters already seen; a sign must be followed
by a flag. Gives whether any flag was there, the character that ends them, and what follows it. -/
def readFlags (flags : Flags) (on : Bool) (seen : List Char) :
    List Char → Option (Flags × Bool × Char × List Char)
  | [] => none
  | character :: rest =>
    if character = ':' || character = ')' then
      if seen.head? = some '-' then none else some (flags, !seen.isEmpty, character, rest)
    else if seen.contains character then none
    else if character = '-' then readFlags flags false ('-' :: seen) rest
    else do
      let flags ← setFlag? flags on character
      readFlags flags on (character :: seen) rest

/-- The reader within a new group, which gets the next number if it is to have one. -/
def openGroup (reader : Reader) (flags : Flags) (numbered : Bool) (names : List (List Char)) :
    Reader :=
  let groups := if numbered then reader.groups + 1 else reader.groups
  let number := if numbered then some groups else none
  { alternatives := []
    items := []
    flags := flags
    enclosing := ⟨reader.alternatives, reader.items, reader.flags, number⟩ :: reader.enclosing
    groups := groups
    names := names }

def startsWithAny (texts : List (List Char)) (input : List Char) : Bool :=
  texts.any fun text => text.isPrefixOf input

/-- What an opening parenthesis begins: a group, or a change of flags. -/
def parenthesis? (reader : Reader) (rest : List Char) : Option (Reader × List Char) :=
  let input := reader.flags.skipBlanks rest
  if startsWithAny [['?', '='], ['?', '!'], ['?', '<', '='], ['?', '<', '!']] input then none
  else
    match input with
    | '?' :: 'P' :: '<' :: rest => named rest
    | '?' :: '<' :: rest => named rest
    | '?' :: rest => do
      let (flags, any, stop, rest) ← readFlags reader.flags true [] rest
      if stop = ':' then some (reader.openGroup flags false reader.names, rest)
      else if any then some ({ reader with flags := flags, items := .flags :: reader.items }, rest)
      else none
    | input => some (reader.openGroup reader.flags true reader.names, input)
where
  named (rest : List Char) : Option (Reader × List Char) := do
    let (name, rest) ← groupName? reader.names rest
    some (reader.openGroup reader.flags true (name :: reader.names), rest)

def closeGroup? (reader : Reader) : Option Reader :=
  match reader.enclosing with
  | [] => none
  | outer :: enclosing =>
    let inner := reader.closed
    let pattern := match outer.number with
      | some number => .group number inner.pattern
      | none => inner.pattern
    some
      { reader with
        alternatives := outer.alternatives
        items := .part ⟨pattern, inner.depth + 1⟩ :: outer.items
        flags := outer.flags
        enclosing := enclosing }

def escape? (reader : Reader) (rest : List Char) : Option (Reader × List Char) := do
  match ← Escape.read reader.flags rest with
  | (.literal code byte, rest) => some (reader.add (← literal? reader.flags code byte), rest)
  | (.set members, rest) => some (reader.add (ofSet members), rest)
  | (.assertion condition, rest) => some (reader.add (.assertion condition), rest)

def step? (reader : Reader) (first : Char) (rest : List Char) : Option (Reader × List Char) :=
  match first with
  | '(' => reader.parenthesis? rest
  | ')' => reader.closeGroup?.map fun reader => (reader, rest)
  | '|' =>
    some ({ reader with
      alternatives := sequenceOf reader.items :: reader.alternatives
      items := [] }, rest)
  | '[' => do
    let (set, rest) ← Bracket.read reader.flags rest
    some (reader.addPiece ⟨ofSet set.members, set.depth⟩, rest)
  | '?' => reader.repeatLast? 0 (some 1) rest
  | '*' => reader.repeatLast? 0 none rest
  | '+' => reader.repeatLast? 1 none rest
  | '{' => reader.counted? rest
  | '\\' => reader.escape? rest
  | '.' => (dot? reader.flags).map fun pattern => (reader.add pattern, rest)
  | '^' => some (reader.add (.assertion (lineStart reader.flags)), rest)
  | '$' => some (reader.add (.assertion (lineEnd reader.flags)), rest)
  | character =>
    (literal? reader.flags character.toNat false).map fun pattern => (reader.add pattern, rest)

def run (reader : Reader) : Nat → List Char → Option Reader
  | 0, _ => none
  | rounds + 1, input =>
    match reader.flags.skipBlanks input with
    | [] => some reader
    | first :: rest => do
      let (reader, rest) ← reader.step? first rest
      run reader rounds rest

end Reader

/-- The pattern that the text denotes, if it denotes one that can be searched for. -/
def read? (text : List Char) : Option Pattern := do
  let reader ← Reader.initial.run (text.length + 1) text
  let piece := reader.closed
  if reader.enclosing.isEmpty && piece.depth ≤ depthLimit && piece.pattern.hasRoom then
    some piece.pattern
  else none

end PredicateRules.Pattern
