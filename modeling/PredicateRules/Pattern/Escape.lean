import PredicateRules.Pattern.Basic
import PredicateRules.Pattern.NamedSet

namespace PredicateRules.Pattern

/-- What the flags of a pattern switch on or off from where they stand. -/
structure Flags where
  caseInsensitive : Bool
  multiLine : Bool
  dotMatchesNewLine : Bool
  swapGreed : Bool
  unicode : Bool
  anyLineEnd : Bool
  ignoreBlanks : Bool

namespace Flags

def initial : Flags :=
  { caseInsensitive := false
    multiLine := false
    dotMatchesNewLine := false
    swapGreed := false
    unicode := true
    anyLineEnd := false
    ignoreBlanks := false }

/-- The rest without blanks and comments at its front, if these are to be ignored. -/
def skipBlanks (flags : Flags) (rest : List Char) : List Char :=
  if flags.ignoreBlanks then skip false rest else rest
where
  skip (comment : Bool) : List Char → List Char
    | [] => []
    | character :: rest =>
      if comment then skip (character != '\n') rest
      else if Unicode.isWhiteSpace character.toNat then skip false rest
      else if character = '#' then skip true rest
      else character :: rest

def withVariants (flags : Flags) (set : CharacterSet) : CharacterSet :=
  if !flags.caseInsensitive then set
  else if flags.unicode then set.withCaseVariants
  else set.withAsciiCaseVariants

/-- A set without reference to Unicode must not hold parts of characters. -/
def checked? (flags : Flags) (set : CharacterSet) : Option CharacterSet :=
  if flags.unicode || set.isAscii then some set else none

/-- The set with the variants of its members, and then its complement if it is negated. -/
def finish? (flags : Flags) (negated : Bool) (set : CharacterSet) : Option CharacterSet :=
  let full := flags.withVariants set
  flags.checked? (if negated then full.negated else full)

end Flags

inductive Escape where
  /-- A character; whether it is written as a single byte. -/
  | literal (code : Nat) (byte : Bool)
  | set (members : CharacterSet)
  | assertion (condition : Assertion)

namespace Escape

def metaCharacters : List Char :=
  ['\\', '.', '+', '*', '?', '(', ')', '|', '[', ']', '{', '}', '^', '$', '#', '&', '-', '~']

def standsForItself (character : Char) : Bool :=
  metaCharacters.contains character ||
    (character.toNat < 0x80 && !character.isAlphanum && character != '<' && character != '>')

def control? : Char → Option Nat
  | 'a' => some 0x07
  | 'f' => some 0x0C
  | 't' => some 0x09
  | 'n' => some 0x0A
  | 'r' => some 0x0D
  | 'v' => some 0x0B
  | _ => none

def hexValue? (character : Char) : Option Nat :=
  if character.isDigit then some (character.toNat - 0x30)
  else if 'a' ≤ character && character ≤ 'f' then some (character.toNat - 0x57)
  else if 'A' ≤ character && character ≤ 'F' then some (character.toNat - 0x37)
  else none

def codePoint? (code : Nat) : Option Nat :=
  if code.isValidChar then some code else none

def fixedHex (flags : Flags) (value : Nat) : Nat → List Char → Option (Nat × List Char)
  | 0, rest => (codePoint? value).map fun code => (code, rest)
  | digits + 1, character :: rest => do
    let digit ← hexValue? character
    fixedHex flags (value * 16 + digit) digits (flags.skipBlanks rest)
  | _ + 1, [] => none

def bracedHex (flags : Flags) (value count : Nat) : Nat → List Char → Option (Nat × List Char)
  | 0, _ => none
  | _ + 1, [] => none
  | rounds + 1, character :: rest =>
    if character = '}' then
      if count = 0 || UInt32.size ≤ value then none
      else (codePoint? value).map fun code => (code, flags.skipBlanks rest)
    else do
      let digit ← hexValue? character
      bracedHex flags (value * 16 + digit) (count + 1) rounds (flags.skipBlanks rest)

def hex (flags : Flags) (digits : Nat) (rest : List Char) : Option (Escape × List Char) :=
  match flags.skipBlanks rest with
  | '{' :: body => do
    let (code, rest) ← bracedHex flags 0 0 (body.length + 1) (flags.skipBlanks body)
    some (literal code false, rest)
  | body => do
    let (code, rest) ← fixedHex flags 0 digits body
    some (literal code (digits == 2), rest)

/-- The text up to the first of two characters that follow each other, and what follows them. -/
def splitAtPair? (first second : Char) : List Char → Option (List Char × List Char)
  | [] => none
  | [_] => none
  | left :: right :: rest =>
    if left = first && right = second then some ([], rest)
    else (splitAtPair? first second (right :: rest)).map fun (before, after) => (left :: before, after)

def splitAt? (separator : Char) (text : List Char) : Option (List Char × List Char) :=
  match text.dropWhile (· != separator) with
  | [] => none
  | _ :: after => some (text.takeWhile (· != separator), after)

/-- The set of a name in braces and whether it is the complement that is meant. -/
def bracedProperty? (name : List Char) : Option (CharacterSet × Bool) :=
  match splitAtPair? '!' '=' name with
  | some (property, value) =>
    (CharacterSet.withValue? property value).map fun members => (members, true)
  | none =>
    match splitAt? ':' name with
    | some (property, value) =>
      (CharacterSet.withValue? property value).map fun members => (members, false)
    | none =>
      match splitAt? '=' name with
      | some (property, value) =>
        (CharacterSet.withValue? property value).map fun members => (members, false)
      | none => (CharacterSet.named? name).map fun members => (members, false)

def bracedName (flags : Flags) : Nat → List Char → Option (List Char × List Char)
  | 0, _ => none
  | _ + 1, [] => none
  | rounds + 1, character :: rest =>
    if character = '}' then some ([], rest)
    else (bracedName flags rounds (flags.skipBlanks rest)).map fun (name, rest) =>
      (character :: name, rest)

def property (flags : Flags) (negated : Bool) (rest : List Char) : Option (Escape × List Char) := do
  if !flags.unicode then none
  let ((members, other), rest) ← match flags.skipBlanks rest with
    | '{' :: body => do
      let (name, rest) ← bracedName flags (body.length + 1) (flags.skipBlanks body)
      some (← bracedProperty? name, rest)
    | character :: rest =>
      if character = '\\' then none
      else some ((← CharacterSet.named? [character], false), flags.skipBlanks rest)
    | [] => none
  let members ← flags.finish? (negated != other) members
  some (set members, rest)

def shorthandClass (flags : Flags) (negated : Bool) (wide narrow : CharacterSet) (rest : List Char) :
    Option (Escape × List Char) := do
  let members := if flags.unicode then wide else narrow
  let members ← flags.checked? (if negated then members.negated else members)
  some (set members, rest)

def isBoundaryLetter (character : Char) : Bool := character.isAlpha || character == '-'

def boundaryName (flags : Flags) : Nat → List Char → Option (List Char × List Char)
  | 0, _ => none
  | _ + 1, [] => none
  | rounds + 1, character :: rest =>
    if character = '}' then some ([], rest)
    else if isBoundaryLetter character then
      (boundaryName flags rounds (flags.skipBlanks rest)).map fun (name, rest) =>
        (character :: name, rest)
    else none

def namedBoundary? (unicode : Bool) (name : String) : Option Assertion :=
  match name with
  | "start" => some (.wordStart unicode)
  | "end" => some (.wordEnd unicode)
  | "start-half" => some (.wordStartHalf unicode)
  | "end-half" => some (.wordEndHalf unicode)
  | _ => none

/-- A word boundary, of a special kind if a brace with a name follows. A brace with anything else is
left to be read as a repetition. -/
def boundary (flags : Flags) (rest : List Char) : Option (Escape × List Char) :=
  match rest with
  | '{' :: body =>
    match flags.skipBlanks body with
    | [] => none
    | first :: tail =>
      if isBoundaryLetter first then do
        let (name, rest) ← boundaryName flags (body.length + 1) (first :: tail)
        let condition ← namedBoundary? flags.unicode (String.ofList name)
        some (assertion condition, rest)
      else some (assertion (.wordBoundary flags.unicode), rest)
  | rest => some (assertion (.wordBoundary flags.unicode), rest)

def read (flags : Flags) : List Char → Option (Escape × List Char)
  | [] => none
  | character :: rest =>
    if standsForItself character then some (literal character.toNat false, rest)
    else
      match control? character with
      | some code => some (literal code false, rest)
      | none =>
        match character with
        | 'x' => hex flags 2 rest
        | 'u' => hex flags 4 rest
        | 'U' => hex flags 8 rest
        | 'p' => property flags false rest
        | 'P' => property flags true rest
        | 'd' => shorthandClass flags false Unicode.Numeric.decimal CharacterSet.asciiDigit rest
        | 'D' => shorthandClass flags true Unicode.Numeric.decimal CharacterSet.asciiDigit rest
        | 's' => shorthandClass flags false Unicode.Control.whiteSpace CharacterSet.asciiSpace rest
        | 'S' => shorthandClass flags true Unicode.Control.whiteSpace CharacterSet.asciiSpace rest
        | 'w' => shorthandClass flags false Unicode.Class.word CharacterSet.asciiWord rest
        | 'W' => shorthandClass flags true Unicode.Class.word CharacterSet.asciiWord rest
        | 'A' => some (assertion .textStart, rest)
        | 'z' => some (assertion .textEnd, rest)
        | 'b' => boundary flags rest
        | 'B' => some (assertion (.notWordBoundary flags.unicode), rest)
        | '<' => some (assertion (.wordStart flags.unicode), rest)
        | '>' => some (assertion (.wordEnd flags.unicode), rest)
        | _ => none

/-- The code point of a character in a set. Without reference to Unicode it must be ASCII. -/
def memberCode? (flags : Flags) (code : Nat) : Option Nat :=
  if flags.unicode || code < 0x80 then some code else none

end Escape

end PredicateRules.Pattern
