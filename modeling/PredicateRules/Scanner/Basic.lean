import PredicateRules.Scanner.CharClass
import PredicateRules.Number.Literal
import PredicateRules.Unicode.LowerCase

/-!
A cursor in a text. Every scan either takes what it looks for and moves past it, or says that it is
not there; most scans first pass over skipped characters, which never are part of a result. Newlines
are counted up to the furthest place that the cursor has been at, so that scanning a text again after
going back counts none of them twice.
-/

namespace PredicateRules

structure Scanner where
  /-- The characters before the cursor, the nearest first. -/
  passed : List Char
  remaining : List Char
  /-- The most characters there have ever been before the cursor. -/
  furthest : Nat
  /-- The line of the furthest place, from one. -/
  line : Nat
  skips : Option CharClass
  caseSensitive : Bool

namespace Scanner

def ofText (text : List Char) : Scanner :=
  { passed := []
    remaining := text
    furthest := 0
    line := 1
    skips := some CharClass.skipped
    caseSensitive := false }

def text (scanner : Scanner) : List Char := scanner.passed.reverse ++ scanner.remaining

@[simp]
theorem text_ofText (text : List Char) : (ofText text).text = text := rfl

def byteLength : List Char → Nat
  | [] => 0
  | character :: text => character.utf8Size + byteLength text

@[simp]
theorem byteLength_append (text rest : List Char) :
    byteLength (text ++ rest) = byteLength text + byteLength rest := by
  induction text with
  | nil => simp [byteLength]
  | cons character text ih => simp [byteLength, ih, Nat.add_assoc]

@[simp]
theorem byteLength_reverse (text : List Char) : byteLength text.reverse = byteLength text := by
  induction text with
  | nil => rfl
  | cons character text ih => simp [byteLength, ih, Nat.add_comm]

theorem utf8ByteSize_ofList (text : List Char) : (String.ofList text).utf8ByteSize = byteLength text := by
  induction text with
  | nil => rfl
  | cons character text ih =>
      rw [String.ofList_cons, String.utf8ByteSize_append, String.utf8ByteSize_singleton, ih, byteLength]

theorem length_le_byteLength (text : List Char) : text.length ≤ byteLength text := by
  induction text with
  | nil => exact Nat.le_refl 0
  | cons character text ih =>
      have := character.utf8Size_pos
      rw [List.length_cons, byteLength]
      omega

def location (scanner : Scanner) : Nat := byteLength scanner.passed

/-- Moves the cursor over the next characters, to the end of the text at most. -/
def forward (scanner : Scanner) (count : Nat) : Scanner :=
  let crossed := scanner.remaining.take count
  let fresh := crossed.drop (scanner.furthest - scanner.passed.length)
  { scanner with
    passed := crossed.reverse ++ scanner.passed
    remaining := scanner.remaining.drop count
    furthest := max scanner.furthest (scanner.passed.length + crossed.length)
    line := scanner.line + fresh.count '\n' }

@[simp]
theorem text_forward (scanner : Scanner) (count : Nat) :
    (scanner.forward count).text = scanner.text := by
  simp [text, forward]

theorem furthest_le_forward (scanner : Scanner) (count : Nat) :
    scanner.furthest ≤ (scanner.forward count).furthest := Nat.le_max_left _ _

/-- Puts the cursor where an earlier state of the same scanner had it. -/
def backTo (scanner earlier : Scanner) : Scanner :=
  { scanner with passed := earlier.passed, remaining := earlier.remaining }

/-- How many characters of the text fit into that many bytes. -/
def charactersWithin : Nat → List Char → Nat
  | _, [] => 0
  | bytes, character :: rest =>
    if character.utf8Size ≤ bytes then charactersWithin (bytes - character.utf8Size) rest + 1 else 0

/-- Puts the cursor at a byte offset, at the end of the text if that is beyond it, and before a
character that the offset is inside of. -/
def setLocation (scanner : Scanner) (location : Nat) : Scanner :=
  let text := scanner.text
  { scanner with passed := [], remaining := text }.forward (charactersWithin location text)

@[simp]
theorem text_setLocation (scanner : Scanner) (location : Nat) :
    (scanner.setLocation location).text = scanner.text :=
  text_forward _ _

/-- The text between two byte offsets; empty if these do not bound a text. -/
def slice (scanner : Scanner) (start stop : Nat) : List Char :=
  let text := scanner.text
  let before := text.take (charactersWithin start text)
  let through := text.take (charactersWithin stop text)
  if byteLength before = start && byteLength through = stop then through.drop before.length else []

def setSkips (scanner : Scanner) (skips : Option CharClass) : Scanner :=
  { scanner with skips := skips }

def setCaseSensitive (scanner : Scanner) (caseSensitive : Bool) : Scanner :=
  { scanner with caseSensitive := caseSensitive }

def peek (scanner : Scanner) : Option Char := scanner.remaining.head?

def advance (scanner : Scanner) : Option Char × Scanner :=
  match scanner.remaining with
  | [] => (none, scanner)
  | character :: _ => (some character, scanner.forward 1)

def isSkipped (scanner : Scanner) (character : Char) : Bool :=
  scanner.skips.any fun skip => skip character

def skipIgnored (scanner : Scanner) : Scanner :=
  match scanner.remaining.takeWhile scanner.isSkipped with
  | [] => scanner
  | skipped => scanner.forward skipped.length

@[simp]
theorem text_skipIgnored (scanner : Scanner) : scanner.skipIgnored.text = scanner.text := by
  unfold skipIgnored
  split
  · rfl
  · exact text_forward scanner _

/-- Whether nothing but skipped characters remain; the cursor stays. -/
def atEnd (scanner : Scanner) : Bool × Scanner :=
  let ahead := scanner.skipIgnored
  (ahead.remaining.isEmpty, ahead.backTo scanner)

@[simp]
theorem passed_atEnd (scanner : Scanner) : scanner.atEnd.2.passed = scanner.passed := rfl

@[simp]
theorem remaining_atEnd (scanner : Scanner) : scanner.atEnd.2.remaining = scanner.remaining := rfl

/-- The longest run of characters that `wanted` holds of, less the skipped ones among them; there must
be another one. -/
def scanRun (scanner : Scanner) (wanted : CharClass) : Option (List Char) × Scanner :=
  match scanner.atEnd with
  | (true, scanner) => (none, scanner)
  | (false, scanner) =>
    let ahead := scanner.skipIgnored
    let run := ahead.remaining.takeWhile wanted
    match run.filter fun character => !ahead.isSkipped character with
    | [] => (none, ahead)
    | kept => (some kept, ahead.forward run.length)

def scanCharacters (scanner : Scanner) (set : CharClass) : Option (List Char) × Scanner :=
  scanner.scanRun set

def scanUpToCharacters (scanner : Scanner) (set : CharClass) : Option (List Char) × Scanner :=
  scanner.scanRun fun character => !set character

/-- Whether two characters count as the same; unless case matters, in lower case. -/
def sameChar (caseSensitive : Bool) (left right : Char) : Bool :=
  left == right || (!caseSensitive && Unicode.lowerChar left == Unicode.lowerChar right)

def startsWith (caseSensitive : Bool) : List Char → List Char → Bool
  | [], _ => true
  | _ :: _, [] => false
  | expected :: literal, character :: rest =>
    sameChar caseSensitive character expected && startsWith caseSensitive literal rest

/-- Takes the literal if the text goes on with it. Nothing is found at the end of the text. -/
def scanLiteral (scanner : Scanner) (literal : String) : Bool × Scanner :=
  let ahead := scanner.skipIgnored
  let expected := literal.toList
  if !ahead.remaining.isEmpty && startsWith ahead.caseSensitive expected ahead.remaining then
    (true, ahead.forward expected.length)
  else (false, ahead)

/-- Takes the keyword if it is not the beginning of a longer word. A keyword that ends in something
else than a letter, a digit or an underscore is never the beginning of a word. -/
def scanKeyword (scanner : Scanner) (keyword : String) : Bool × Scanner :=
  match scanner.scanLiteral keyword with
  | (false, after) => (false, after)
  | (true, after) =>
    if keyword.toList.getLast?.any CharClass.continuesKeyword &&
        after.peek.any CharClass.continuesKeyword then (false, after.backTo scanner)
    else (true, after)

/-- How many characters there are before the literal, all of them if it does not occur. -/
def distanceTo (caseSensitive : Bool) (literal : List Char) : List Char → Nat
  | [] => 0
  | character :: rest =>
    if startsWith caseSensitive literal (character :: rest) then 0
    else distanceTo caseSensitive literal rest + 1

/-- Everything before the next occurrence of the literal or else the end, without skipping. -/
def scanUpToLiteral (scanner : Scanner) (literal : String) : Option (List Char) × Scanner :=
  match distanceTo scanner.caseSensitive literal.toList scanner.remaining with
  | 0 => (none, scanner)
  | distance => (some (scanner.remaining.take distance), scanner.forward distance)

/-- The longest front of the text that is a number, and how long it is: as long as a number may go on, each
character is tried as the last one, and the last success counts. -/
def lastNumber (parse : List Char → Option α) (taken : List Char) (best : Option (Nat × α)) :
    List Char → Option (Nat × α)
  | [] => best
  | character :: rest =>
    if CharClass.number character then
      let candidate := taken ++ [character]
      lastNumber parse candidate (((parse candidate).map fun number => (candidate.length, number)) <|> best)
        rest
    else best

/-- The longest number that begins with a digit or a point. Signs in front are no part of it. -/
def scanNumber (scanner : Scanner) (parse : List Char → Option α) : Option α × Scanner :=
  let ahead := scanner.skipIgnored
  if ahead.remaining.head?.any fun first => first.isDigit || first == '.' then
    match lastNumber parse [] none ahead.remaining with
    | some (length, number) => (some number, ahead.forward length)
    | none => (none, ahead)
  else (none, ahead)

def scanFloat (scanner : Scanner) : Option Float × Scanner := scanner.scanNumber Float64.parse?

def scanInt64 (scanner : Scanner) : Option Int64 × Scanner := scanner.scanNumber Numeral.parseInt64?

end Scanner

end PredicateRules
