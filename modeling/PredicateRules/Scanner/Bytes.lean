import PredicateRules.Scanner.Call

/-!
A scanner whose cursor is an offset in bytes. A text can only be cut between two characters; an operation
that would cut it anywhere else has no outcome.
-/

namespace PredicateRules

structure ByteScanner where
  text : List Char
  location : Nat
  /-- The furthest offset there has ever been. -/
  highWater : Nat
  /-- The line of the furthest offset, from one. -/
  line : Nat
  skips : Option CharClass
  caseSensitive : Bool

namespace ByteScanner

/-- What is before an offset and what is from it on, unless the offset is inside of a character or beyond
the end. -/
def cut? : Nat → List Char → Option (List Char × List Char)
  | 0, text => some ([], text)
  | _ + 1, [] => none
  | offset + 1, character :: text =>
    if character.utf8Size ≤ offset + 1 then
      (cut? (offset + 1 - character.utf8Size) text).map fun (front, behind) => (character :: front, behind)
    else none

def between? (start stop : Nat) (text : List Char) : Option (List Char) := do
  let (_, behind) ← cut? start text
  if start ≤ stop then
    let (inside, _) ← cut? (stop - start) behind
    return inside
  else none

/-- The characters with the offsets that they begin at. -/
def indexed (offset : Nat) : List Char → List (Nat × Char)
  | [] => []
  | character :: text => (offset, character) :: indexed (offset + character.utf8Size) text

def ofText (text : List Char) : ByteScanner :=
  { text := text
    location := 0
    highWater := 0
    line := 1
    skips := some CharClass.skipped
    caseSensitive := false }

def length (scanner : ByteScanner) : Nat := Scanner.byteLength scanner.text

/-- Puts the cursor at an offset. Only newlines beyond the furthest offset so far are counted. -/
def moveTo? (scanner : ByteScanner) (location : Nat) : Option ByteScanner :=
  let start := max scanner.location scanner.highWater
  let stop := max location scanner.highWater
  if start < stop then do
    let fresh ← between? start stop scanner.text
    return { scanner with location := location, highWater := stop, line := scanner.line + fresh.count '\n' }
  else some { scanner with location := location }

/-- The last offset up to the given one that is inside of no character. -/
def lastBoundary (text : List Char) : Nat → Nat
  | 0 => 0
  | offset + 1 => if (cut? (offset + 1) text).isSome then offset + 1 else lastBoundary text offset

def setLocation? (scanner : ByteScanner) (location : Nat) : Option ByteScanner :=
  scanner.moveTo? (lastBoundary scanner.text (min location scanner.length))

def remaining? (scanner : ByteScanner) : Option (List Char) :=
  (cut? scanner.location scanner.text).map Prod.snd

def advance? (scanner : ByteScanner) : Option (Option Char × ByteScanner) := do
  match ← scanner.remaining? with
  | [] => return (none, scanner)
  | character :: _ => return (some character, ← scanner.moveTo? (scanner.location + character.utf8Size))

/-- How many bytes there are before the first character outside of the class. -/
def runLength (set : CharClass) (text : List Char) : Nat :=
  match (indexed 0 text).find? fun (_, character) => !set character with
  | some (index, _) => index
  | none => Scanner.byteLength text

def skipIgnored? (scanner : ByteScanner) : Option ByteScanner :=
  match scanner.skips with
  | none => some scanner
  | some skip => do
    let skipped := runLength skip (← scanner.remaining?)
    if 0 < skipped then scanner.moveTo? (scanner.location + skipped) else return scanner

def atEnd? (scanner : ByteScanner) : Option (Bool × ByteScanner) := do
  let ahead ← scanner.skipIgnored?
  return (decide (ahead.length ≤ ahead.location), { ahead with location := scanner.location })

def isSkipped (scanner : ByteScanner) (character : Char) : Bool :=
  scanner.skips.any fun skip => skip character

/-- The characters up to one that ends the run, less the skipped ones, and the offset behind the last. -/
def collect (ends skipped : CharClass) (start : Nat) : List (Nat × Char) → List Char → Nat → List Char × Nat
  | [], kept, stop => (kept, stop)
  | (index, character) :: rest, kept, stop =>
    if ends character then (kept, stop)
    else
      let kept := if skipped character then kept else kept ++ [character]
      collect ends skipped start rest kept (start + index + character.utf8Size)

def scanWithSet? (scanner : ByteScanner) (set : CharClass) (stopWhen : Bool) :
    Option (Option (List Char) × ByteScanner) := do
  let (ended, scanner) ← scanner.atEnd?
  if ended then return (none, scanner)
  else
    let ahead ← scanner.skipIgnored?
    let rest ← ahead.remaining?
    let (kept, stop) := collect (fun character => set character == stopWhen) ahead.isSkipped ahead.location
      (indexed 0 rest) [] ahead.location
    if kept.isEmpty then return (none, ahead) else return (some kept, ← ahead.moveTo? stop)

/-- How many bytes the literal takes up at the front of a text, which depends on the case of the text. -/
def matchLength? (caseSensitive : Bool) (length : Nat) : List Char → List (Nat × Char) → Option Nat
  | [], _ => some length
  | _ :: _, [] => none
  | expected :: literal, (index, character) :: rest =>
    if Scanner.sameChar caseSensitive character expected then
      matchLength? caseSensitive (index + character.utf8Size) literal rest
    else none

def matchAt? (scanner : ByteScanner) (offset : Nat) (literal : List Char) : Option (Option Nat) := do
  let (_, rest) ← cut? offset scanner.text
  return matchLength? scanner.caseSensitive 0 literal (indexed 0 rest)

def scanLiteral? (scanner : ByteScanner) (literal : String) : Option (Bool × ByteScanner) := do
  let ahead ← scanner.skipIgnored?
  if ahead.length ≤ ahead.location then return (false, ahead)
  else
    match ← ahead.matchAt? ahead.location literal.toList with
    | some length => return (true, ← ahead.moveTo? (ahead.location + length))
    | none => return (false, ahead)

def scanKeyword? (scanner : ByteScanner) (keyword : String) : Option (Bool × ByteScanner) := do
  let (found, after) ← scanner.scanLiteral? keyword
  if !found then return (false, after)
  else if keyword.toList.getLast?.any CharClass.continuesKeyword then
    if (← after.remaining?).head?.any CharClass.continuesKeyword then
      return (false, { after with location := scanner.location })
    else return (true, after)
  else return (true, after)

/-- The offset of the first of the characters that the literal begins at, or else of the end. -/
def findLiteral? (scanner : ByteScanner) (literal : List Char) : List (Nat × Char) → Option Nat
  | [] => some scanner.length
  | (index, _) :: rest => do
    match ← scanner.matchAt? (scanner.location + index) literal with
    | some _ => return scanner.location + index
    | none => scanner.findLiteral? literal rest

def scanUpToLiteral? (scanner : ByteScanner) (literal : String) : Option (Option (List Char) × ByteScanner) := do
  let stop ← scanner.findLiteral? literal.toList (indexed 0 (← scanner.remaining?))
  if stop = scanner.location then return (none, scanner)
  else
    let after ← scanner.moveTo? stop
    return (some (← between? scanner.location stop scanner.text), after)

/-- Each front of the text up to one of the characters is tried; the last success counts. -/
def lastNumber? (parse : List Char → Option α) (text : List Char) :
    List (Nat × Char) → Option (Nat × α) → Option (Option (Nat × α))
  | [], best => some best
  | (index, character) :: rest, best =>
    if CharClass.number character then do
      let candidate ← between? 0 (index + 1) text
      lastNumber? parse text rest (((parse candidate).map fun number => (index + 1, number)) <|> best)
    else some best

def scanNumber? (scanner : ByteScanner) (parse : List Char → Option α) : Option (Option α × ByteScanner) := do
  let ahead ← scanner.skipIgnored?
  let rest ← ahead.remaining?
  if rest.head?.any fun first => first.isDigit || first == '.' then
    match ← lastNumber? parse rest (indexed 0 rest) none with
    | some (length, number) => return (some number, ← ahead.moveTo? (ahead.location + length))
    | none => return (none, ahead)
  else return (none, ahead)

end ByteScanner

namespace Scanner.Call

def runBytes? : Call → ByteScanner → Option (Answer × ByteScanner)
  | literal text, scanner => (scanner.scanLiteral? text).map (Prod.map .flag id)
  | keyword word, scanner => (scanner.scanKeyword? word).map (Prod.map .flag id)
  | characters set, scanner => (scanner.scanWithSet? set false).map (Prod.map .text id)
  | upToCharacters set, scanner => (scanner.scanWithSet? set true).map (Prod.map .text id)
  | upToLiteral text, scanner => (scanner.scanUpToLiteral? text).map (Prod.map .text id)
  | float, scanner => (scanner.scanNumber? Float64.parse?).map (Prod.map .float id)
  | int64, scanner => (scanner.scanNumber? Numeral.parseInt64?).map (Prod.map .int64 id)
  | advance, scanner => scanner.advance?.map (Prod.map .character id)
  | skipIgnored, scanner => scanner.skipIgnored?.map (.done, ·)
  | atEnd, scanner => scanner.atEnd?.map (Prod.map .flag id)
  | setLocation location, scanner => (scanner.setLocation? location).map (.done, ·)
  | setSkips skips, scanner => some (.done, { scanner with skips := skips })
  | setCaseSensitive caseSensitive, scanner => some (.done, { scanner with caseSensitive := caseSensitive })

def runAllBytes? (calls : List Call) (scanner : ByteScanner) : Option ByteScanner :=
  calls.foldlM (fun scanner call => (call.runBytes? scanner).map Prod.snd) scanner

end Scanner.Call

end PredicateRules
