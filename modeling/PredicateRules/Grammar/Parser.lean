import PredicateRules.Grammar.Error
import PredicateRules.Scanner.Basic
import PredicateRules.Value.Basic

/-!
What the grammars share: a scanner over the text, the arguments for placeholders, and recursion that
ends because every part of a text is shorter than the text.
-/

namespace PredicateRules

structure Parser where
  scanner : Scanner
  arguments : List Value
  /-- The number of arguments that placeholders have taken. -/
  nextArgument : Nat
  trackLines : Bool

/-- A step of reading. Also a failed step leaves the parser where it got to. -/
abbrev Parse := EStateM ParseError Parser

namespace Parser

def ofText (text : String) (arguments : List Value) (caseSensitive : Bool) : Parser :=
  { scanner := (Scanner.ofText text.toList).setCaseSensitive caseSensitive
    arguments := arguments
    nextArgument := 0
    trackLines := false }

def location (parser : Parser) : Location :=
  { residual := String.ofList (parser.scanner.remaining.dropWhile CharClass.skipped)
    line := if parser.trackLines then some parser.scanner.line else none }

end Parser

namespace Parse

def scan (operation : Scanner → α × Scanner) : Parse α := fun parser =>
  let (result, scanner) := operation parser.scanner
  .ok result { parser with scanner := scanner }

def move (operation : Scanner → Scanner) : Parse Unit := scan fun scanner => ((), operation scanner)

def scanner : Parse Scanner := fun parser => .ok parser.scanner parser

/-- Goes back to where an earlier scanner was. Lines that were counted stay counted. -/
def backTo (earlier : Scanner) : Parse Unit := move fun scanner => scanner.backTo earlier

def fail (error : Location → ParseError) : Parse α := fun parser => .error (error parser.location) parser

/-- The result or the error of a step that may fail without failing the whole. -/
def attempt (step : Parse α) : Parse (Except ParseError α) := fun parser =>
  match step parser with
  | .ok result parser => .ok (.ok result) parser
  | .error error parser => .ok (.error error) parser

/-- The result of a step, or nothing where it fails; then the parser goes back to where it was. -/
def tried (step : Parse α) : Parse (Option α) := do
  let before ← scanner
  match ← attempt step with
  | .ok result => return some result
  | .error _ =>
    backTo before
    return none

def literal (text : String) : Parse Bool := scan fun scanner => scanner.scanLiteral text

def keyword (text : String) : Parse Bool := scan fun scanner => scanner.scanKeyword text

def firstKeyword : List (String × α) → Parse (Option α)
  | [] => pure none
  | (word, meaning) :: others => do
    if ← keyword word then return some meaning else firstKeyword others

/-- The characters of a class that come next, one at the least. -/
def characters (set : CharClass) (error : Location → ParseError) : Parse (List Char) := do
  match ← scan fun scanner => scanner.scanCharacters set with
  | some found => return found
  | none => fail error

def expect (delimiter construct : String) : Parse Unit := do
  if ← literal delimiter then return () else fail (.missingDelimiter delimiter construct)

def expectEnd : Parse Unit := do
  if ← scan Scanner.atEnd then return () else fail .trailingInput

def recurseTo (step : (α → Parse β) → α → Parse β) : Nat → α → Parse β
  | 0, _ => fail .missingIdentifier
  | depth + 1, start => step (recurseTo step depth) start

/-- Recursion in which every call of itself comes after a character was taken, so that there are fewer
calls inside each other than characters and the end of the depth is not reached. -/
def recurse (step : (α → Parse β) → α → Parse β) (start : α) : Parse β := fun parser =>
  recurseTo step (parser.scanner.remaining.length + 1) start parser

/-- Repeats a step as long as it goes on to something, which takes a character each time. -/
def repeatWhile (step : α → Parse (Option α)) (start : α) : Parse α :=
  recurse (fun again current => do
    match ← step current with
    | some next => again next
    | none => return current) start

def takeArgument (which : Parser → Nat) (placeholder : String) : Parse Value := fun parser =>
  match parser.arguments[which parser]? with
  | some value => .ok value { parser with nextArgument := parser.nextArgument + 1 }
  | none => .error (.missingArgument placeholder parser.location) parser

end Parse

end PredicateRules
