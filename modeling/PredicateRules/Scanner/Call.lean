import PredicateRules.Scanner.Basic

namespace PredicateRules.Scanner

inductive Call where
  | literal (text : String)
  | keyword (word : String)
  | characters (set : CharClass)
  | upToCharacters (set : CharClass)
  | upToLiteral (text : String)
  | float
  | int64
  | advance
  | skipIgnored
  | atEnd
  | setLocation (location : Nat)
  | setSkips (skips : Option CharClass)
  | setCaseSensitive (caseSensitive : Bool)

inductive Answer where
  | flag (held : Bool)
  | text (found : Option (List Char))
  | character (found : Option Char)
  | float (found : Option Float)
  | int64 (found : Option Int64)
  | done

namespace Answer

/-- It is not `false`, and something was found. -/
def succeeds : Answer → Bool
  | flag held => held
  | text found => found.isSome
  | character found => found.isSome
  | float found => found.isSome
  | int64 found => found.isSome
  | done => true

end Answer

namespace Call

def run : Call → Scanner → Answer × Scanner
  | literal text, scanner => (scanner.scanLiteral text).map .flag id
  | keyword word, scanner => (scanner.scanKeyword word).map .flag id
  | characters set, scanner => (scanner.scanCharacters set).map .text id
  | upToCharacters set, scanner => (scanner.scanUpToCharacters set).map .text id
  | upToLiteral text, scanner => (scanner.scanUpToLiteral text).map .text id
  | float, scanner => scanner.scanFloat.map .float id
  | int64, scanner => scanner.scanInt64.map .int64 id
  | advance, scanner => scanner.advance.map .character id
  | skipIgnored, scanner => (.done, scanner.skipIgnored)
  | atEnd, scanner => scanner.atEnd.map .flag id
  | setLocation location, scanner => (.done, scanner.setLocation location)
  | setSkips skips, scanner => (.done, scanner.setSkips skips)
  | setCaseSensitive caseSensitive, scanner => (.done, scanner.setCaseSensitive caseSensitive)

def runAll (calls : List Call) (scanner : Scanner) : Scanner :=
  calls.foldl (fun scanner call => (call.run scanner).2) scanner

@[simp]
theorem runAll_nil (scanner : Scanner) : runAll [] scanner = scanner := rfl

@[simp]
theorem runAll_cons (call : Call) (calls : List Call) (scanner : Scanner) :
    runAll (call :: calls) scanner = runAll calls (call.run scanner).2 := rfl

@[simp]
theorem runAll_append (calls further : List Call) (scanner : Scanner) :
    runAll (calls ++ further) scanner = runAll further (runAll calls scanner) := List.foldl_append

end Call

end PredicateRules.Scanner
