import PredicateRules.Unicode.Letter
import PredicateRules.Unicode.Mark
import PredicateRules.Unicode.Numeric
import PredicateRules.Unicode.Punctuation
import PredicateRules.Unicode.Symbol
import PredicateRules.Unicode.Control
import PredicateRules.Unicode.Contributory

namespace PredicateRules.Unicode

/-- The runs in which upper and lower case alternate, entered at the given step. -/
def alternates (step code : Nat) : Bool :=
  Letter.alternating.any fun (first, last) =>
    first ≤ code && code ≤ last && (code - first) % 2 == step

def isUppercaseLetter (code : Nat) : Bool := alternates 0 code || Letter.uppercase.holds code

def isLowercaseLetter (code : Nat) : Bool := alternates 1 code || Letter.lowercase.holds code

def isTitlecaseLetter (code : Nat) : Bool := Letter.titlecase.holds code

def isCasedLetter (code : Nat) : Bool :=
  isUppercaseLetter code || isLowercaseLetter code || isTitlecaseLetter code

def isLetter (code : Nat) : Bool :=
  isCasedLetter code || Letter.modifier.holds code || Letter.other.holds code

def isMark (code : Nat) : Bool :=
  Mark.nonspacing.holds code || Mark.spacing.holds code || Mark.enclosing.holds code

def isNumeric (code : Nat) : Bool :=
  Numeric.decimal.holds code || Numeric.letter.holds code || Numeric.other.holds code

def isPunctuation (code : Nat) : Bool :=
  Punctuation.connector.holds code || Punctuation.dash.holds code ||
    Punctuation.opening.holds code || Punctuation.closing.holds code ||
    Punctuation.initialQuote.holds code || Punctuation.finalQuote.holds code ||
    Punctuation.other.holds code

def isSymbol (code : Nat) : Bool :=
  Symbol.math.holds code || Symbol.currency.holds code || Symbol.modifier.holds code ||
    Symbol.other.holds code

def isAlphabetic (code : Nat) : Bool :=
  isLetter code || Numeric.letter.holds code || Contributory.alphabetic.holds code

def isUppercase (code : Nat) : Bool := isUppercaseLetter code || Contributory.uppercase.holds code

def isLowercase (code : Nat) : Bool := isLowercaseLetter code || Contributory.lowercase.holds code

def isCased (code : Nat) : Bool := isUppercase code || isLowercase code || isTitlecaseLetter code

/-- Characters that are passed over when the case of the surroundings matters. -/
def isCaseIgnorable (code : Nat) : Bool :=
  Mark.nonspacing.holds code || Mark.enclosing.holds code || Control.format.holds code ||
    Letter.modifier.holds code || Symbol.modifier.holds code || Contributory.caseIgnorable.holds code

def isWhiteSpace (code : Nat) : Bool := Control.whiteSpace.holds code

def extendsGrapheme (code : Nat) : Bool :=
  Mark.nonspacing.holds code || Mark.enclosing.holds code || Contributory.graphemeExtend.holds code

/-- Characters that show as something of their own: the space, and what is assigned without being a
separator or a control. -/
def isPrintable (code : Nat) : Bool :=
  code == 0x20 || isLetter code || isMark code || isNumeric code || isPunctuation code ||
    isSymbol code

/-- Letters, marks, decimal digits, connectors and joiners. -/
def isWord (code : Nat) : Bool :=
  isAlphabetic code || isMark code || Numeric.decimal.holds code ||
    Punctuation.connector.holds code || Control.joinControl.holds code

end PredicateRules.Unicode
