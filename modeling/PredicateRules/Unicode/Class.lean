import PredicateRules.Unicode.Category
import PredicateRules.Unicode.Sign

namespace PredicateRules.Unicode.Class

def uppercaseLetter : Ranges := (Letter.alternating.everySecond 0).union Letter.uppercase

def lowercaseLetter : Ranges := (Letter.alternating.everySecond 1).union Letter.lowercase

def casedLetter : Ranges := .unions [uppercaseLetter, lowercaseLetter, Letter.titlecase]

def letter : Ranges := .unions [casedLetter, Letter.modifier, Letter.other]

def mark : Ranges := .unions [Mark.nonspacing, Mark.spacing, Mark.enclosing]

def number : Ranges := .unions [Numeric.decimal, Numeric.letter, Numeric.other]

def punctuation : Ranges :=
  .unions [Punctuation.connector, Punctuation.dash, Punctuation.opening, Punctuation.closing,
    Punctuation.initialQuote, Punctuation.finalQuote, Punctuation.other]

def symbol : Ranges :=
  .unions [Symbol.math, Symbol.currency, Symbol.modifier, Symbol.other]

def separator : Ranges :=
  .unions [Control.spaceSeparator, Control.lineSeparator, Control.paragraphSeparator]

/-- Controls, formats, private characters, and code points without a character. -/
def other : Ranges :=
  (Ranges.unions [letter, mark, number, punctuation, symbol, separator]).complement

def unassigned : Ranges :=
  other.difference (.unions [Control.control, Control.format, Control.privateUse])

def assigned : Ranges := unassigned.complement

def alphabetic : Ranges := .unions [letter, Numeric.letter, Contributory.alphabetic]

def uppercase : Ranges := uppercaseLetter.union Contributory.uppercase

def lowercase : Ranges := lowercaseLetter.union Contributory.lowercase

def cased : Ranges := .unions [uppercase, lowercase, Letter.titlecase]

def caseIgnorable : Ranges :=
  .unions [Mark.nonspacing, Mark.enclosing, Control.format, Letter.modifier, Symbol.modifier,
    Contributory.caseIgnorable]

def word : Ranges :=
  .unions [alphabetic, mark, Numeric.decimal, Punctuation.connector, Control.joinControl]

def graphemeExtend : Ranges :=
  .unions [Mark.nonspacing, Mark.enclosing, Contributory.graphemeExtend]

/-- Characters that show by themselves. -/
def graphemeBase : Ranges :=
  (Ranges.unions [other, Control.lineSeparator, Control.paragraphSeparator,
    graphemeExtend]).complement

def math : Ranges := Symbol.math.union Contributory.math

def reservedForPatterns : Ranges := Sign.patternSyntax.union Sign.patternWhiteSpace

def identifierStart : Ranges :=
  (Ranges.unions [letter, Numeric.letter, Contributory.identifierStart]).difference
    reservedForPatterns

def identifierContinue : Ranges :=
  (Ranges.unions [identifierStart, Mark.nonspacing, Mark.spacing, Numeric.decimal,
    Punctuation.connector, Contributory.identifierContinue]).difference reservedForPatterns

/-- What starts identifiers in every compatible form. -/
def stableIdentifierStart : Ranges :=
  identifierStart.difference
    [(0x37A, 0x37A), (0xE33, 0xE33), (0xEB3, 0xEB3), (0x309B, 0x309C), (0xFC5E, 0xFC63),
    (0xFDFA, 0xFDFB), (0xFE70, 0xFE70), (0xFE72, 0xFE72), (0xFE74, 0xFE74), (0xFE76, 0xFE76),
    (0xFE78, 0xFE78), (0xFE7A, 0xFE7A), (0xFE7C, 0xFE7C), (0xFE7E, 0xFE7E), (0xFF9E, 0xFF9F)]

def stableIdentifierContinue : Ranges :=
  identifierContinue.difference
    [(0x37A, 0x37A), (0x309B, 0x309C), (0xFC5E, 0xFC63), (0xFDFA, 0xFDFB), (0xFE70, 0xFE70),
    (0xFE72, 0xFE72), (0xFE74, 0xFE74), (0xFE76, 0xFE76), (0xFE78, 0xFE78), (0xFE7A, 0xFE7A),
    (0xFE7C, 0xFE7C), (0xFE7E, 0xFE7E)]

end PredicateRules.Unicode.Class
