namespace PredicateRules

abbrev CharClass := Char → Bool

namespace CharClass

/-- White space that may stand between any two tokens. -/
def skipped : CharClass := fun character =>
  character == ' ' || character == '\t' || character == '\n' || character == '\r' ||
    character == '\x0B' || character == '\x0C' || character == '\u0085' || character == '\u00A0'

/-- Components of key paths, names of variables and parts of selectors. -/
def identifier : CharClass := fun character =>
  character == '_' || character == '$' || character.isAlphanum

def propertyKey : CharClass := fun character =>
  character == '_' || character == '-' || character.isAlphanum

/-- What makes a keyword the beginning of a longer word. -/
def continuesKeyword : CharClass := fun character => character == '_' || character.isAlphanum

def number : CharClass := fun character =>
  character.isDigit || character == '.' || character == 'e' || character == 'E' || character == '+' ||
    character == '-'

end CharClass

end PredicateRules
