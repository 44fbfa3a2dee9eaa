import PredicateRules.Unicode.Class

namespace PredicateRules.Unicode.Break.Sentence

/-- Georgian has letters of both cases, but not to tell how a sentence starts. -/
def uncased : Ranges := [(0x10D0, 0x10FA), (0x10FD, 0x10FF), (0x1C90, 0x1CBA), (0x1CBD, 0x1CBF)]

def extend : Ranges :=
  .unions [Class.graphemeExtend, Mark.spacing, [(0x200D, 0x200D)]]

def lower : Ranges := Class.lowercase.difference (extend.union uncased)

def upper : Ranges := (Class.uppercase.union Letter.titlecase).difference uncased

/-- The Hebrew sign that marks an abbreviation counts as a letter. -/
def otherLetter : Ranges :=
  (Class.alphabetic.difference (.unions [lower, upper, extend])).union [(0x5F3, 0x5F3)]

/-- Full stops, which may end a sentence. -/
def fullStop : Ranges := [(0x2E, 0x2E), (0x2024, 0x2024), (0xFE52, 0xFE52), (0xFF0E, 0xFF0E)]

/-- Signs that do end a sentence. -/
def terminal : Ranges := Sign.sentenceTerminal.difference fullStop

def closing : Ranges :=
  .unions [Punctuation.opening, Punctuation.closing, Punctuation.initialQuote,
    Punctuation.finalQuote,
    [(0x22, 0x22), (0x27, 0x27), (0x275B, 0x2760), (0x2E00, 0x2E01), (0x2E06, 0x2E08),
    (0x2E0B, 0x2E0B), (0x1F676, 0x1F678)]]

/-- Formats, without joiners, numeral signs and tags. -/
def format : Ranges :=
  Control.format.difference
    [(0x600, 0x605), (0x6DD, 0x6DD), (0x890, 0x891), (0x8E2, 0x8E2), (0x200C, 0x200D),
    (0x110BD, 0x110BD), (0x110CD, 0x110CD), (0xE0020, 0xE007F)]

def numeric : Ranges :=
  Numeric.decimal.union
    [(0x600, 0x605), (0x66B, 0x66C), (0x6DD, 0x6DD), (0x890, 0x891), (0x8E2, 0x8E2),
    (0x19DA, 0x19DA), (0x110BD, 0x110BD), (0x110CD, 0x110CD)]

/-- Characters that start a new line or paragraph. -/
def separator : Ranges := [(0x85, 0x85), (0x2028, 0x2029)]

def space : Ranges :=
  Control.whiteSpace.difference (separator.union [(0xA, 0xA), (0xD, 0xD)])

def all : List Named :=
  [ ⟨["cr"], [(0xD, 0xD)]⟩,
    ⟨["lf"], [(0xA, 0xA)]⟩,
    ⟨["sep", "se"], separator⟩,
    ⟨["sp"], space⟩,
    ⟨["lower", "lo"], lower⟩,
    ⟨["upper", "up"], upper⟩,
    ⟨["oletter", "le"], otherLetter⟩,
    ⟨["numeric", "nu"], numeric⟩,
    ⟨["extend", "ex"], extend⟩,
    ⟨["format", "fo"], format⟩,
    ⟨["close", "cl"], closing⟩,
    ⟨["aterm", "at"], fullStop⟩,
    ⟨["sterm", "st"], terminal⟩,
    ⟨["scontinue", "sc"],
      [(0x2C, 0x2D), (0x3A, 0x3B), (0x37E, 0x37E), (0x55D, 0x55D), (0x60C, 0x60D), (0x7F8, 0x7F8),
      (0x1802, 0x1802), (0x1808, 0x1808), (0x2013, 0x2014), (0x3001, 0x3001), (0xFE10, 0xFE11),
      (0xFE13, 0xFE14), (0xFE31, 0xFE32), (0xFE50, 0xFE51), (0xFE54, 0xFE55), (0xFE58, 0xFE58),
      (0xFE63, 0xFE63), (0xFF0C, 0xFF0D), (0xFF1A, 0xFF1B), (0xFF64, 0xFF64)]⟩ ]

end PredicateRules.Unicode.Break.Sentence
