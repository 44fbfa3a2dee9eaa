import PredicateRules.Unicode.Break.Grapheme
import PredicateRules.Unicode.Script
import PredicateRules.Unicode.Writing

namespace PredicateRules.Unicode.Break.Word

def extend : Ranges := .unions [Class.graphemeExtend, Mark.spacing, Emoji.modifier]

def format : Ranges :=
  Control.format.difference
    [(0x600, 0x605), (0x6DD, 0x6DD), (0x70F, 0x70F), (0x890, 0x891), (0x8E2, 0x8E2),
    (0x200B, 0x200D), (0x110BD, 0x110BD), (0x110CD, 0x110CD), (0xE0020, 0xE007F)]

/-- Digits and the signs that go with numerals. -/
def numeric : Ranges :=
  Numeric.decimal.union
    [(0x600, 0x605), (0x66B, 0x66B), (0x6DD, 0x6DD), (0x890, 0x891), (0x8E2, 0x8E2),
    (0x19DA, 0x19DA), (0x110BD, 0x110BD), (0x110CD, 0x110CD)]

def hebrewLetter : Ranges :=
  Class.letter.intersection ((Named.find? Script.all "hebr").getD [])

def katakana : Ranges :=
  ((Named.find? Script.all "kana").getD []).union
    [(0x3031, 0x3035), (0x309B, 0x309C), (0x30A0, 0x30A0), (0x30FC, 0x30FC), (0xFF70, 0xFF70)]

/-- Letters of scripts whose words are found by a dictionary. -/
def unspacedLetter : Ranges :=
  [(0xE01, 0xE30), (0xE32, 0xE33), (0xE40, 0xE46), (0xE81, 0xE82), (0xE84, 0xE84), (0xE86, 0xE8A),
  (0xE8C, 0xEA3), (0xEA5, 0xEA5), (0xEA7, 0xEB0), (0xEB2, 0xEB3), (0xEBD, 0xEBD), (0xEC0, 0xEC4),
  (0xEC6, 0xEC6), (0xEDC, 0xEDF), (0x1000, 0x102A), (0x103F, 0x103F), (0x1050, 0x1055),
  (0x105A, 0x105D), (0x1061, 0x1061), (0x1065, 0x1066), (0x106E, 0x1070), (0x1075, 0x1081),
  (0x108E, 0x108E), (0x1780, 0x17B3), (0x17D7, 0x17D7), (0x17DC, 0x17DC), (0x1950, 0x196D),
  (0x1970, 0x1974), (0x1980, 0x19AB), (0x19B0, 0x19C9), (0x1A20, 0x1A54), (0x1AA7, 0x1AA7),
  (0xA9E0, 0xA9E4), (0xA9E6, 0xA9EF), (0xA9FA, 0xA9FE), (0xAA60, 0xAA76), (0xAA7A, 0xAA7A),
  (0xAA7E, 0xAAAF), (0xAAB1, 0xAAB1), (0xAAB5, 0xAAB6), (0xAAB9, 0xAABD), (0xAAC0, 0xAAC0),
  (0xAAC2, 0xAAC2), (0xAADB, 0xAADD), (0x11700, 0x1171A), (0x11740, 0x11746)]

/-- Letters, and signs that are used as letters, of scripts that write words apart. -/
def letter : Ranges :=
  (Class.alphabetic.difference
    (.unions [Writing.ideographic, katakana, (Named.find? Script.all "hira").getD [], extend,
      hebrewLetter, unspacedLetter])).union
    [(0x2C2, 0x2C5), (0x2D2, 0x2D7), (0x2DE, 0x2DF), (0x2E5, 0x2EB), (0x2ED, 0x2ED), (0x2EF, 0x2FF),
    (0x55A, 0x55C), (0x55E, 0x55E), (0x58A, 0x58A), (0x5F3, 0x5F3), (0x70F, 0x70F),
    (0xA708, 0xA716), (0xA720, 0xA721), (0xA789, 0xA78A), (0xAB5B, 0xAB5B)]

def all : List Named :=
  [ ⟨["cr"], [(0xD, 0xD)]⟩,
    ⟨["lf"], [(0xA, 0xA)]⟩,
    ⟨["newline", "nl"], [(0xB, 0xC), (0x85, 0x85), (0x2028, 0x2029)]⟩,
    ⟨["aletter", "le"], letter⟩,
    ⟨["hebrewletter", "hl"], hebrewLetter⟩,
    ⟨["katakana", "ka"], katakana⟩,
    ⟨["extend"], extend⟩,
    ⟨["extendnumlet", "ex"], Punctuation.connector.union [(0x202F, 0x202F)]⟩,
    ⟨["format", "fo"], format⟩,
    ⟨["numeric", "nu"], numeric⟩,
    ⟨["midletter", "ml"],
      [(0x3A, 0x3A), (0xB7, 0xB7), (0x387, 0x387), (0x55F, 0x55F), (0x5F4, 0x5F4), (0x2027, 0x2027),
      (0xFE13, 0xFE13), (0xFE55, 0xFE55), (0xFF1A, 0xFF1A)]⟩,
    ⟨["midnum", "mn"],
      [(0x2C, 0x2C), (0x3B, 0x3B), (0x37E, 0x37E), (0x589, 0x589), (0x60C, 0x60D), (0x66C, 0x66C),
      (0x7F8, 0x7F8), (0x2044, 0x2044), (0xFE50, 0xFE50), (0xFE54, 0xFE54), (0xFF0C, 0xFF0C),
      (0xFF1B, 0xFF1B)]⟩,
    ⟨["midnumlet", "mb"],
      [(0x2E, 0x2E), (0x2018, 0x2019), (0x2024, 0x2024), (0xFE52, 0xFE52), (0xFF07, 0xFF07),
      (0xFF0E, 0xFF0E)]⟩,
    ⟨["singlequote", "sq"], [(0x27, 0x27)]⟩,
    ⟨["doublequote", "dq"], [(0x22, 0x22)]⟩,
    ⟨["regionalindicator", "ri"], Emoji.regionalIndicator⟩,
    ⟨["wsegspace"],
      [(0x20, 0x20), (0x1680, 0x1680), (0x2000, 0x2006), (0x2008, 0x200A), (0x205F, 0x205F),
      (0x3000, 0x3000)]⟩,
    ⟨["zwj"], [(0x200D, 0x200D)]⟩ ]

end PredicateRules.Unicode.Break.Word
