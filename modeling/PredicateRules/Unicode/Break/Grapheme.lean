import PredicateRules.Unicode.Class
import PredicateRules.Unicode.Emoji

namespace PredicateRules.Unicode.Break.Grapheme

def extend : Ranges := Class.graphemeExtend.union Emoji.modifier

/-- Signs that stand before what they belong to. -/
def prepend : Ranges :=
  [(0x600, 0x605), (0x6DD, 0x6DD), (0x70F, 0x70F), (0x890, 0x891), (0x8E2, 0x8E2), (0xD4E, 0xD4E),
  (0x110BD, 0x110BD), (0x110CD, 0x110CD), (0x111C2, 0x111C3), (0x113D1, 0x113D1),
  (0x1193F, 0x1193F), (0x11941, 0x11941), (0x11A3A, 0x11A3A), (0x11A84, 0x11A89),
  (0x11D46, 0x11D46), (0x11F02, 0x11F02)]

def spacingMark : Ranges :=
  ((Mark.spacing.difference Class.graphemeExtend).difference
    [(0x102B, 0x102C), (0x1038, 0x1038), (0x1062, 0x1064), (0x1067, 0x106D), (0x1083, 0x1083),
    (0x1087, 0x108C), (0x108F, 0x108F), (0x109A, 0x109C), (0x1A61, 0x1A61), (0x1A63, 0x1A64),
    (0xAA7B, 0xAA7B), (0xAA7D, 0xAA7D), (0x11720, 0x11721)]).union
    [(0xE33, 0xE33), (0xEB3, 0xEB3)]

/-- The line ends and the joiner are kinds of their own, and Korean fillers are letters. -/
def control : Ranges :=
  (Ranges.unions [Control.control, Control.format, Control.lineSeparator,
    Control.paragraphSeparator, Control.defaultIgnorable]).difference
    (.unions [extend, prepend,
      [(0xA, 0xA), (0xD, 0xD), (0x115F, 0x1160), (0x200D, 0x200D), (0x3164, 0x3164),
      (0xFFA0, 0xFFA0)]])

def syllables : Ranges := [(0xAC00, 0xD7A3)]

/-- Korean syllables without a consonant at the end. -/
def openSyllable : Ranges :=
  .ofCodes ((List.range 399).map fun index => 0xAC00 + 28 * index)

def all : List Named :=
  [ ⟨["cr"], [(0xD, 0xD)]⟩,
    ⟨["lf"], [(0xA, 0xA)]⟩,
    ⟨["control", "cn"], control⟩,
    ⟨["extend", "ex"], extend⟩,
    ⟨["prepend", "pp"], prepend⟩,
    ⟨["spacingmark", "sm"], spacingMark⟩,
    ⟨["regionalindicator", "ri"], Emoji.regionalIndicator⟩,
    ⟨["zwj"], [(0x200D, 0x200D)]⟩,
    ⟨["l"], [(0x1100, 0x115F), (0xA960, 0xA97C)]⟩,
    ⟨["v"], [(0x1160, 0x11A7), (0xD7B0, 0xD7C6), (0x16D63, 0x16D63), (0x16D67, 0x16D6A)]⟩,
    ⟨["t"], [(0x11A8, 0x11FF), (0xD7CB, 0xD7FB)]⟩,
    ⟨["lv"], openSyllable⟩,
    ⟨["lvt"], syllables.difference openSyllable⟩ ]

end PredicateRules.Unicode.Break.Grapheme
