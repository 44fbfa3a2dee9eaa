import PredicateRules.Unicode.Script

namespace PredicateRules.Unicode

/-- Characters with the short names of all scripts that they are used in. -/
structure SharedUse where
  scripts : List String
  ranges : Ranges

namespace SharedUse

/-- Characters whose scripts are not just the one they are counted under. -/
def all : List SharedUse :=
  [ { scripts :=
        ["avst", "cari", "copt", "dupl", "elba", "geor", "glag", "gong", "goth", "grek", "hani",
        "latn", "lydi", "mahj", "perm", "shaw"]
      ranges := [(0xB7, 0xB7)] },
    { scripts := ["beng", "cyrl", "deva", "latn", "lisu", "thai", "toto"]
      ranges := [(0x2BC, 0x2BC)] },
    { scripts := ["bopo", "latn"]
      ranges := [(0x2C7, 0x2C7), (0x2C9, 0x2CB), (0x2D9, 0x2D9)] },
    { scripts := ["latn", "lisu"]
      ranges := [(0x2CD, 0x2CD)] },
    { scripts := ["latn", "thai"]
      ranges := [(0x2D7, 0x2D7)] },
    { scripts := ["cher", "copt", "cyrl", "grek", "latn", "perm", "sunu", "tale"]
      ranges := [(0x300, 0x300)] },
    { scripts := ["cher", "cyrl", "grek", "latn", "osge", "sunu", "tale", "todr"]
      ranges := [(0x301, 0x301)] },
    { scripts := ["cher", "cyrl", "latn", "tfng"]
      ranges := [(0x302, 0x302)] },
    { scripts := ["glag", "latn", "sunu", "syrc", "thai"]
      ranges := [(0x303, 0x303)] },
    { scripts :=
        ["aghb", "cher", "copt", "cyrl", "goth", "grek", "latn", "osge", "syrc", "tfng", "todr"]
      ranges := [(0x304, 0x304)] },
    { scripts := ["copt", "elba", "glag", "goth", "kana", "latn"]
      ranges := [(0x305, 0x305)] },
    { scripts := ["cyrl", "grek", "latn", "perm"]
      ranges := [(0x306, 0x306)] },
    { scripts := ["copt", "dupl", "hebr", "latn", "perm", "syrc", "tale", "tfng", "todr"]
      ranges := [(0x307, 0x307)] },
    { scripts := ["armn", "cyrl", "dupl", "goth", "grek", "hebr", "latn", "perm", "syrc", "tale"]
      ranges := [(0x308, 0x308)] },
    { scripts := ["latn", "tfng"]
      ranges := [(0x309, 0x309)] },
    { scripts := ["dupl", "latn", "syrc"]
      ranges := [(0x30A, 0x30A)] },
    { scripts := ["cher", "cyrl", "latn", "osge"]
      ranges := [(0x30B, 0x30B)] },
    { scripts := ["cher", "latn", "tale"]
      ranges := [(0x30C, 0x30C)] },
    { scripts := ["latn", "sunu"]
      ranges := [(0x30D, 0x30D), (0x310, 0x310)] },
    { scripts := ["ethi", "latn"]
      ranges := [(0x30E, 0x30E)] },
    { scripts := ["cyrl", "latn", "todr"]
      ranges := [(0x311, 0x311)] },
    { scripts := ["grek", "latn", "perm", "todr"]
      ranges := [(0x313, 0x313)] },
    { scripts := ["latn", "syrc"]
      ranges := [(0x320, 0x320), (0x325, 0x325), (0x32E, 0x32E)] },
    { scripts := ["cher", "dupl", "kana", "latn", "syrc"]
      ranges := [(0x323, 0x323)] },
    { scripts := ["cher", "dupl", "latn", "syrc"]
      ranges := [(0x324, 0x324)] },
    { scripts := ["latn", "sunu", "syrc"]
      ranges := [(0x32D, 0x32D)] },
    { scripts := ["cher", "latn", "syrc"]
      ranges := [(0x330, 0x330)] },
    { scripts := ["aghb", "cher", "goth", "latn", "sunu", "thai"]
      ranges := [(0x331, 0x331)] },
    { scripts := ["grek"]
      ranges := [(0x342, 0x342), (0x345, 0x345), (0x1DC0, 0x1DC1)] },
    { scripts := ["latn", "osge"]
      ranges := [(0x358, 0x358)] },
    { scripts := ["aghb", "latn", "todr"]
      ranges := [(0x35E, 0x35E)] },
    { scripts := ["latn"]
      ranges := [(0x363, 0x36F)] },
    { scripts := ["copt", "grek"]
      ranges := [(0x374, 0x375)] },
    { scripts := ["cyrl", "perm"]
      ranges := [(0x483, 0x483)] },
    { scripts := ["cyrl", "glag"]
      ranges := [(0x484, 0x484), (0x487, 0x487), (0x2E43, 0x2E43), (0xA66F, 0xA66F)] },
    { scripts := ["cyrl", "latn"]
      ranges := [(0x485, 0x486)] },
    { scripts := ["armn", "geor", "glag"]
      ranges := [(0x589, 0x589)] },
    { scripts := ["arab", "gara", "nkoo", "rohg", "syrc", "thaa", "yezi"]
      ranges := [(0x60C, 0x60C), (0x61B, 0x61B)] },
    { scripts := ["arab", "syrc", "thaa"]
      ranges := [(0x61C, 0x61C)] },
    { scripts := ["adlm", "arab", "gara", "nkoo", "rohg", "syrc", "thaa", "yezi"]
      ranges := [(0x61F, 0x61F)] },
    { scripts := ["adlm", "arab", "mand", "mani", "ougr", "phlp", "rohg", "sogd", "syrc"]
      ranges := [(0x640, 0x640)] },
    { scripts := ["arab", "syrc"]
      ranges := [(0x64B, 0x655), (0x670, 0x670)] },
    { scripts := ["arab", "thaa", "yezi"]
      ranges := [(0x660, 0x669)] },
    { scripts := ["arab", "rohg"]
      ranges := [(0x6D4, 0x6D4)] },
    { scripts :=
        ["beng", "deva", "gran", "gujr", "guru", "knda", "latn", "mlym", "orya", "shrd", "taml",
        "telu", "tirh"]
      ranges := [(0x951, 0x951)] },
    { scripts :=
        ["beng", "deva", "gran", "gujr", "guru", "knda", "latn", "mlym", "orya", "taml", "telu",
        "tirh"]
      ranges := [(0x952, 0x952)] },
    { scripts :=
        ["beng", "deva", "dogr", "gong", "gonm", "gran", "gujr", "guru", "knda", "mahj", "mlym",
        "nand", "onao", "orya", "sind", "sinh", "sylo", "takr", "taml", "telu", "tirh"]
      ranges := [(0x964, 0x964)] },
    { scripts :=
        ["beng", "deva", "dogr", "gong", "gonm", "gran", "gujr", "gukh", "guru", "knda", "limb",
        "mahj", "mlym", "nand", "onao", "orya", "sind", "sinh", "sylo", "takr", "taml", "telu",
        "tirh"]
      ranges := [(0x965, 0x965)] },
    { scripts := ["deva", "dogr", "kthi", "mahj"]
      ranges := [(0x966, 0x96F)] },
    { scripts := ["beng", "cakm", "sylo"]
      ranges := [(0x9E6, 0x9EF)] },
    { scripts := ["guru", "mult"]
      ranges := [(0xA66, 0xA6F)] },
    { scripts := ["gujr", "khoj"]
      ranges := [(0xAE6, 0xAEF)] },
    { scripts := ["gran", "taml"]
      ranges := [(0xBE6, 0xBF3), (0x11301, 0x11301), (0x11303, 0x11303), (0x1133B, 0x1133C),
        (0x11FD0, 0x11FD1), (0x11FD3, 0x11FD3)] },
    { scripts := ["knda", "nand", "tutg"]
      ranges := [(0xCE6, 0xCEF)] },
    { scripts := ["cakm", "mymr", "tale"]
      ranges := [(0x1040, 0x1049)] },
    { scripts := ["geor", "glag", "latn"]
      ranges := [(0x10FB, 0x10FB)] },
    { scripts := ["runr"]
      ranges := [(0x16EB, 0x16ED)] },
    { scripts := ["buhd", "hano", "tagb", "tglg"]
      ranges := [(0x1735, 0x1736)] },
    { scripts := ["mong", "phag"]
      ranges := [(0x1802, 0x1803), (0x1805, 0x1805)] },
    { scripts := ["beng", "deva", "gran", "knda"]
      ranges := [(0x1CD0, 0x1CD0), (0x1CD2, 0x1CD2)] },
    { scripts := ["deva"]
      ranges :=
        [(0x1CD1, 0x1CD1), (0x1CD4, 0x1CD4), (0x1CDB, 0x1CDB), (0x1CDE, 0x1CDF), (0x1CE2, 0x1CE8),
        (0x1CEB, 0x1CEC), (0x1CEE, 0x1CF1)] },
    { scripts := ["deva", "gran", "knda"]
      ranges := [(0x1CD3, 0x1CD3)] },
    { scripts := ["beng", "deva"]
      ranges :=
        [(0x1CD5, 0x1CD6), (0x1CD8, 0x1CD8), (0x1CE1, 0x1CE1), (0x1CEA, 0x1CEA), (0x1CED, 0x1CED),
        (0x1CF5, 0x1CF6)] },
    { scripts := ["deva", "shrd"]
      ranges := [(0x1CD7, 0x1CD7), (0x1CD9, 0x1CD9), (0x1CDC, 0x1CDD), (0x1CE0, 0x1CE0)] },
    { scripts := ["deva", "knda", "mlym", "orya", "taml", "telu"]
      ranges := [(0x1CDA, 0x1CDA)] },
    { scripts := ["deva", "nand"]
      ranges := [(0x1CE9, 0x1CE9)] },
    { scripts :=
        ["beng", "deva", "gran", "knda", "mlym", "nand", "orya", "sinh", "telu", "tirh", "tutg"]
      ranges := [(0x1CF2, 0x1CF2)] },
    { scripts := ["deva", "gran"]
      ranges := [(0x1CF3, 0x1CF3), (0x1CF8, 0x1CF9)] },
    { scripts := ["deva", "gran", "knda", "tutg"]
      ranges := [(0x1CF4, 0x1CF4)] },
    { scripts := ["beng"]
      ranges := [(0x1CF7, 0x1CF7)] },
    { scripts := ["nand"]
      ranges := [(0x1CFA, 0x1CFA)] },
    { scripts := ["cyrl", "latn", "syrc"]
      ranges := [(0x1DF8, 0x1DF8)] },
    { scripts := ["syrc"]
      ranges := [(0x1DFA, 0x1DFA)] },
    { scripts := ["latn", "mong", "phag"]
      ranges := [(0x202F, 0x202F)] },
    { scripts := ["adlm", "arab"]
      ranges := [(0x204F, 0x204F)] },
    { scripts := ["cari", "geor", "glag", "hung", "lyci", "orkh"]
      ranges := [(0x205A, 0x205A)] },
    { scripts := ["cari", "grek", "hung", "mero"]
      ranges := [(0x205D, 0x205D)] },
    { scripts := ["deva", "gran", "latn"]
      ranges := [(0x20F0, 0x20F0)] },
    { scripts := ["copt", "latn"]
      ranges := [(0x2E17, 0x2E17)] },
    { scripts := ["avst", "orkh"]
      ranges := [(0x2E30, 0x2E30)] },
    { scripts := ["avst", "cari", "geor", "hung", "kthi", "lydi", "samr"]
      ranges := [(0x2E31, 0x2E31)] },
    { scripts := ["dupl"]
      ranges := [(0x2E3C, 0x2E3C), (0x1BCA0, 0x1BCA3)] },
    { scripts := ["adlm", "arab", "hung"]
      ranges := [(0x2E41, 0x2E41)] },
    { scripts := ["hani", "tang"]
      ranges := [(0x2FF0, 0x2FFF), (0x31EF, 0x31EF)] },
    { scripts := ["bopo", "hang", "hani", "hira", "kana", "mong", "yiii"]
      ranges := [(0x3001, 0x3001)] },
    { scripts := ["bopo", "hang", "hani", "hira", "kana", "mong", "phag", "yiii"]
      ranges := [(0x3002, 0x3002)] },
    { scripts := ["bopo", "hang", "hani", "hira", "kana"]
      ranges :=
        [(0x3003, 0x3003), (0x3013, 0x3013), (0x301C, 0x301F), (0x3030, 0x3030), (0x3037, 0x3037),
        (0xFE45, 0xFE46)] },
    { scripts := ["hani"]
      ranges :=
        [(0x3006, 0x3006), (0x303E, 0x303F), (0x3190, 0x319F), (0x31C0, 0x31E5), (0x3220, 0x3247),
        (0x3280, 0x32B0), (0x32C0, 0x32CB), (0x32FF, 0x32FF), (0x3358, 0x3370), (0x337B, 0x337F),
        (0x33E0, 0x33FE), (0x1D360, 0x1D371), (0x1F250, 0x1F251)] },
    { scripts := ["bopo", "hang", "hani", "hira", "kana", "mong", "tibt", "yiii"]
      ranges := [(0x3008, 0x3009)] },
    { scripts := ["bopo", "hang", "hani", "hira", "kana", "lisu", "mong", "tibt", "yiii"]
      ranges := [(0x300A, 0x300B)] },
    { scripts := ["bopo", "hang", "hani", "hira", "kana", "yiii"]
      ranges := [(0x300C, 0x3011), (0x3014, 0x301B), (0x30FB, 0x30FB), (0xFF61, 0xFF65)] },
    { scripts := ["bopo", "hani"]
      ranges := [(0x302A, 0x302D)] },
    { scripts := ["hira", "kana"]
      ranges :=
        [(0x3031, 0x3035), (0x3099, 0x309C), (0x30A0, 0x30A0), (0x30FC, 0x30FC), (0xFF70, 0xFF70),
        (0xFF9E, 0xFF9F)] },
    { scripts := ["hani", "hira", "kana"]
      ranges := [(0x303C, 0x303D)] },
    { scripts := ["hani", "latn"]
      ranges := [(0xA700, 0xA707)] },
    { scripts :=
        ["deva", "dogr", "gujr", "guru", "khoj", "knda", "kthi", "mahj", "mlym", "modi", "nand",
        "shrd", "sind", "takr", "tirh", "tutg"]
      ranges := [(0xA830, 0xA832)] },
    { scripts :=
        ["deva", "dogr", "gujr", "guru", "khoj", "knda", "kthi", "mahj", "modi", "nand", "shrd",
        "sind", "takr", "tirh", "tutg"]
      ranges := [(0xA833, 0xA835)] },
    { scripts :=
        ["deva", "dogr", "gujr", "guru", "khoj", "kthi", "mahj", "modi", "sind", "takr", "tirh"]
      ranges := [(0xA836, 0xA837), (0xA839, 0xA839)] },
    { scripts :=
        ["deva", "dogr", "gujr", "guru", "khoj", "kthi", "mahj", "modi", "shrd", "sind", "takr",
        "tirh"]
      ranges := [(0xA838, 0xA838)] },
    { scripts := ["beng", "deva", "tutg"]
      ranges := [(0xA8F1, 0xA8F1)] },
    { scripts := ["deva", "taml"]
      ranges := [(0xA8F3, 0xA8F3)] },
    { scripts := ["kali", "latn", "mymr"]
      ranges := [(0xA92E, 0xA92E)] },
    { scripts := ["bugi", "java"]
      ranges := [(0xA9CF, 0xA9CF)] },
    { scripts := ["arab", "nkoo"]
      ranges := [(0xFD3E, 0xFD3F)] },
    { scripts := ["arab", "thaa"]
      ranges := [(0xFDF2, 0xFDF2), (0xFDFD, 0xFDFD)] },
    { scripts := ["cpmn", "cprt", "linb"]
      ranges := [(0x10100, 0x10101)] },
    { scripts := ["cprt", "linb"]
      ranges := [(0x10102, 0x10102), (0x10137, 0x1013F)] },
    { scripts := ["cprt", "lina", "linb"]
      ranges := [(0x10107, 0x10133)] },
    { scripts := ["arab", "copt"]
      ranges := [(0x102E0, 0x102FB)] },
    { scripts := ["mani", "ougr"]
      ranges := [(0x10AF2, 0x10AF2)] } ]

def characters : Ranges := .unions (all.map SharedUse.ranges)

end SharedUse

/-- The characters that are used in the script of the given name. -/
def Script.users? (name : String) : Option Ranges := do
  let script ← Script.all.find? fun script => script.names.contains name
  let shared := SharedUse.all.filter fun use => use.scripts.any script.names.contains
  some ((script.ranges.difference SharedUse.characters).union
    (.unions (shared.map SharedUse.ranges)))

end PredicateRules.Unicode
