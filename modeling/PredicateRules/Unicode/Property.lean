import PredicateRules.Unicode.Casing
import PredicateRules.Unicode.Emoji
import PredicateRules.Unicode.Writing
import PredicateRules.Unicode.Class

namespace PredicateRules.Unicode.Property

def all : List Named :=
  [ ⟨["alphabetic", "alpha"], Class.alphabetic⟩,
    ⟨["asciihexdigit", "ahex"], Sign.asciiHexDigit⟩,
    ⟨["bidicontrol", "bidic"], Control.bidirectional⟩,
    ⟨["bidimirrored", "bidim"], Sign.bidirectionalMirrored⟩,
    ⟨["caseignorable", "ci"], Class.caseIgnorable⟩,
    ⟨["cased"], Class.cased⟩,
    ⟨["changeswhencasefolded", "cwcf"], Casing.changesWhenFolded⟩,
    ⟨["changeswhencasemapped", "cwcm"], Casing.changes⟩,
    ⟨["changeswhenlowercased", "cwl"], Casing.changesToLower⟩,
    ⟨["changeswhentitlecased", "cwt"], Casing.changesToTitle⟩,
    ⟨["changeswhenuppercased", "cwu"], Casing.changesToUpper⟩,
    ⟨["dash"], Sign.dash⟩,
    ⟨["defaultignorablecodepoint", "di"], Control.defaultIgnorable⟩,
    ⟨["deprecated", "dep"], Control.deprecated⟩,
    ⟨["diacritic", "dia"], Writing.diacritic⟩,
    ⟨["emoji"], Emoji.all⟩,
    ⟨["emojicomponent", "ecomp"], Emoji.component⟩,
    ⟨["emojimodifier", "emod"], Emoji.modifier⟩,
    ⟨["emojimodifierbase", "ebase"], Emoji.modifierBase⟩,
    ⟨["emojipresentation", "epres"], Emoji.presentation⟩,
    ⟨["extendedpictographic", "extpict"], Emoji.pictographic⟩,
    ⟨["extender", "ext"], Writing.extender⟩,
    ⟨["graphemebase", "grbase"], Class.graphemeBase⟩,
    ⟨["graphemeextend", "grext"], Class.graphemeExtend⟩,
    ⟨["graphemelink", "grlink"], Writing.graphemeLink⟩,
    ⟨["hexdigit", "hex"], Sign.hexDigit⟩,
    ⟨["hyphen"], Sign.hyphen⟩,
    ⟨["idsbinaryoperator", "idsb"], Writing.binaryDescription⟩,
    ⟨["idstrinaryoperator", "idst"], Writing.ternaryDescription⟩,
    ⟨["idsunaryoperator", "idsu"], Writing.unaryDescription⟩,
    ⟨["idcompatmathcontinue"], Sign.mathIdentifierContinue⟩,
    ⟨["idcompatmathstart"], Sign.mathIdentifierStart⟩,
    ⟨["idcontinue", "idc"], Class.identifierContinue⟩,
    ⟨["idstart", "ids"], Class.identifierStart⟩,
    ⟨["ideographic", "ideo"], Writing.ideographic⟩,
    ⟨["joincontrol", "joinc"], Control.joinControl⟩,
    ⟨["logicalorderexception", "loe"], Writing.logicalOrderException⟩,
    ⟨["lowercase", "lower"], Class.lowercase⟩,
    ⟨["math"], Class.math⟩,
    ⟨["modifiercombiningmark", "mcm"], Writing.modifierCombiningMark⟩,
    ⟨["noncharactercodepoint", "nchar"], Control.noncharacter⟩,
    ⟨["otheralphabetic", "oalpha"], Contributory.alphabetic⟩,
    ⟨["otherdefaultignorablecodepoint", "odi"], Contributory.defaultIgnorable⟩,
    ⟨["othergraphemeextend", "ogrext"], Contributory.graphemeExtend⟩,
    ⟨["otheridcontinue", "oidc"], Contributory.identifierContinue⟩,
    ⟨["otheridstart", "oids"], Contributory.identifierStart⟩,
    ⟨["otherlowercase", "olower"], Contributory.lowercase⟩,
    ⟨["othermath", "omath"], Contributory.math⟩,
    ⟨["otheruppercase", "oupper"], Contributory.uppercase⟩,
    ⟨["patternsyntax", "patsyn"], Sign.patternSyntax⟩,
    ⟨["patternwhitespace", "patws"], Sign.patternWhiteSpace⟩,
    ⟨["prependedconcatenationmark", "pcm"], Control.prependedConcatenationMark⟩,
    ⟨["quotationmark", "qmark"], Sign.quotationMark⟩,
    ⟨["radical"], Writing.radical⟩,
    ⟨["regionalindicator", "ri"], Emoji.regionalIndicator⟩,
    ⟨["sentenceterminal", "sterm"], Sign.sentenceTerminal⟩,
    ⟨["softdotted", "sd"], Writing.softDotted⟩,
    ⟨["terminalpunctuation", "term"], Sign.terminalPunctuation⟩,
    ⟨["unifiedideograph", "uideo"], Writing.unifiedIdeograph⟩,
    ⟨["uppercase", "upper"], Class.uppercase⟩,
    ⟨["variationselector", "vs"], Control.variationSelector⟩,
    ⟨["whitespace", "wspace", "space"], Control.whiteSpace⟩,
    ⟨["xidcontinue", "xidc"], Class.stableIdentifierContinue⟩,
    ⟨["xidstart", "xids"], Class.stableIdentifierStart⟩ ]

end PredicateRules.Unicode.Property
