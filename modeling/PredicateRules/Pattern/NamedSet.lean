import PredicateRules.Pattern.CharacterSet
import PredicateRules.Unicode.Age
import PredicateRules.Unicode.Break.Sentence
import PredicateRules.Unicode.Break.Word
import PredicateRules.Unicode.Property
import PredicateRules.Unicode.SharedUse

namespace PredicateRules.CharacterSet

def asciiDigit : CharacterSet := range 0x30 0x39

def asciiAlphabetic : CharacterSet := [(0x41, 0x5A), (0x61, 0x7A)]

def asciiAlphanumeric : CharacterSet := asciiDigit.union asciiAlphabetic

def asciiWord : CharacterSet := asciiAlphanumeric.union (single 0x5F)

def asciiSpace : CharacterSet := [(0x9, 0xD), (0x20, 0x20)]

/-- The classes that are written as `[:name:]`. -/
def bracketClass? (name : String) : Option CharacterSet :=
  match name with
  | "alnum" => some asciiAlphanumeric
  | "alpha" => some asciiAlphabetic
  | "ascii" => some (range 0 0x7F)
  | "blank" => some [(0x9, 0x9), (0x20, 0x20)]
  | "cntrl" => some [(0, 0x1F), (0x7F, 0x7F)]
  | "digit" => some asciiDigit
  | "graph" => some (range 0x21 0x7E)
  | "lower" => some (range 0x61 0x7A)
  | "print" => some (range 0x20 0x7E)
  | "punct" => some [(0x21, 0x2F), (0x3A, 0x40), (0x5B, 0x60), (0x7B, 0x7E)]
  | "space" => some asciiSpace
  | "upper" => some (range 0x41 0x5A)
  | "word" => some asciiWord
  | "xdigit" => some [(0x30, 0x39), (0x41, 0x46), (0x61, 0x66)]
  | _ => none

open Unicode in
def categories : List Named :=
  [ ⟨["any"], [(0, 0x10FFFF)]⟩,
    ⟨["ascii"], [(0, 0x7F)]⟩,
    ⟨["assigned"], Class.assigned⟩,
    ⟨["letter", "l"], Class.letter⟩,
    ⟨["casedletter", "lc"], Class.casedLetter⟩,
    ⟨["uppercaseletter", "lu"], Class.uppercaseLetter⟩,
    ⟨["lowercaseletter", "ll"], Class.lowercaseLetter⟩,
    ⟨["titlecaseletter", "lt"], Letter.titlecase⟩,
    ⟨["modifierletter", "lm"], Letter.modifier⟩,
    ⟨["otherletter", "lo"], Letter.other⟩,
    ⟨["mark", "m", "combiningmark"], Class.mark⟩,
    ⟨["nonspacingmark", "mn"], Mark.nonspacing⟩,
    ⟨["spacingmark", "mc"], Mark.spacing⟩,
    ⟨["enclosingmark", "me"], Mark.enclosing⟩,
    ⟨["number", "n"], Class.number⟩,
    ⟨["decimalnumber", "nd", "digit"], Numeric.decimal⟩,
    ⟨["letternumber", "nl"], Numeric.letter⟩,
    ⟨["othernumber", "no"], Numeric.other⟩,
    ⟨["punctuation", "p", "punct"], Class.punctuation⟩,
    ⟨["connectorpunctuation", "pc"], Punctuation.connector⟩,
    ⟨["dashpunctuation", "pd"], Punctuation.dash⟩,
    ⟨["openpunctuation", "ps"], Punctuation.opening⟩,
    ⟨["closepunctuation", "pe"], Punctuation.closing⟩,
    ⟨["initialpunctuation", "pi"], Punctuation.initialQuote⟩,
    ⟨["finalpunctuation", "pf"], Punctuation.finalQuote⟩,
    ⟨["otherpunctuation", "po"], Punctuation.other⟩,
    ⟨["symbol", "s"], Class.symbol⟩,
    ⟨["mathsymbol", "sm"], Symbol.math⟩,
    ⟨["currencysymbol", "sc"], Symbol.currency⟩,
    ⟨["modifiersymbol", "sk"], Symbol.modifier⟩,
    ⟨["othersymbol", "so"], Symbol.other⟩,
    ⟨["separator", "z"], Class.separator⟩,
    ⟨["spaceseparator", "zs"], Control.spaceSeparator⟩,
    ⟨["lineseparator", "zl"], Control.lineSeparator⟩,
    ⟨["paragraphseparator", "zp"], Control.paragraphSeparator⟩,
    ⟨["other", "c"], Class.other⟩,
    ⟨["control", "cc", "cntrl"], Control.control⟩,
    ⟨["format", "cf"], Control.format⟩,
    ⟨["privateuse", "co"], Control.privateUse⟩,
    ⟨["unassigned", "cn"], Class.unassigned⟩ ]

def category? : String → Option CharacterSet := Unicode.Named.find? categories

def script? : String → Option CharacterSet := Unicode.Named.find? Unicode.Script.all

def plainName (name : List Char) : String :=
  let lower := name.map Char.toLower
  let stem := match lower with
    | 'i' :: 's' :: rest => rest
    | other => other
  let plain := stem.filter fun character =>
    character != ' ' && character != '_' && character != '-' && character.toNat < 0x80
  if plain = ['c'] && lower.take 2 = ['i', 's'] then "isc" else String.ofList plain

def named? (name : List Char) : Option CharacterSet :=
  let plain := plainName name
  Unicode.Named.find? Unicode.Property.all plain <|> category? plain <|> script? plain

def withValue? (property value : List Char) : Option CharacterSet :=
  let value := plainName value
  match plainName property with
  | "generalcategory" | "gc" => category? value
  | "script" | "sc" => script? value
  | "scriptextensions" | "scx" => Unicode.Script.users? value
  | "age" => Unicode.Age.find? value
  | "graphemeclusterbreak" | "gcb" => Unicode.Named.find? Unicode.Break.Grapheme.all value
  | "wordbreak" | "wb" => Unicode.Named.find? Unicode.Break.Word.all value
  | "sentencebreak" | "sb" => Unicode.Named.find? Unicode.Break.Sentence.all value
  | _ => none

end PredicateRules.CharacterSet
