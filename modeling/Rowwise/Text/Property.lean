import Rowwise.Text.CharRule
import Rowwise.Text.PropertyTable

/-!
# Properties that characters have or have not

`properties` lists the properties with their names, which are spelled in small letters without
separators.
-/

namespace Rowwise.Text

/-- A property of characters: its names and the rule for it. -/
structure Property where
  names : List String
  rule : CharRule

namespace Property

/-! ## Letters -/

def alphabetic : CharRule :=
  .categories (.letterNumber :: Category.letters) ∪ .codes otherAlphabetic

def lowercase : CharRule := .categories [.lowerLetter] ∪ .codes otherLowercase

def uppercase : CharRule := .categories [.upperLetter] ∪ .codes otherUppercase

def cased : CharRule := lowercase ∪ uppercase ∪ .categories [.titleLetter]

/-- Marks inside of words that the rule for a final sigma passes over. -/
def innerMarks : List CodeRange :=
  [ (0x27, 0x27), (0x2E, 0x2E), (0x3A, 0x3A), (0xB7, 0xB7), (0x387, 0x387), (0x55F, 0x55F),
    (0x5F4, 0x5F4), (0x2018, 0x2019), (0x2024, 0x2024), (0x2027, 0x2027), (0xFE13, 0xFE13),
    (0xFE52, 0xFE52), (0xFE55, 0xFE55), (0xFF07, 0xFF07), (0xFF0E, 0xFF0E), (0xFF1A, 0xFF1A) ]

/-- The categories that the rule for a final sigma passes over. -/
def innerCategories : List Category :=
  [.nonspacingMark, .enclosingMark, .format, .modifierLetter, .modifierSymbol]

def caseIgnorable : CharRule := .categories innerCategories ∪ .codes innerMarks

/-! ## Characters that change with case -/

def changesWhenLowercased : CharRule := .changedBy longLower lowerRuns

def changesWhenUppercased : CharRule := .changedBy longUpper upperRuns

/-- Georgian letters are small ones that have capitals, but no title case. -/
def changesWhenTitlecased : CharRule :=
  (changesWhenUppercased - .categories [.titleLetter] -
      .codes [(0x10D0, 0x10FA), (0x10FD, 0x10FF)]) ∪
    .codes [(0x1C4, 0x1C4), (0x1C7, 0x1C7), (0x1CA, 0x1CA), (0x1F1, 0x1F1)]

/-- Cherokee letters fold to their capitals. -/
def changesWhenCasefolded : CharRule :=
  (changesWhenLowercased - .codes [(0x13A0, 0x13F5)]) ∪ .codes foldedOtherwise

def changesWhenCasemapped : CharRule :=
  changesWhenLowercased ∪ changesWhenUppercased ∪ changesWhenTitlecased

/-! ## Identifiers -/

def patternWhiteSpace : CharRule :=
  .codes [(0x9, 0xD), (0x20, 0x20), (0x85, 0x85), (0x200E, 0x200F), (0x2028, 0x2029)]

/-- Characters that keep their meaning in patterns. -/
def patternReserved : CharRule := .codes patternSyntax ∪ patternWhiteSpace

def otherIdStart : CharRule :=
  .codes [(0x1885, 0x1886), (0x2118, 0x2118), (0x212E, 0x212E), (0x309B, 0x309C)]

def otherIdContinue : CharRule :=
  .codes [(0xB7, 0xB7), (0x387, 0x387), (0x1369, 0x1371), (0x19DA, 0x19DA), (0x200C, 0x200D),
    (0x30FB, 0x30FB), (0xFF65, 0xFF65)]

def idStart : CharRule :=
  (.categories (.letterNumber :: Category.letters) ∪ otherIdStart) - patternReserved

def idContinue : CharRule :=
  (idStart ∪ otherIdContinue ∪
      .categories [.nonspacingMark, .spacingMark, .decimalNumber, .connectorPunctuation]) -
    patternReserved

/-- Characters with compatibility forms that are no identifiers. -/
def unstableIds : CharRule :=
  .codes [(0x37A, 0x37A), (0x309B, 0x309C), (0xFC5E, 0xFC63), (0xFDFA, 0xFDFB)] ∪
    .runs [⟨0xFE70, 0xFE7E, 2⟩]

/-- Characters with compatibility forms that do not begin an identifier. -/
def unstableIdStarts : CharRule :=
  .codes [(0xE33, 0xE33), (0xEB3, 0xEB3), (0xFF9E, 0xFF9F)]

def mathStart : CharRule :=
  .codes [(0x2202, 0x2202), (0x2207, 0x2207), (0x221E, 0x221E), (0x1D6C1, 0x1D6C1),
    (0x1D6DB, 0x1D6DB), (0x1D6FB, 0x1D6FB), (0x1D715, 0x1D715), (0x1D735, 0x1D735),
    (0x1D74F, 0x1D74F), (0x1D76F, 0x1D76F), (0x1D789, 0x1D789), (0x1D7A9, 0x1D7A9),
    (0x1D7C3, 0x1D7C3)]

def mathContinue : CharRule :=
  mathStart ∪ .codes [(0xB2, 0xB3), (0xB9, 0xB9), (0x2070, 0x2070), (0x2074, 0x207E),
    (0x2080, 0x208E)]

/-! ## Marks and invisible characters -/

def whiteSpace : CharRule :=
  .codes [(0x9, 0xD), (0x20, 0x20), (0x85, 0x85), (0xA0, 0xA0), (0x1680, 0x1680),
    (0x2000, 0x200A), (0x2028, 0x2029), (0x202F, 0x202F), (0x205F, 0x205F), (0x3000, 0x3000)]

def joinControl : CharRule := .codes [(0x200C, 0x200D)]

/-- Signs that stand in front of the numbers below or above them. -/
def prependedMark : CharRule :=
  .codes [(0x600, 0x605), (0x6DD, 0x6DD), (0x70F, 0x70F), (0x890, 0x891), (0x8E2, 0x8E2),
    (0x110BD, 0x110BD), (0x110CD, 0x110CD)]

def variationSelector : CharRule :=
  .codes [(0x180B, 0x180D), (0x180F, 0x180F), (0xFE00, 0xFE0F), (0xE0100, 0xE01EF)]

def defaultIgnorable : CharRule :=
  (.codes otherDefaultIgnorable ∪ .categories [.format] ∪ variationSelector) -
    (whiteSpace ∪ prependedMark ∪ .codes [(0xFFF9, 0xFFFB), (0x13430, 0x13440)])

def graphemeExtend : CharRule :=
  .categories [.nonspacingMark, .enclosingMark] ∪ .codes otherGraphemeExtend

def graphemeBase : CharRule :=
  .codes [(0, lastCode)] -
    (.categories [.control, .format, .privateUse, .unassigned, .lineSeparator,
        .paragraphSeparator] ∪ .codes [(0xD800, 0xDFFF)] ∪ graphemeExtend)

/-- The last two code points of every plane and a block of thirty-two. -/
def noncharacter : CharRule :=
  .codes ((0xFDD0, 0xFDEF) ::
    (List.range 17).map fun plane => (0x10000 * plane + 0xFFFE, 0x10000 * plane + 0xFFFF))

/-! ## Digits and emoji -/

def asciiHexDigit : CharRule := .codes [(0x30, 0x39), (0x41, 0x46), (0x61, 0x66)]

def regionalIndicator : CharRule := .codes [(0x1F1E6, 0x1F1FF)]

def emojiModifier : CharRule := .codes [(0x1F3FB, 0x1F3FF)]

def emojiComponent : CharRule :=
  .codes [(0x23, 0x23), (0x2A, 0x2A), (0x30, 0x39), (0x200D, 0x200D), (0x20E3, 0x20E3),
    (0xFE0F, 0xFE0F), (0x1F1E6, 0x1F1FF), (0x1F3FB, 0x1F3FF), (0x1F9B0, 0x1F9B3),
    (0xE0020, 0xE007F)]

/-! ## The lists -/

/-- Properties of letters and their case. -/
def ofLetters : List Property :=
  [ ⟨["alpha", "alphabetic"], alphabetic⟩, ⟨["lower", "lowercase"], lowercase⟩,
    ⟨["upper", "uppercase"], uppercase⟩, ⟨["cased"], cased⟩,
    ⟨["ci", "caseignorable"], caseIgnorable⟩,
    ⟨["cwl", "changeswhenlowercased"], changesWhenLowercased⟩,
    ⟨["cwu", "changeswhenuppercased"], changesWhenUppercased⟩,
    ⟨["cwt", "changeswhentitlecased"], changesWhenTitlecased⟩,
    ⟨["cwcf", "changeswhencasefolded"], changesWhenCasefolded⟩,
    ⟨["cwcm", "changeswhencasemapped"], changesWhenCasemapped⟩,
    ⟨["sd", "softdotted"], .codes softDotted⟩,
    ⟨["oalpha", "otheralphabetic"], .codes otherAlphabetic⟩,
    ⟨["olower", "otherlowercase"], .codes otherLowercase⟩,
    ⟨["oupper", "otheruppercase"], .codes otherUppercase⟩ ]

/-- Properties of the characters of identifiers. -/
def ofIdentifiers : List Property :=
  [ ⟨["ids", "idstart"], idStart⟩, ⟨["idc", "idcontinue"], idContinue⟩,
    ⟨["xids", "xidstart"], idStart - (unstableIds ∪ unstableIdStarts)⟩,
    ⟨["xidc", "xidcontinue"], idContinue - unstableIds⟩,
    ⟨["oids", "otheridstart"], otherIdStart⟩, ⟨["oidc", "otheridcontinue"], otherIdContinue⟩,
    ⟨["patsyn", "patternsyntax"], .codes patternSyntax⟩,
    ⟨["patws", "patternwhitespace"], patternWhiteSpace⟩,
    ⟨["idcompatmathstart"], mathStart⟩, ⟨["idcompatmathcontinue"], mathContinue⟩ ]

/-- Properties of marks, separators and characters without a shape. -/
def ofMarks : List Property :=
  [ ⟨["wspace", "whitespace", "space"], whiteSpace⟩,
    ⟨["grbase", "graphemebase"], graphemeBase⟩, ⟨["grext", "graphemeextend"], graphemeExtend⟩,
    ⟨["grlink", "graphemelink"], .codes graphemeLinks⟩,
    ⟨["ogrext", "othergraphemeextend"], .codes otherGraphemeExtend⟩,
    ⟨["di", "defaultignorablecodepoint"], defaultIgnorable⟩,
    ⟨["odi", "otherdefaultignorablecodepoint"], .codes otherDefaultIgnorable⟩,
    ⟨["dep", "deprecated"], .codes deprecated⟩, ⟨["dia", "diacritic"], .codes diacritics⟩,
    ⟨["ext", "extender"], .codes extenders⟩,
    ⟨["mcm", "modifiercombiningmark"],
      .codes [(0x654, 0x655), (0x658, 0x658), (0x6DC, 0x6DC), (0x6E3, 0x6E3), (0x6E7, 0x6E8),
        (0x8CA, 0x8CB), (0x8CD, 0x8CF), (0x8D3, 0x8D3), (0x8F3, 0x8F3)]⟩,
    ⟨["pcm", "prependedconcatenationmark"], prependedMark⟩,
    ⟨["vs", "variationselector"], variationSelector⟩, ⟨["joinc", "joincontrol"], joinControl⟩,
    ⟨["bidic", "bidicontrol"],
      .codes [(0x61C, 0x61C), (0x200E, 0x200F), (0x202A, 0x202E), (0x2066, 0x2069)]⟩,
    ⟨["nchar", "noncharactercodepoint"], noncharacter⟩,
    ⟨["loe", "logicalorderexception"],
      .codes [(0xE40, 0xE44), (0xEC0, 0xEC4), (0x19B5, 0x19B7), (0x19BA, 0x19BA),
        (0xAAB5, 0xAAB6), (0xAAB9, 0xAAB9), (0xAABB, 0xAABC)]⟩ ]

/-- Properties of punctuation and of characters in formulas. -/
def ofSymbols : List Property :=
  [ ⟨["dash"], .codes dashes⟩, ⟨["hyphen"], .codes hyphens⟩,
    ⟨["qmark", "quotationmark"], .codes quotationMarks⟩,
    ⟨["sterm", "sentenceterminal"], .codes sentenceTerminals⟩,
    ⟨["term", "terminalpunctuation"], .codes terminalPunctuation⟩,
    ⟨["math"], .categories [.mathSymbol] ∪ .codes otherMath⟩,
    ⟨["omath", "othermath"], .codes otherMath⟩, ⟨["ahex", "asciihexdigit"], asciiHexDigit⟩,
    ⟨["hex", "hexdigit"],
      asciiHexDigit ∪ .codes [(0xFF10, 0xFF19), (0xFF21, 0xFF26), (0xFF41, 0xFF46)]⟩ ]

/-- Properties of ideographs and emoji. -/
def ofPictures : List Property :=
  [ ⟨["ideo", "ideographic"], .codes ideographs⟩,
    ⟨["uideo", "unifiedideograph"], .codes unifiedIdeographs⟩,
    ⟨["radical"], .codes [(0x2E80, 0x2E99), (0x2E9B, 0x2EF3), (0x2F00, 0x2FD5)]⟩,
    ⟨["idsb", "idsbinaryoperator"],
      .codes [(0x2FF0, 0x2FF1), (0x2FF4, 0x2FFD), (0x31EF, 0x31EF)]⟩,
    ⟨["idst", "idstrinaryoperator"], .codes [(0x2FF2, 0x2FF3)]⟩,
    ⟨["idsu", "idsunaryoperator"], .codes [(0x2FFE, 0x2FFF)]⟩,
    ⟨["ri", "regionalindicator"], regionalIndicator⟩, ⟨["emoji"], .codes emoji⟩,
    ⟨["epres", "emojipresentation"], .codes emojiPresentation⟩,
    ⟨["emod", "emojimodifier"], emojiModifier⟩,
    ⟨["ebase", "emojimodifierbase"], .codes emojiModifierBases⟩,
    ⟨["ecomp", "emojicomponent"], emojiComponent⟩,
    ⟨["extpict", "extendedpictographic"], .codes extendedPictographs⟩ ]

end Property

/-- The properties that characters have or have not. -/
def properties : List Property :=
  Property.ofLetters ++ Property.ofIdentifiers ++ Property.ofMarks ++ Property.ofSymbols ++
    Property.ofPictures

/-- The rule of a property, by its name. -/
def propertyRule? (name : String) : Option CharRule :=
  (properties.find? (·.names.contains name)).map (·.rule)

end Rowwise.Text
