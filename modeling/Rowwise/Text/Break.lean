import Rowwise.Text.Property

/-!
# Classes of characters for text boundaries

Where a text may be broken into characters, words and sentences is decided by the classes of the
characters on both sides.  The classes that hold all other characters are not listed.
-/

namespace Rowwise.Text

namespace Boundary

/-! ## Classes that several boundaries share -/

def carriageReturn : Property := ⟨["cr"], .codes [(0xD, 0xD)]⟩

def lineFeed : Property := ⟨["lf"], .codes [(0xA, 0xA)]⟩

def zeroWidthJoiner : CharRule := .codes [(0x200D, 0x200D)]

def joiner : Property := ⟨["zwj"], zeroWidthJoiner⟩

def regional : Property := ⟨["ri", "regionalindicator"], Property.regionalIndicator⟩

/-- The signs in front of numbers that are read as digits. -/
def numericSigns : CharRule := Property.prependedMark - .codes [(0x70F, 0x70F)]

def digits : CharRule := .categories [.decimalNumber] ∪ .codes [(0x66B, 0x66B)] ∪ numericSigns

/-! ## Characters -/

/-- Letters that stand in front of a syllable. -/
def leadingLetters : CharRule :=
  .codes [(0xD4E, 0xD4E), (0x111C2, 0x111C3), (0x113D1, 0x113D1), (0x1193F, 0x1193F),
    (0x11941, 0x11941), (0x11A3A, 0x11A3A), (0x11A84, 0x11A89), (0x11D46, 0x11D46),
    (0x11F02, 0x11F02)]

/-- Spacing marks that are not part of the character before them. -/
def separateMarks : CharRule :=
  .codes [(0x102B, 0x102C), (0x1038, 0x1038), (0x1062, 0x1064), (0x1067, 0x106D),
    (0x1083, 0x1083), (0x1087, 0x108C), (0x108F, 0x108F), (0x109A, 0x109C), (0x1A61, 0x1A61),
    (0x1A63, 0x1A64), (0xAA7B, 0xAA7B), (0xAA7D, 0xAA7D), (0x11720, 0x11721)]

/-- Controls, and unassigned code points that are to be ignored. -/
def controls : CharRule :=
  (.categories [.lineSeparator, .paragraphSeparator, .control, .format] ∪
      (.categories [.unassigned] ∩ Property.defaultIgnorable)) -
    (.codes [(0xA, 0xA), (0xD, 0xD), (0x200C, 0x200D)] ∪ Property.prependedMark ∪
      Property.graphemeExtend)

def extending : CharRule :=
  (Property.graphemeExtend ∪ Property.emojiModifier) - zeroWidthJoiner

/-- Korean syllables without a final consonant: one in twenty-eight. -/
def openSyllables : CharRule := .runs [⟨0xAC00, 0xD788, 28⟩]

end Boundary

/-- The classes for boundaries of characters. -/
def graphemeBreaks : List Property :=
  open Boundary in
  [ carriageReturn, lineFeed, joiner, regional, ⟨["cn", "control"], controls⟩,
    ⟨["ex", "extend"], extending⟩,
    ⟨["pp", "prepend"], Property.prependedMark ∪ leadingLetters⟩,
    ⟨["sm", "spacingmark"],
      (.categories [.spacingMark] ∪ .codes [(0xE33, 0xE33), (0xEB3, 0xEB3)]) - separateMarks -
        Property.graphemeExtend⟩,
    ⟨["l"], .codes [(0x1100, 0x115F), (0xA960, 0xA97C)]⟩,
    ⟨["v"], .codes [(0x1160, 0x11A7), (0xD7B0, 0xD7C6), (0x16D63, 0x16D63),
      (0x16D67, 0x16D6A)]⟩,
    ⟨["t"], .codes [(0x11A8, 0x11FF), (0xD7CB, 0xD7FB)]⟩, ⟨["lv"], openSyllables⟩,
    ⟨["lvt"], .codes [(0xAC00, 0xD7A3)] - openSyllables⟩ ]

namespace Boundary

/-! ## Words -/

def wordExtending : CharRule :=
  (Property.graphemeExtend ∪ .categories [.spacingMark] ∪ Property.emojiModifier) -
    zeroWidthJoiner

def katakana : CharRule :=
  .script "kana" ∪ .codes [(0x3031, 0x3035), (0x309B, 0x309C), (0x30A0, 0x30A0),
    (0x30FC, 0x30FC), (0xFF70, 0xFF70)]

def hebrewLetter : CharRule := .script "hebr" ∩ .categories [.otherLetter]

/-- Signs that are read as letters. -/
def letterSigns : CharRule :=
  .codes [(0x2C2, 0x2C5), (0x2D2, 0x2D7), (0x2DE, 0x2DF), (0x2E5, 0x2EB), (0x2ED, 0x2ED),
    (0x2EF, 0x2FF), (0x55A, 0x55C), (0x55E, 0x55E), (0x58A, 0x58A), (0x5F3, 0x5F3),
    (0x70F, 0x70F), (0xA708, 0xA716), (0xA720, 0xA721), (0xA789, 0xA78A), (0xAB5B, 0xAB5B)]

def letter : CharRule :=
  (Property.alphabetic - (.codes ideographs ∪ .script "hira" ∪ katakana ∪ wordExtending ∪
      hebrewLetter ∪ .codes complexContext)) ∪ letterSigns

def wordFormat : CharRule :=
  .categories [.format] - (.codes [(0x200B, 0x200D)] ∪ Property.graphemeExtend ∪
    Property.prependedMark)

end Boundary

/-- The classes for boundaries of words. -/
def wordBreaks : List Property :=
  open Boundary in
  [ carriageReturn, lineFeed, joiner, regional,
    ⟨["nl", "newline"], .codes [(0xB, 0xC), (0x85, 0x85), (0x2028, 0x2029)]⟩,
    ⟨["extend"], wordExtending⟩, ⟨["fo", "format"], wordFormat⟩,
    ⟨["ka", "katakana"], katakana⟩, ⟨["hl", "hebrewletter"], hebrewLetter⟩,
    ⟨["le", "aletter"], letter⟩, ⟨["sq", "singlequote"], .codes [(0x27, 0x27)]⟩,
    ⟨["dq", "doublequote"], .codes [(0x22, 0x22)]⟩,
    ⟨["mb", "midnumlet"],
      .codes [(0x2E, 0x2E), (0x2018, 0x2019), (0x2024, 0x2024), (0xFE52, 0xFE52),
        (0xFF07, 0xFF07), (0xFF0E, 0xFF0E)]⟩,
    ⟨["ml", "midletter"],
      .codes [(0x3A, 0x3A), (0xB7, 0xB7), (0x387, 0x387), (0x55F, 0x55F), (0x5F4, 0x5F4),
        (0x2027, 0x2027), (0xFE13, 0xFE13), (0xFE55, 0xFE55), (0xFF1A, 0xFF1A)]⟩,
    ⟨["mn", "midnum"],
      .codes [(0x2C, 0x2C), (0x3B, 0x3B), (0x37E, 0x37E), (0x589, 0x589), (0x60C, 0x60D),
        (0x66C, 0x66C), (0x7F8, 0x7F8), (0x2044, 0x2044), (0xFE10, 0xFE10), (0xFE14, 0xFE14),
        (0xFE50, 0xFE50), (0xFE54, 0xFE54), (0xFF0C, 0xFF0C), (0xFF1B, 0xFF1B)]⟩,
    ⟨["nu", "numeric"], digits⟩,
    ⟨["ex", "extendnumlet"], .categories [.connectorPunctuation] ∪ .codes [(0x202F, 0x202F)]⟩,
    ⟨["wsegspace"],
      .categories [.spaceSeparator] - .codes [(0xA0, 0xA0), (0x2007, 0x2007),
        (0x202F, 0x202F)]⟩ ]

namespace Boundary

/-! ## Sentences -/

/-- Letters with capitals that do not begin sentences, small ones and capitals. -/
def georgian : CharRule :=
  .codes [(0x10D0, 0x10FA), (0x10FD, 0x10FF), (0x1C90, 0x1CBA), (0x1CBD, 0x1CBF)]

def sentenceExtending : CharRule :=
  Property.graphemeExtend ∪ .categories [.spacingMark] ∪ zeroWidthJoiner

def lineSeparators : CharRule := .codes [(0x85, 0x85), (0x2028, 0x2029)]

def lower : CharRule := Property.lowercase - (Property.graphemeExtend ∪ georgian)

def upper : CharRule := (Property.uppercase ∪ .categories [.titleLetter]) - georgian

/-- Full stops, which may also end an abbreviation. -/
def fullStops : CharRule :=
  .codes [(0x2E, 0x2E), (0x2024, 0x2024), (0xFE52, 0xFE52), (0xFF0E, 0xFF0E)]

def closing : CharRule :=
  (.categories [.openPunctuation, .closePunctuation, .initialPunctuation, .finalPunctuation] -
      (fullStops ∪ .codes sentenceTerminals)) ∪
    .codes [(0x22, 0x22), (0x27, 0x27), (0x275B, 0x2760), (0x2E00, 0x2E01), (0x2E06, 0x2E08),
      (0x2E0B, 0x2E0B), (0x1F676, 0x1F678)]

/-- Punctuation that a sentence goes on after. -/
def continuing : CharRule :=
  .codes [(0x2C, 0x2D), (0x3A, 0x3B), (0x37E, 0x37E), (0x55D, 0x55D), (0x60C, 0x60D),
    (0x7F8, 0x7F8), (0x1802, 0x1802), (0x1808, 0x1808), (0x2013, 0x2014), (0x3001, 0x3001),
    (0xFE10, 0xFE11), (0xFE13, 0xFE14), (0xFE31, 0xFE32), (0xFE50, 0xFE51), (0xFE54, 0xFE55),
    (0xFE58, 0xFE58), (0xFE63, 0xFE63), (0xFF0C, 0xFF0D), (0xFF1A, 0xFF1B), (0xFF64, 0xFF64)]

end Boundary

/-- The classes for boundaries of sentences. -/
def sentenceBreaks : List Property :=
  open Boundary in
  [ carriageReturn, lineFeed, ⟨["ex", "extend"], sentenceExtending⟩,
    ⟨["se", "sep"], lineSeparators⟩,
    ⟨["fo", "format"],
      .categories [.format] - (.codes [(0x200C, 0x200D)] ∪ Property.graphemeExtend ∪
        numericSigns)⟩,
    ⟨["sp"], Property.whiteSpace - (.codes [(0xA, 0xA), (0xD, 0xD)] ∪ lineSeparators)⟩,
    ⟨["lo", "lower"], lower⟩, ⟨["up", "upper"], upper⟩,
    ⟨["le", "oletter"],
      (Property.alphabetic ∪ .codes [(0x5F3, 0x5F3)]) - (lower ∪ upper ∪ sentenceExtending)⟩,
    ⟨["nu", "numeric"], digits ∪ .codes [(0x66C, 0x66C)]⟩, ⟨["at", "aterm"], fullStops⟩,
    ⟨["st", "sterm"], .codes sentenceTerminals - fullStops⟩, ⟨["cl", "close"], closing⟩,
    ⟨["sc", "scontinue"], continuing⟩ ]

end Rowwise.Text
