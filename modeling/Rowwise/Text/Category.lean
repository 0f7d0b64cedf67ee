import Rowwise.Text.CategoryTable

/-!
# General categories

Every code point belongs to exactly one general category; those that are no characters have a
category of their own.  A group of categories has names, an abbreviation among them, which are
spelled here in small letters without separators.
-/

namespace Rowwise.Text

inductive Category where
  | upperLetter | lowerLetter | titleLetter | modifierLetter | otherLetter
  | nonspacingMark | spacingMark | enclosingMark
  | decimalNumber | letterNumber | otherNumber
  | connectorPunctuation | dashPunctuation | openPunctuation | closePunctuation
  | initialPunctuation | finalPunctuation | otherPunctuation
  | mathSymbol | currencySymbol | modifierSymbol | otherSymbol
  | spaceSeparator | lineSeparator | paragraphSeparator
  | control | format | privateUse | surrogate | unassigned
  deriving DecidableEq, Repr

namespace Category

/-- The categories of code points that the standard has assigned. -/
def assigned : List Category :=
  [upperLetter, lowerLetter, titleLetter, modifierLetter, otherLetter, nonspacingMark, spacingMark,
    enclosingMark, decimalNumber, letterNumber, otherNumber, connectorPunctuation, dashPunctuation,
    openPunctuation, closePunctuation, initialPunctuation, finalPunctuation, otherPunctuation,
    mathSymbol, currencySymbol, modifierSymbol, otherSymbol, spaceSeparator, lineSeparator,
    paragraphSeparator, control, format, privateUse, surrogate]

/-- The code points of a category; unassigned ones have no table. -/
def runs : Category → List CodeRun
  | upperLetter => upperLetterRuns
  | lowerLetter => lowerLetterRuns
  | titleLetter => titleLetterRuns
  | modifierLetter => modifierLetterRuns
  | otherLetter => otherLetterRuns
  | nonspacingMark => nonspacingMarkRuns
  | spacingMark => spacingMarkRuns
  | enclosingMark => enclosingMarkRuns
  | decimalNumber => decimalNumberRuns
  | letterNumber => letterNumberRuns
  | otherNumber => otherNumberRuns
  | connectorPunctuation => connectorPunctuationRuns
  | dashPunctuation => dashPunctuationRuns
  | openPunctuation => openPunctuationRuns
  | closePunctuation => closePunctuationRuns
  | initialPunctuation => initialPunctuationRuns
  | finalPunctuation => finalPunctuationRuns
  | otherPunctuation => otherPunctuationRuns
  | mathSymbol => mathSymbolRuns
  | currencySymbol => currencySymbolRuns
  | modifierSymbol => modifierSymbolRuns
  | otherSymbol => otherSymbolRuns
  | spaceSeparator => spaceSeparatorRuns
  | lineSeparator => lineSeparatorRuns
  | paragraphSeparator => paragraphSeparatorRuns
  | control => controlRuns
  | format => formatRuns
  | privateUse => privateUseRuns
  | surrogate => surrogateRuns
  | unassigned => []

/-- Whether the table of a category lists a character. -/
def lists (k : Category) (c : Char) : Bool := k.runs.any (·.contains c.toNat)

/-- Whether a character belongs to a category. -/
def contains : Category → Char → Bool
  | unassigned, c => !assigned.any (·.lists c)
  | k, c => k.lists c

def casedLetters : List Category := [upperLetter, lowerLetter, titleLetter]
def letters : List Category := casedLetters ++ [modifierLetter, otherLetter]
def marks : List Category := [nonspacingMark, spacingMark, enclosingMark]
def numbers : List Category := [decimalNumber, letterNumber, otherNumber]

def punctuation : List Category :=
  [connectorPunctuation, dashPunctuation, openPunctuation, closePunctuation, initialPunctuation,
    finalPunctuation, otherPunctuation]

def symbols : List Category := [mathSymbol, currencySymbol, modifierSymbol, otherSymbol]
def separators : List Category := [spaceSeparator, lineSeparator, paragraphSeparator]
def others : List Category := [control, format, privateUse, surrogate, unassigned]

/-- The groups of categories with their names. -/
def groups : List (List String × List Category) :=
  [ (["l", "letter"], letters), (["lc", "casedletter"], casedLetters),
    (["lu", "uppercaseletter"], [upperLetter]), (["ll", "lowercaseletter"], [lowerLetter]),
    (["lt", "titlecaseletter"], [titleLetter]), (["lm", "modifierletter"], [modifierLetter]),
    (["lo", "otherletter"], [otherLetter]), (["m", "mark", "combiningmark"], marks),
    (["mn", "nonspacingmark"], [nonspacingMark]), (["mc", "spacingmark"], [spacingMark]),
    (["me", "enclosingmark"], [enclosingMark]), (["n", "number"], numbers),
    (["nd", "decimalnumber", "digit"], [decimalNumber]), (["nl", "letternumber"], [letterNumber]),
    (["no", "othernumber"], [otherNumber]), (["p", "punctuation", "punct"], punctuation),
    (["pc", "connectorpunctuation"], [connectorPunctuation]),
    (["pd", "dashpunctuation"], [dashPunctuation]), (["ps", "openpunctuation"], [openPunctuation]),
    (["pe", "closepunctuation"], [closePunctuation]),
    (["pi", "initialpunctuation"], [initialPunctuation]),
    (["pf", "finalpunctuation"], [finalPunctuation]),
    (["po", "otherpunctuation"], [otherPunctuation]), (["s", "symbol"], symbols),
    (["sm", "mathsymbol"], [mathSymbol]), (["sc", "currencysymbol"], [currencySymbol]),
    (["sk", "modifiersymbol"], [modifierSymbol]), (["so", "othersymbol"], [otherSymbol]),
    (["z", "separator"], separators), (["zs", "spaceseparator"], [spaceSeparator]),
    (["zl", "lineseparator"], [lineSeparator]),
    (["zp", "paragraphseparator"], [paragraphSeparator]), (["c", "other"], others),
    (["cc", "control", "cntrl"], [control]), (["cf", "format"], [format]),
    (["co", "privateuse"], [privateUse]), (["cn", "unassigned"], [unassigned]),
    (["cs", "surrogate"], [surrogate]) ]

/-- The categories that a name stands for. -/
def named? (name : String) : Option (List Category) :=
  (groups.find? (·.1.contains name)).map (·.2)

end Category

end Rowwise.Text
