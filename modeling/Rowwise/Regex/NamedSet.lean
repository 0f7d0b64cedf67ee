import Rowwise.Regex.Pattern
import Rowwise.Text.AgeTable
import Rowwise.Text.Break
import Rowwise.Text.ScriptExtensionTable
import Rowwise.Text.WordTable

/-!
# Sets of characters with names

The sets behind the names in a pattern: classes of ASCII characters, classes written as an escaped
letter, and properties such as `Lu`, `Greek`, `gc=Number` and `age:6.0`.  Letter case and
separators in the name of a property do not count.
-/

namespace Rowwise.Regex

open Text

/-! ## ASCII classes and letters -/

def AsciiClass.ranges : AsciiClass → List CodeRange
  | alnum => [(0x30, 0x39), (0x41, 0x5A), (0x61, 0x7A)]
  | alpha => [(0x41, 0x5A), (0x61, 0x7A)]
  | ascii => [(0x0, 0x7F)]
  | blank => [(0x9, 0x9), (0x20, 0x20)]
  | cntrl => [(0x0, 0x1F), (0x7F, 0x7F)]
  | digit => [(0x30, 0x39)]
  | graph => [(0x21, 0x7E)]
  | lower => [(0x61, 0x7A)]
  | print => [(0x20, 0x7E)]
  | punct => [(0x21, 0x2F), (0x3A, 0x40), (0x5B, 0x60), (0x7B, 0x7E)]
  | space => [(0x9, 0xD), (0x20, 0x20)]
  | upper => [(0x41, 0x5A)]
  | word => [(0x30, 0x39), (0x41, 0x5A), (0x5F, 0x5F), (0x61, 0x7A)]
  | xdigit => [(0x30, 0x39), (0x41, 0x46), (0x61, 0x66)]

/-- The set of a class of ASCII characters. -/
def AsciiClass.toSet (c : AsciiClass) : CharSet := .ofRanges c.ranges

/-- The set of a class written as an escaped letter. -/
def LetterClass.toSet (unicode : Bool) : LetterClass → CharSet
  | digit => if unicode then .ofRanges digitRanges else AsciiClass.digit.toSet
  | space => if unicode then Property.whiteSpace.toSet else AsciiClass.space.toSet
  | word => if unicode then .ofRanges wordRanges else AsciiClass.word.toSet

/-! ## Properties -/

/-- A name in small letters without separators and without an `is` at its start.  The name `isc`
is kept, as it does not mean the category `c`. -/
def spelledName (name : List Char) : String :=
  let lower := name.map Char.toLower
  let hasIs := ['i', 's'].isPrefixOf lower
  let counts := fun c : Char => c.toNat < 128 && c != ' ' && c != '_' && c != '-'
  let spelled := ((if hasIs then lower.drop 2 else lower).filter counts)
  if hasIs && spelled == ['c'] then "isc" else String.ofList spelled

/-- The set of a property in a list, by its name. -/
def listedSet? (properties : List Property) (name : String) : Option CharSet :=
  (properties.find? (·.names.contains name)).map (·.rule.toSet)

/-- The set of a general category, by its name. -/
def categorySet? (name : String) : Option CharSet :=
  match name with
  | "any" => some .full
  | "ascii" => some AsciiClass.ascii.toSet
  | "assigned" => some (CharSet.ofCategories [.unassigned]).complement
  | _ => (Category.named? name).map .ofCategories

/-- The set of a script, by its name. -/
def scriptSet? (name : String) : Option CharSet :=
  (script? name).map fun s => .ofRanges s.ranges

/-- The characters that are in use with a script, by its name.  Those that are not listed are in
use with their own script only. -/
def extensionSet? (name : String) : Option CharSet :=
  (script? name).map fun s =>
    let listed := CharSet.ofRanges (scriptExtensions.flatMap (·.2))
    let used := (scriptExtensions.filter fun e => e.1.any s.names.contains).flatMap (·.2)
    ((CharSet.ofRanges s.ranges).difference listed).union (.ofRanges used)

/-- The characters of an edition of the standard, by its name. -/
def editionSet? (name : String) : Option CharSet :=
  (editions.findIdx? (·.names.contains name)).map fun i =>
    .ofRanges ((editions.take (i + 1)).flatMap (·.ranges))

/-- The names of scripts that no character belongs to. -/
def emptyScripts : List String := ["zzzz", "unknown", "hrkt", "katakanaorhiragana"]

/-- A property that is asked for: one that characters have or have not, or one with a value. -/
inductive PropertyQuery where
  | plain (name : String)
  | ofValue (property value : String) (negated : Bool)
  deriving DecidableEq, Repr

/-- Splits a text at the first occurrence of another one. -/
def splitAtText? (mark : List Char) : (before : List Char) → List Char →
    Option (List Char × List Char)
  | _, [] => none
  | before, c :: s =>
    if mark.isPrefixOf (c :: s) then some (before.reverse, (c :: s).drop mark.length)
    else splitAtText? mark (c :: before) s

/-- Reads what stands between braces.  A value is set off by `!=`, `:` or `=`, looked for in this
order. -/
def PropertyQuery.ofText (text : List Char) : PropertyQuery :=
  let split := fun mark negated => (splitAtText? mark [] text).map fun (property, value) =>
    PropertyQuery.ofValue (spelledName property) (spelledName value) negated
  (split ['!', '='] true <|> split [':'] false <|> split ['='] false).getD
    (.plain (spelledName text))

/-- Names of properties with values or without a set. -/
def otherPropertyNames : List String :=
  [ "bc", "bidiclass", "bidim", "bidimirrored", "bidimirroringglyph", "bidipairedbracket",
    "bidipairedbrackettype", "blk", "block", "bmg", "bpb", "bpt", "canonicalcombiningclass",
    "casefolding", "ccc", "ce", "cf", "changeswhennfkccasefolded", "cjkaccountingnumeric",
    "cjkcompatibilityvariant", "cjkiicore", "cjkirggsource", "cjkirghsource", "cjkirgjsource",
    "cjkirgkpsource", "cjkirgksource", "cjkirgmsource", "cjkirgssource", "cjkirgtsource",
    "cjkirguksource", "cjkirgusource", "cjkirgvsource", "cjkothernumeric", "cjkprimarynumeric",
    "cjkrsunicode", "compex", "compositionexclusion", "cwkcf", "decompositionmapping",
    "decompositiontype", "dm", "dt", "ea", "eastasianwidth", "equideo",
    "equivalentunifiedideograph", "expandsonnfc", "expandsonnfd", "expandsonnfkc",
    "expandsonnfkd", "fcnfkc", "fcnfkcclosure", "fullcompositionexclusion",
    "hangulsyllabletype", "hst", "incb", "indicconjunctbreak", "indicpositionalcategory",
    "indicsyllabiccategory", "inpc", "insc", "isc", "isocomment", "jamoshortname", "jg",
    "joininggroup", "joiningtype", "jsn", "jt", "kaccountingnumeric", "kcompatibilityvariant",
    "kehcat", "kehcore", "kehdesc", "kehhg", "kehifao", "kehjsesh", "kehnomirror", "kehnorotate",
    "kiicore", "kirggsource", "kirghsource", "kirgjsource", "kirgkpsource", "kirgksource",
    "kirgmsource", "kirgssource", "kirgtsource", "kirguksource", "kirgusource", "kirgvsource",
    "kothernumeric", "kprimarynumeric", "krsunicode", "lb", "lc", "linebreak",
    "lowercasemapping", "na", "na1", "name", "namealias", "nfcqc", "nfcquickcheck", "nfdqc",
    "nfdquickcheck", "nfkccasefold", "nfkccf", "nfkcqc", "nfkcquickcheck", "nfkcscf",
    "nfkcsimplecasefold", "nfkdqc", "nfkdquickcheck", "nt", "numerictype", "numericvalue", "nv",
    "scf", "sfc", "simplecasefolding", "simplelowercasemapping", "simpletitlecasemapping",
    "simpleuppercasemapping", "slc", "stc", "suc", "tc", "titlecasemapping", "uc",
    "unicode1name", "unicoderadicalstroke", "uppercasemapping", "urs", "verticalorientation",
    "vo", "xonfc", "xonfd", "xonfkc", "xonfkd" ]

/-- Whether a property has a name, whatever is known about it. -/
def isPropertyName (name : String) : Bool :=
  otherPropertyNames.contains name || properties.any (·.names.contains name)

/-- The sets of the values of a property, by the names of both; none if there is no property of
that name. -/
def valueSet? (property value : String) : Option (Option CharSet) :=
  match property with
  | "gc" | "generalcategory" => some (categorySet? value)
  | "sc" | "script" => some (scriptSet? value)
  | "scx" | "scriptextensions" => some (extensionSet? value)
  | "age" => some (editionSet? value)
  | "gcb" | "graphemeclusterbreak" => some (listedSet? graphemeBreaks value)
  | "wb" | "wordbreak" => some (listedSet? wordBreaks value)
  | "sb" | "sentencebreak" => some (listedSet? sentenceBreaks value)
  | _ => if isPropertyName property then some none else none

/-- The set of a plain property.  The names `cf`, `sc` and `lc` are those of categories, although
properties with values have them, too. -/
def plainSet (name : String) : Except Flaw CharSet :=
  match listedSet? properties name with
  | some s => .ok s
  | none =>
    match categorySet? name with
    | some s => if s.isEmpty then .error .propertyValueUnknown else .ok s
    | none =>
      if emptyScripts.contains name then .error .propertyValueUnknown
      else (scriptSet? name).elim (.error .propertyUnknown) .ok

/-- The set of the characters with a property, and whether its name asks for the others.  A set
without characters counts as one that is not known. -/
def PropertyQuery.toSet : PropertyQuery → Except Flaw (CharSet × Bool)
  | plain name => do pure (← plainSet name, false)
  | ofValue property value negated =>
    match valueSet? property value with
    | none => .error .propertyUnknown
    | some none => .error .propertyValueUnknown
    | some (some s) => if s.isEmpty then .error .propertyValueUnknown else .ok (s, negated)

end Rowwise.Regex
