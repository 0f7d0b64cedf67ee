import Rowwise.Text.Blank
import Rowwise.Text.CaseTable
import Rowwise.Text.Category
import Rowwise.Text.Property
import Rowwise.Text.WordTable

/-!
# Letter case

Full lower and upper case of texts, simple case folding of characters, and classes of characters:
those of words, letters, numbers, and characters with case.

Case maps work character by character with one exception: a capital sigma at the end of a word
is lowered to the final form of the letter.
-/

namespace Rowwise.Text

/-- Whether a run maps a code point. -/
def CaseRun.contains (r : CaseRun) (n : Nat) : Bool :=
  r.first ≤ n && n ≤ r.last && (n - r.first) % r.step == 0

/-- The character that a case table maps `c` to; `c` itself if it is not in the table. -/
def mapByRuns (runs : List CaseRun) (c : Char) : Char :=
  match runs.find? (·.contains c.toNat) with
  | some r => Char.ofNat ((c.toNat : Int) + r.distance).toNat
  | none => c

/-- A case map with a table of longer forms, which take precedence. -/
def mapCase (long : List (Nat × List Nat)) (runs : List CaseRun) (c : Char) : List Char :=
  match long.find? (·.1 == c.toNat) with
  | some (_, cs) => cs.map Char.ofNat
  | none => [mapByRuns runs c]

/-- The lower-case form of a character. -/
def lowerChar (c : Char) : List Char :=
  if c.toNat < 128 then [c.toLower] else mapCase longLower lowerRuns c

/-- The upper-case form of a character. -/
def upperChar (c : Char) : List Char :=
  if c.toNat < 128 then [c.toUpper] else mapCase longUpper upperRuns c

/-- The simple case folding of a character: characters that differ only in case have one. -/
def foldChar (c : Char) : Char :=
  if c.toNat < 128 then c.toLower else mapByRuns foldRuns c

/-- Whether two characters are the same up to case. -/
def sameUpToCase (a b : Char) : Bool := foldChar a == foldChar b

/-! ## Classes of characters -/

/-- Whether a character belongs to a word. -/
def isWordChar (c : Char) : Bool :=
  if c.toNat < 128 then c.isAlphanum || c == '_' else inRanges wordRanges c

/-- Whether a character is a decimal digit of some script. -/
def isDecimalDigit (c : Char) : Bool :=
  if c.toNat < 128 then c.isDigit else inRanges digitRanges c

/-- Whether a character belongs to one of some categories or is listed besides. -/
def isIn (ks : List Category) (others : List (Nat × Nat)) (c : Char) : Bool :=
  ks.any (·.contains c) || inRanges others c

/-- Whether a character is alphabetic. -/
def isAlphabetic : Char → Bool := isIn (.letterNumber :: Category.letters) otherAlphabetic

/-- Whether a character is a number of some kind. -/
def isNumber : Char → Bool := isIn Category.numbers []

/-- Whether a character has case. -/
def isCased (c : Char) : Bool :=
  isIn Category.casedLetters otherLowercase c || inRanges otherUppercase c

/-- Whether a character is passed over when the neighbours of a capital sigma are looked up. -/
def isCaseIgnorable : Char → Bool := isIn Property.innerCategories Property.innerMarks

/-! ## Case of texts -/

/-- Whether a cased character follows, ignorable characters skipped. -/
def caseFollows (s : List Char) : Bool := (s.dropWhile isCaseIgnorable).head?.any isCased

/-- The lower-case form of the text `s`, where `before` holds the characters before it and `done`
their forms, both nearest first. -/
def lowerAfter : (before done : List Char) → List Char → List Char
  | _, done, [] => done.reverse
  | before, done, c :: s =>
    let form :=
      if c = 'Σ' then if caseFollows before && !caseFollows s then ['ς'] else ['σ']
      else lowerChar c
    lowerAfter (c :: before) (form.reverse ++ done) s

/-- The text in lower case. -/
def lower (s : List Char) : List Char := lowerAfter [] [] s

/-- The text in upper case. -/
def upper (s : List Char) : List Char := s.flatMap upperChar

/-- The characters of a text, each with the one before it. -/
def withBefore (s : List Char) : List (Option Char × Char) := (none :: s.map some).zip s

/-- The text with the first character of every word in upper case and the others in lower case;
words are separated by blanks. -/
def capitalize (s : List Char) : List Char :=
  (withBefore s).flatMap fun (before, c) =>
    if isBlank c then [c] else if before.all isBlank then upperChar c else lowerChar c

/-- The text with ASCII letters in upper case. -/
def upperAscii (s : List Char) : List Char := s.map Char.toUpper

end Rowwise.Text
