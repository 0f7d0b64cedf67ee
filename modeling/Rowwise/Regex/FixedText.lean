import Rowwise.Regex.Footprint
import Rowwise.Regex.Resolve
import Rowwise.Text.Like
import Rowwise.Text.Search

/-!
# Fixed texts and LIKE patterns as expressions

A search for a fixed text and a LIKE pattern are special cases of regular expressions, and bounded
in size like them.
-/

namespace Rowwise.Regex

open Text

/-- A character as modifiers want it compared. -/
def Expression.ofModified (m : Modifiers) (c : Char) : Expression :=
  .ofChar { ignoreCase := m.ignoreCase } c

/-- The expression that matches where a text occurs. -/
def Expression.ofText (m : Modifiers) (text : List Char) : Expression :=
  let edge := if m.wholeWords then [Expression.look (.boundary true)] else []
  .ofSequence (edge ++ text.map (.ofModified m) ++ edge)

/-- Any one character. -/
def Expression.anyChar : Expression := .one true .full

/-- Any run of characters. -/
def Expression.anyRun : Expression := .repetition 0 none true .anyChar

/-- The expression of one place of a LIKE pattern. -/
def Expression.ofLikeStep (m : Modifiers) : LikeStep → Expression
  | .char c => .ofModified m c
  | .any => .anyChar

/-- The expression that matches the texts that a LIKE pattern matches. -/
def Expression.ofLike (m : Modifiers) (p : LikePattern) : Expression :=
  .ofSequence ([.look .textStart] ++ p.first.map (.ofLikeStep m) ++
    p.later.flatMap (fun piece => .anyRun :: piece.map (.ofLikeStep m)) ++ [.look .textEnd])

end Rowwise.Regex
