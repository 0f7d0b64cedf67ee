import Rowwise.Text.Case

/-!
# LIKE patterns

In a pattern `%` stands for any run of characters, `_` for any one character, and `[c]` for the
character `c`; every other character stands for itself.  A bracket that does not enclose exactly
one character is an ordinary character.

The runs cut a pattern into pieces of a fixed length.  The first piece matches the start of a text
and the last one its end, and every piece between them is looked for from where the one before it
ended: the first place where it occurs leaves the most text for the others.
-/

namespace Rowwise.Text

/-- One place of a LIKE pattern. -/
inductive LikeStep where
  /-- Exactly the character `c`. -/
  | char (c : Char)
  /-- Any one character. -/
  | any
  deriving DecidableEq, Repr

/-- The pieces of a pattern: the one in front of the first run of any characters, and the ones
behind every run. -/
structure LikePattern where
  first : List LikeStep
  later : List (List LikeStep)
  deriving DecidableEq, Repr

namespace LikePattern

/-- The pattern of pieces that stand in reverse, the last one first. -/
def ofPieces (piece : List LikeStep) (pieces : List (List LikeStep)) : LikePattern :=
  match ((piece :: pieces).map List.reverse).reverse with
  | [] => ⟨[], []⟩
  | first :: later => ⟨first, later⟩

/-- Reads a pattern.  The places of the current piece and the pieces before it stand in reverse. -/
def readFrom (piece : List LikeStep) (pieces : List (List LikeStep)) : List Char → LikePattern
  | '[' :: c :: ']' :: rest => readFrom (.char c :: piece) pieces rest
  | '%' :: rest => readFrom [] (piece :: pieces) rest
  | '_' :: rest => readFrom (.any :: piece) pieces rest
  | c :: rest => readFrom (.char c :: piece) pieces rest
  | [] => ofPieces piece pieces

/-- Reads a pattern. -/
def ofText (text : List Char) : LikePattern := readFrom [] [] text

end LikePattern

/-- The rest of a text after the characters that a piece matches, compared by `same`. -/
def dropPiece? (same : Char → Char → Bool) : List LikeStep → List Char → Option (List Char)
  | [], s => some s
  | .char c :: steps, d :: s => if same c d then dropPiece? same steps s else none
  | .any :: steps, _ :: s => dropPiece? same steps s
  | _ :: _, [] => none

/-- The rest of a text after the first place where a piece occurs. -/
def dropThroughPiece? (same : Char → Char → Bool) (piece : List LikeStep) (s : List Char) :
    Option (List Char) :=
  match dropPiece? same piece s, s with
  | some rest, _ => some rest
  | none, [] => none
  | none, _ :: s => dropThroughPiece? same piece s

/-- Whether a text matches pieces each of which stands behind a run of any characters. -/
def laterMatch (same : Char → Char → Bool) : List (List LikeStep) → List Char → Bool
  | [], _ => true
  | [piece], s =>
    piece.length ≤ s.length && dropPiece? same piece (s.drop (s.length - piece.length)) == some []
  | piece :: pieces, s =>
    match dropThroughPiece? same piece s with
    | some rest => laterMatch same pieces rest
    | none => false

/-- Whether the whole of a text matches a pattern, characters compared by `same`. -/
def LikePattern.matches (same : Char → Char → Bool) (p : LikePattern) (s : List Char) : Bool :=
  match dropPiece? same p.first s with
  | none => false
  | some rest => if p.later.isEmpty then rest.isEmpty else laterMatch same p.later rest

end Rowwise.Text
