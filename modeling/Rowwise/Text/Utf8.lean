import Rowwise.Text.CharSet

/-!
# Encoded ranges of characters

In UTF-8 a character takes one to four bytes: one that tells how many follow, and then six bits of
the code point in every byte.  A range of characters is written as sequences of ranges of bytes,
such that the characters of the range are those that take one byte of every range in turn.
-/

namespace Rowwise.Text

/-- A row of ranges of bytes. -/
abbrev ByteRow := List (Nat × Nat)

/-- The bytes that follow the first one. -/
def followingBytes : Nat × Nat := (0x80, 0xBF)

/-- The byte in the place before `following` other bytes: `digit` is what it adds to the code
point, and `lead` is added to the first byte only. -/
def byteRange (lead low high : Nat) : Nat × Nat := (lead + low, lead + high)

/-- The rows for the code points from `low` to `high`, written as a first digit and so many
following digits of six bits.  Where the first digits of both ends differ, an end that is not the
last or first one with its digit has rows of its own. -/
def byteRowsWithin (lead : Nat) : (following : Nat) → (low high : Nat) → List ByteRow
  | 0, low, high => [[byteRange lead low high]]
  | following + 1, low, high =>
    let block := Nat.pow 64 (following + 1)
    let first := low / block
    let last := high / block
    let below := fun digit low high =>
      (byteRowsWithin 0x80 following low high).map (byteRange lead digit digit :: ·)
    if first = last then below first (low % block) (high % block)
    else
      let fromStart := low % block = 0
      let toEnd := high % block + 1 = block
      let first' := if fromStart then first else first + 1
      let last' := if toEnd then last + 1 else last
      (if fromStart then [] else below first (low % block) (block - 1)) ++
        (if first' < last' then
          [byteRange lead first' (last' - 1) :: List.replicate (following + 1) followingBytes]
        else []) ++
        (if toEnd then [] else below last 0 (high % block))

/-- The code points with one number of bytes: their ends, the number that is added to the first
byte, and the number of bytes that follow. -/
def byteLengths : List (Nat × Nat × Nat × Nat) :=
  [ (0x0, 0x7F, 0x0, 0), (0x80, 0x7FF, 0xC0, 1), (0x800, 0xD7FF, 0xE0, 2), (0xE000, 0xFFFF, 0xE0, 2),
    (0x10000, 0x10FFFF, 0xF0, 3) ]

/-- The rows for a range of code points. -/
def byteRows (r : CodeRange) : List ByteRow :=
  byteLengths.flatMap fun (low, high, lead, following) =>
    let low := max low r.1
    let high := min high r.2
    if low ≤ high then byteRowsWithin lead following low high else []

end Rowwise.Text
