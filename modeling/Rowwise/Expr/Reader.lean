import Rowwise.Expr.Basic

/-!
# Readers of source text

A reader takes the rest of a source text and either finds something, fails so that another reader
may be tried, or fails for good.  A failure says where it happened, what was expected there, and
possibly the cause; what was expected is collected from the inside out.

Of several alternatives the failure of the last one counts.  An alternative that failed for good
ends the choice.
-/

namespace Rowwise

/-- The rest of a source text, and the bytes before it. -/
structure Cursor where
  offset : Nat
  rest : List Char
  deriving DecidableEq, Repr

namespace Cursor

/-- The cursor after the first character. -/
def next (c : Cursor) : Option (Char × Cursor) :=
  match c.rest with
  | [] => none
  | a :: rest => some (a, ⟨c.offset + a.utf8Size, rest⟩)

/-- The cursor after the first `n` characters. -/
def advance : (n : Nat) → Cursor → Cursor
  | 0, c => c
  | n + 1, c =>
    match c.next with
    | some (_, c) => advance n c
    | none => c

end Cursor

/-- What a failed reader expected. -/
inductive Expectation where
  /-- A thing of some sort was malformed. -/
  | malformed (thing : String)
  | character (c : Char)
  | described (description : String)
  deriving DecidableEq, Repr

/-- Why a reader failed. -/
structure ReadIssue where
  expected : List Expectation := []
  cause : Option String := none
  deriving DecidableEq, Repr

/-- The outcome of a reader.  Failures keep the place where they happened. -/
inductive ReadResult (α : Type) where
  | ok (a : α) (after : Cursor)
  /-- Another reader may be tried. -/
  | retry (issue : ReadIssue) (place : Cursor)
  /-- No other reader may be tried. -/
  | stop (issue : ReadIssue) (place : Cursor)

/-- A reader of things of type `α`. -/
def Reader (α : Type) := Cursor → ReadResult α

namespace Reader

variable {α β : Type}

instance : Monad Reader where
  pure a := fun c => .ok a c
  bind r f := fun c =>
    match r c with
    | .ok a c => f a c
    | .retry issue place => .retry issue place
    | .stop issue place => .stop issue place

/-- Fails without a reason. -/
def failed : Reader α := fun c => .retry {} c

/-- Makes a failure final. -/
def required (r : Reader α) : Reader α := fun c =>
  match r c with
  | .retry issue place => .stop issue place
  | result => result

/-- Adds what was expected to a failure. -/
def expecting (e : Expectation) (r : Reader α) : Reader α := fun c =>
  let add := fun (issue : ReadIssue) => { issue with expected := issue.expected ++ [e] }
  match r c with
  | .ok a c => .ok a c
  | .retry issue place => .retry (add issue) place
  | .stop issue place => .stop (add issue) place

/-- The first reader, or the second one from the same place if it fails. -/
def orElse (r s : Reader α) : Reader α := fun c =>
  match r c with
  | .retry _ _ => s c
  | result => result

/-- The first of several readers that succeeds. -/
def choice : List (Reader α) → Reader α
  | [] => failed
  | [r] => r
  | r :: rs => r.orElse (choice rs)

/-- What the reader finds, or nothing if it fails. -/
def optional (r : Reader α) : Reader (Option α) := fun c =>
  match r c with
  | .ok a c => .ok (some a) c
  | .retry _ _ => .ok none c
  | .stop issue place => .stop issue place

/-- Finds something only if the reader fails here; reads nothing. -/
def notAhead (r : Reader α) : Reader Unit := fun c =>
  match r c with
  | .ok _ _ => .retry {} c
  | .retry _ _ => .ok () c
  | .stop issue _ => .stop issue c

/-- Finds something only if the reader does; reads nothing. -/
def ahead (r : Reader α) : Reader α := fun c =>
  match r c with
  | .ok a _ => .ok a c
  | .retry issue _ => .retry issue c
  | .stop issue _ => .stop issue c

/-- Everything that the reader finds one after the other. -/
def manyWithin (r : Reader α) : (fuel : Nat) → Reader (List α)
  | 0 => pure []
  | fuel + 1 => fun c =>
    match r c with
    | .ok a after =>
      match manyWithin r fuel after with
      | .ok as after => .ok (a :: as) after
      | .retry issue place => .retry issue place
      | .stop issue place => .stop issue place
    | .retry _ _ => .ok [] c
    | .stop issue place => .stop issue place

/-- Everything that the reader finds one after the other.  Each find takes at least one
character. -/
def many (r : Reader α) : Reader (List α) := fun c => manyWithin r c.rest.length c

/-- Things with separators between them, possibly none. -/
def separatedBy (separator : Reader β) (r : Reader α) : Reader (List α) := fun c =>
  match r c with
  | .ok a after =>
    match many (do let _ ← separator; r) after with
    | .ok as after => .ok (a :: as) after
    | .retry issue place => .retry issue place
    | .stop issue place => .stop issue place
  | .retry _ _ => .ok [] c
  | .stop issue place => .stop issue place

/-- The bytes read so far. -/
def offset : Reader Nat := fun c => .ok c.offset c

/-- A character with a property. -/
def satisfying (p : Char → Bool) : Reader Char := fun c =>
  match c.next with
  | some (a, after) => if p a then .ok a after else .retry {} c
  | none => .retry {} c

/-- A given character. -/
def character (a : Char) : Reader Char := satisfying (· == a)

/-- A given text. -/
def literal (text : String) : Reader Unit := fun c =>
  if text.toList.isPrefixOf c.rest then .ok () (c.advance text.length) else .retry {} c

/-- The longest run of characters with a property. -/
def run (p : Char → Bool) : Reader (List Char) := fun c =>
  let found := c.rest.takeWhile p
  .ok found (c.advance found.length)

/-- The longest run of characters with a property, which must not be empty. -/
def run1 (p : Char → Bool) : Reader (List Char) := fun c =>
  let found := c.rest.takeWhile p
  if found.isEmpty then .retry {} c else .ok found (c.advance found.length)

/-- What was found, converted; a failed conversion is a failure in front of it, with a cause. -/
def converted (f : α → Except String β) (r : Reader α) : Reader β := fun c =>
  match r c with
  | .ok a after =>
    match f a with
    | .ok b => .ok b after
    | .error cause => .retry { cause := some cause } c
  | .retry issue place => .retry issue place
  | .stop issue place => .stop issue place

/-- The end of the text. -/
def atEnd : Reader Unit := fun c => if c.rest.isEmpty then .ok () c else .retry {} c

end Reader

end Rowwise
