import Mathlib.Data.List.Forall2
import Rowwise.Text.Like

/-!
# What a LIKE pattern matches

`Like` reads a pattern and a text side by side from left to right, and splits the text wherever the
pattern has a run.  `LikePattern.matches` cuts the pattern into pieces first and looks for each of
them at the first place where it occurs.  Nothing is lost by that: what matches the rest of a
pattern that begins with a run still does with more characters in front (`RunsThen.prepend`).  So a
text matches the pieces of a pattern exactly if it is `Like` the pattern
(`LikePattern.matches_ofText_iff`).
-/

namespace Rowwise.Text

open List

/-- The character stands for itself in front of the rest of a pattern. -/
def Ordinary (c : Char) (rest : List Char) : Prop :=
  c ≠ '%' ∧ c ≠ '_' ∧ ∀ d later, c = '[' → rest ≠ d :: ']' :: later

/-- The text can be split to match the pattern, read from left to right.  Characters match those
that they are alike to. -/
inductive Like (alike : Char → Char → Prop) : (pattern text : List Char) → Prop where
  | nil : Like alike [] []
  /-- One character in brackets stands for this character. -/
  | enclosed {c d : Char} {p s : List Char} (matched : alike c d) (rest : Like alike p s) :
      Like alike ('[' :: c :: ']' :: p) (d :: s)
  | run (skipped : List Char) {p s : List Char} (rest : Like alike p s) :
      Like alike ('%' :: p) (skipped ++ s)
  | one (d : Char) {p s : List Char} (rest : Like alike p s) : Like alike ('_' :: p) (d :: s)
  | itself {c d : Char} {p s : List Char} (ordinary : Ordinary c p) (matched : alike c d)
      (rest : Like alike p s) : Like alike (c :: p) (d :: s)

variable {alike : Char → Char → Prop} {same : Char → Char → Bool} {c d : Char}
  {piece : List LikeStep} {pieces : List (List LikeStep)} {p s t rest : List Char}

/-! ## Reading side by side -/

theorem like_nil_iff : Like alike [] s ↔ s = [] := by
  constructor
  · intro h
    cases h
    rfl
  · rintro rfl
    exact .nil

theorem like_enclosed_iff :
    Like alike ('[' :: c :: ']' :: p) s ↔ ∃ d r, s = d :: r ∧ alike c d ∧ Like alike p r := by
  constructor
  · intro h
    cases h with
    | enclosed matched rest => exact ⟨_, _, rfl, matched, rest⟩
    | itself ordinary => exact absurd rfl (ordinary.2.2 c p rfl)
  · rintro ⟨d, r, rfl, matched, rest⟩
    exact .enclosed matched rest

theorem like_run_iff :
    Like alike ('%' :: p) s ↔ ∃ skipped r, s = skipped ++ r ∧ Like alike p r := by
  constructor
  · intro h
    cases h with
    | run skipped rest => exact ⟨skipped, _, rfl, rest⟩
    | itself ordinary => exact absurd rfl ordinary.1
  · rintro ⟨skipped, r, rfl, rest⟩
    exact .run skipped rest

theorem like_one_iff : Like alike ('_' :: p) s ↔ ∃ d r, s = d :: r ∧ Like alike p r := by
  constructor
  · intro h
    cases h with
    | one d rest => exact ⟨d, _, rfl, rest⟩
    | itself ordinary => exact absurd rfl ordinary.2.1
  · rintro ⟨d, r, rfl, rest⟩
    exact .one d rest

theorem like_itself_iff (ordinary : Ordinary c p) :
    Like alike (c :: p) s ↔ ∃ d r, s = d :: r ∧ alike c d ∧ Like alike p r := by
  constructor
  · intro h
    cases h with
    | enclosed => exact absurd rfl (ordinary.2.2 _ _ rfl)
    | run => exact absurd rfl ordinary.1
    | one => exact absurd rfl ordinary.2.1
    | itself _ matched rest => exact ⟨_, _, rfl, matched, rest⟩
  · rintro ⟨d, r, rfl, matched, rest⟩
    exact .itself ordinary matched rest

/-! ## Pieces -/

/-- Whether a place of a pattern can be this character. -/
def LikeStep.Fits (alike : Char → Char → Prop) : LikeStep → Char → Prop
  | .char c, d => alike c d
  | .any, _ => True

/-- The places of a piece can be the characters of a text. -/
abbrev PieceFits (alike : Char → Char → Prop) : List LikeStep → List Char → Prop :=
  Forall₂ (LikeStep.Fits alike)

/-- The pieces occur in turn, each behind a run of any characters, and the last one at the end. -/
def RunsThen (alike : Char → Char → Prop) : List (List LikeStep) → List Char → Prop
  | [], s => s = []
  | piece :: pieces, s => ∃ skipped t rest, s = skipped ++ (t ++ rest) ∧ PieceFits alike piece t ∧
      RunsThen alike pieces rest

/-- The text begins with the first piece of the pattern, and the later ones follow. -/
def LikePattern.Covers (alike : Char → Char → Prop) (p : LikePattern) (s : List Char) : Prop :=
  ∃ t rest, s = t ++ rest ∧ PieceFits alike p.first t ∧ RunsThen alike p.later rest

/-- More characters in front belong to the first run. -/
theorem RunsThen.prepend (more : List Char) (h : RunsThen alike (piece :: pieces) s) :
    RunsThen alike (piece :: pieces) (more ++ s) := by
  obtain ⟨skipped, t, rest, rfl, fits, later⟩ := h
  exact ⟨more ++ skipped, t, rest, (List.append_assoc _ _ _).symm, fits, later⟩

theorem dropThroughPiece?_of_some (h : dropPiece? same piece s = some rest) :
    dropThroughPiece? same piece s = some rest := by
  unfold dropThroughPiece?
  rw [h]

theorem dropThroughPiece?_nil_of_none (h : dropPiece? same piece [] = none) :
    dropThroughPiece? same piece [] = none := by
  unfold dropThroughPiece?
  rw [h]

theorem dropThroughPiece?_cons_of_none (h : dropPiece? same piece (d :: s) = none) :
    dropThroughPiece? same piece (d :: s) = dropThroughPiece? same piece s := by
  rw [dropThroughPiece?.eq_def]
  rw [h]

section Search

variable (decides : ∀ c d, same c d = true ↔ alike c d)
include decides

theorem dropPiece?_cons_iff {step : LikeStep} :
    dropPiece? same (step :: piece) (d :: s) = some rest ↔
      step.Fits alike d ∧ dropPiece? same piece s = some rest := by
  cases step with
  | char c =>
      rw [dropPiece?, LikeStep.Fits, ← decides]
      exact Option.ite_none_right_eq_some
  | any => exact ⟨fun h => ⟨trivial, h⟩, And.right⟩

/-- A piece is dropped from the beginning of a text if its places can be the characters there. -/
theorem dropPiece?_eq_some_iff :
    dropPiece? same piece s = some rest ↔ ∃ t, s = t ++ rest ∧ PieceFits alike piece t := by
  induction piece generalizing s with
  | nil =>
      constructor
      · intro h
        cases h
        exact ⟨[], rfl, .nil⟩
      · rintro ⟨t, rfl, fits⟩
        cases fits
        rfl
  | cons step steps ih =>
      cases s with
      | nil =>
          constructor
          · intro h
            cases step <;> cases h
          · rintro ⟨t, empty, fits⟩
            obtain ⟨rfl, -⟩ := List.append_eq_nil_iff.mp empty.symm
            cases fits
      | cons d s =>
          rw [dropPiece?_cons_iff decides, ih]
          constructor
          · rintro ⟨first, t, rfl, fits⟩
            exact ⟨d :: t, rfl, .cons first fits⟩
          · rintro ⟨t, split, fits⟩
            cases fits with
            | cons first fits =>
                cases split
                exact ⟨first, _, rfl, fits⟩

theorem dropPiece?_append (fits : PieceFits alike piece t) (rest : List Char) :
    dropPiece? same piece (t ++ rest) = some rest :=
  (dropPiece?_eq_some_iff decides).mpr ⟨t, rfl, fits⟩

/-- What the first place of a piece leaves was split off behind it. -/
theorem exists_of_dropThroughPiece? (h : dropThroughPiece? same piece s = some rest) :
    ∃ skipped t, s = skipped ++ (t ++ rest) ∧ PieceFits alike piece t := by
  induction s with
  | nil =>
      cases here : dropPiece? same piece [] with
      | none =>
          rw [dropThroughPiece?_nil_of_none here] at h
          cases h
      | some r =>
          cases (dropThroughPiece?_of_some here).symm.trans h
          obtain ⟨t, split, fits⟩ := (dropPiece?_eq_some_iff decides).mp here
          exact ⟨[], t, split, fits⟩
  | cons d s ih =>
      cases here : dropPiece? same piece (d :: s) with
      | none =>
          rw [dropThroughPiece?_cons_of_none here] at h
          obtain ⟨skipped, t, rfl, fits⟩ := ih h
          exact ⟨d :: skipped, t, rfl, fits⟩
      | some r =>
          cases (dropThroughPiece?_of_some here).symm.trans h
          obtain ⟨t, split, fits⟩ := (dropPiece?_eq_some_iff decides).mp here
          exact ⟨[], t, split, fits⟩

/-- No place of a piece is in front of the first one, so this leaves the most. -/
theorem dropThroughPiece?_of_fits (fits : PieceFits alike piece t) (skipped : List Char) :
    ∃ more, dropThroughPiece? same piece (skipped ++ (t ++ rest)) = some (more ++ rest) := by
  induction skipped with
  | nil => exact ⟨[], dropThroughPiece?_of_some (dropPiece?_append decides fits rest)⟩
  | cons d skipped ih =>
      cases here : dropPiece? same piece (d :: skipped ++ (t ++ rest)) with
      | none =>
          rw [List.cons_append] at here ⊢
          rw [dropThroughPiece?_cons_of_none here]
          exact ih
      | some r =>
          -- The piece occurs at once, in a text that is as long as the other one.
          obtain ⟨u, split, fits'⟩ := (dropPiece?_eq_some_iff decides).mp here
          have short : u.length ≤ (d :: skipped ++ t).length := by
            rw [← fits'.length_eq, fits.length_eq, List.length_append]
            exact Nat.le_add_left _ _
          rw [← List.append_assoc] at split
          obtain ⟨more, whole⟩ : u <+: d :: skipped ++ t :=
            List.prefix_of_prefix_length_le ⟨r, split.symm⟩ (List.prefix_append _ rest) short
          rw [← whole, List.append_assoc] at split
          refine ⟨more, ?_⟩
          rw [List.append_cancel_left split]
          exact dropThroughPiece?_of_some here

/-- Where each piece is looked for at its first place, the others are found if they can be. -/
theorem laterMatch_iff :
    laterMatch same (piece :: pieces) s = true ↔ RunsThen alike (piece :: pieces) s := by
  -- The induction is on the pieces that come behind; the last one is compared with the end of the
  -- text.
  induction pieces generalizing piece s with
  | nil =>
      rw [laterMatch, Bool.and_eq_true, decide_eq_true_eq, beq_iff_eq,
        dropPiece?_eq_some_iff decides]
      constructor
      · rintro ⟨-, t, split, fits⟩
        refine ⟨s.take (s.length - piece.length), t, [], ?_, fits, rfl⟩
        rw [← split, List.take_append_drop]
      · rintro ⟨skipped, t, rest, rfl, fits, rfl⟩
        have length := fits.length_eq
        have start : (skipped ++ (t ++ [])).length - piece.length = skipped.length := by
          rw [List.append_nil, List.length_append]
          omega
        rw [start, List.drop_left]
        refine ⟨?_, t, rfl, fits⟩
        rw [List.append_nil, List.length_append]
        omega
  | cons next pieces ih =>
      rw [laterMatch.eq_def]
      dsimp only
      constructor
      · intro h
        split at h
        · next rest found =>
            obtain ⟨skipped, t, rfl, fits⟩ := exists_of_dropThroughPiece? decides found
            exact ⟨skipped, t, rest, rfl, fits, ih.mp h⟩
        · cases h
      · rintro ⟨skipped, t, rest, rfl, fits, later⟩
        obtain ⟨more, found⟩ : ∃ more, dropThroughPiece? same _ (skipped ++ (t ++ rest)) =
            some (more ++ rest) := dropThroughPiece?_of_fits decides fits skipped
        rw [found]
        exact ih.mpr (later.prepend more)

/-- The behaviour of a pattern is that of its pieces. -/
theorem LikePattern.matches_iff {p : LikePattern} :
    p.matches same s = true ↔ p.Covers alike s := by
  obtain ⟨first, later⟩ := p
  -- What the later pieces say about the rest.
  have behind (rest : List Char) :
      (if later.isEmpty then rest.isEmpty else laterMatch same later rest) = true ↔
        RunsThen alike later rest := by
    cases later with
    | nil => exact List.isEmpty_iff
    | cons piece pieces => exact laterMatch_iff decides
  unfold LikePattern.matches LikePattern.Covers
  dsimp only
  constructor
  · intro h
    split at h
    · cases h
    · next rest dropped =>
        obtain ⟨t, rfl, fits⟩ := (dropPiece?_eq_some_iff decides).mp dropped
        exact ⟨t, rest, rfl, fits, (behind rest).mp h⟩
  · rintro ⟨t, rest, rfl, fits, later⟩
    rw [dropPiece?_append decides fits]
    exact (behind rest).mpr later

end Search

/-! ## Reading a pattern -/

namespace LikePattern

/-- The pattern with one more place in front of its first piece. -/
def behindStep (step : LikeStep) (p : LikePattern) : LikePattern := ⟨step :: p.first, p.later⟩

/-- The pattern with a run in front of it. -/
def behindRun (p : LikePattern) : LikePattern := ⟨[], p.first :: p.later⟩

theorem covers_nil_iff : (⟨[], []⟩ : LikePattern).Covers alike s ↔ s = [] := by
  constructor
  · rintro ⟨t, rest, rfl, fits, rfl⟩
    cases fits
    rfl
  · rintro rfl
    exact ⟨[], [], rfl, .nil, rfl⟩

theorem covers_behindStep_iff {step : LikeStep} {p : LikePattern} :
    (p.behindStep step).Covers alike s ↔
      ∃ d r, s = d :: r ∧ step.Fits alike d ∧ p.Covers alike r := by
  constructor
  · rintro ⟨t, rest, rfl, fits, later⟩
    cases fits with
    | @cons _ d _ t first fits => exact ⟨d, t ++ rest, rfl, first, t, rest, rfl, fits, later⟩
  · rintro ⟨d, r, rfl, first, t, rest, rfl, fits, later⟩
    exact ⟨d :: t, rest, rfl, .cons first fits, later⟩

theorem covers_behindRun_iff {p : LikePattern} :
    p.behindRun.Covers alike s ↔ ∃ skipped r, s = skipped ++ r ∧ p.Covers alike r := by
  constructor
  · rintro ⟨t, rest, rfl, fits, skipped, u, rest', rfl, fits', later⟩
    cases fits
    exact ⟨skipped, u ++ rest', rfl, u, rest', rfl, fits', later⟩
  · rintro ⟨skipped, r, rfl, t, rest, rfl, fits, later⟩
    exact ⟨[], _, rfl, .nil, skipped, t, rest, rfl, fits, later⟩

/-! ### What was read before -/

/-- The pattern behind the pieces that were read before, which stand in reverse, as does the
current one. -/
def behindPieces (piece : List LikeStep) : List (List LikeStep) → LikePattern → LikePattern
  | [], p => ⟨piece.reverse ++ p.first, p.later⟩
  | before :: pieces, p => behindPieces before pieces ⟨[], (piece.reverse ++ p.first) :: p.later⟩

theorem behindPieces_cons (step : LikeStep) (piece : List LikeStep)
    (pieces : List (List LikeStep)) (p : LikePattern) :
    behindPieces (step :: piece) pieces p = behindPieces piece pieces (p.behindStep step) := by
  cases pieces <;> simp [behindPieces, behindStep]

theorem toPieces_behindPieces (piece : List LikeStep) (pieces : List (List LikeStep))
    (p : LikePattern) :
    (behindPieces piece pieces p).first :: (behindPieces piece pieces p).later =
      (pieces.map List.reverse).reverse ++ (piece.reverse ++ p.first) :: p.later := by
  induction pieces generalizing piece p with
  | nil => rfl
  | cons before pieces ih =>
      rw [behindPieces, ih]
      simp

theorem ofPieces_eq (piece : List LikeStep) (pieces : List (List LikeStep)) :
    ofPieces piece pieces = behindPieces piece pieces ⟨[], []⟩ := by
  have all := toPieces_behindPieces piece pieces ⟨[], []⟩
  rw [List.append_nil, ← List.reverse_cons, ← List.map_cons] at all
  rw [ofPieces, ← all]

/-- The pattern of a text, wherever it is read, covers what is like the text. -/
theorem exists_readFrom (alike : Char → Char → Prop) (text : List Char) :
    ∃ p : LikePattern, (∀ piece pieces, readFrom piece pieces text = behindPieces piece pieces p) ∧
      ∀ s, p.Covers alike s ↔ Like alike text s := by
  -- One case for each clause of the reader, which adds one more step in front of the rest.
  refine readFrom.induct (motive := fun _ _ text => ∃ p : LikePattern,
    (∀ piece pieces, readFrom piece pieces text = behindPieces piece pieces p) ∧
      ∀ s, p.Covers alike s ↔ Like alike text s) ?enclosed ?run ?one ?itself ?nil [] [] text
  case enclosed =>
    rintro - - c rest ⟨p, reads, covers⟩
    refine ⟨p.behindStep (.char c), fun piece pieces => ?_, fun s => ?_⟩
    · rw [readFrom, reads, behindPieces_cons]
    · rw [covers_behindStep_iff, like_enclosed_iff]
      simp only [covers, LikeStep.Fits]
  case run =>
    rintro - - rest ⟨p, reads, covers⟩
    refine ⟨p.behindRun, fun piece pieces => ?_, fun s => ?_⟩
    · rw [readFrom, reads]
      rfl
    · rw [covers_behindRun_iff, like_run_iff]
      simp only [covers]
  case one =>
    rintro - - rest ⟨p, reads, covers⟩
    refine ⟨p.behindStep .any, fun piece pieces => ?_, fun s => ?_⟩
    · rw [readFrom, reads, behindPieces_cons]
    · rw [covers_behindStep_iff, like_one_iff]
      simp only [covers, LikeStep.Fits, true_and]
  case itself =>
    rintro - - c rest notEnclosed notRun notOne ⟨p, reads, covers⟩
    refine ⟨p.behindStep (.char c), fun piece pieces => ?_, fun s => ?_⟩
    · rw [readFrom.eq_4 piece pieces c rest notEnclosed notRun notOne, reads, behindPieces_cons]
    · rw [covers_behindStep_iff, like_itself_iff ⟨notRun, notOne, notEnclosed⟩]
      simp only [covers, LikeStep.Fits]
  case nil =>
    rintro - -
    exact ⟨⟨[], []⟩, ofPieces_eq, fun s => covers_nil_iff.trans like_nil_iff.symm⟩

theorem matches_ofText_iff (decides : ∀ c d, same c d = true ↔ alike c d) {text : List Char} :
    (ofText text).matches same s = true ↔ Like alike text s := by
  obtain ⟨p, reads, covers⟩ := exists_readFrom alike text
  have same : ofText text = p := (reads [] []).trans (by simp [behindPieces])
  rw [matches_iff decides, same, covers]

end LikePattern

end Rowwise.Text
