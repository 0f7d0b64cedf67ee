import Rowwise.Expr.Reader

/-!
# Readers go forward

A cursor that stands in a source has counted the bytes of the part behind it, so its offset is one
between two characters.  No reader leaves the source or goes back: `Reader.Covers` is the contract
that a reader keeps which begins at the offset `lo`, about the offset where it ends and what it has
found on the way.  Of what is found again and again each find lies behind the one before
(`covers_many`).
-/

namespace Rowwise

variable {source : String}

/-! ## Places in a source -/

/-- An offset at which a character of the source begins, or at which it ends. -/
def IsBoundary (source : String) (offset : Nat) : Prop :=
  (⟨offset⟩ : String.Pos.Raw).IsValid source

theorem IsBoundary.le {n : Nat} (h : IsBoundary source n) :
    n ≤ source.utf8ByteSize := String.Pos.Raw.IsValid.le_rawEndPos h

namespace Cursor

/-- The cursor stands in the source, behind a part of it whose bytes it has counted. -/
def In (source : String) (c : Cursor) : Prop :=
  ∃ front, source.toList = front ++ c.rest ∧ c.offset = (String.ofList front).utf8ByteSize

variable {c : Cursor}

theorem in_start (source : String) : In source ⟨0, source.toList⟩ := ⟨[], rfl, rfl⟩

theorem In.isBoundary (h : c.In source) : IsBoundary source c.offset := by
  obtain ⟨front, whole, bytes⟩ := h
  refine String.Pos.Raw.isValid_iff_exists_append.mpr
    ⟨String.ofList front, String.ofList c.rest, ?_, ?_⟩
  · rw [← String.ofList_append, ← whole, String.ofList_toList]
  · rw [bytes]
    rfl

theorem In.next {a : Char} {d : Cursor} (h : c.In source) (step : c.next = some (a, d)) :
    d.In source ∧ c.offset < d.offset := by
  obtain ⟨front, whole, bytes⟩ := h
  unfold Cursor.next at step
  split at step
  · cases step
  · next b rest hrest =>
      cases step
      refine ⟨⟨front ++ [a], ?_, ?_⟩, ?_⟩
      · simp [whole, hrest]
      · simp [bytes]
      · have := Char.utf8Size_pos a
        simp only
        omega

theorem In.advance (h : c.In source) (n : Nat) :
    (c.advance n).In source ∧ c.offset ≤ (c.advance n).offset := by
  induction n generalizing c with
  | zero => exact ⟨h, Nat.le_refl _⟩
  | succ n ih =>
      rw [Cursor.advance]
      cases step : c.next with
      | none => exact ⟨h, Nat.le_refl _⟩
      | some found =>
          obtain ⟨here, further⟩ := h.next step
          obtain ⟨there, beyond⟩ := ih here
          exact ⟨there, Nat.le_trans (Nat.le_of_lt further) beyond⟩

theorem In.advance_pos (h : c.In source) {n : Nat} (pos : 0 < n) (more : c.rest ≠ []) :
    c.offset < (c.advance n).offset := by
  cases n with
  | zero => exact absurd pos (Nat.lt_irrefl 0)
  | succ n =>
      cases step : c.next with
      | none =>
          unfold Cursor.next at step
          split at step
          · next none => exact absurd none more
          · cases step
      | some found =>
          obtain ⟨here, further⟩ := h.next step
          have beyond := (here.advance n).2
          rw [Cursor.advance, step]
          exact Nat.lt_of_lt_of_le further beyond

end Cursor

/-! ## Readers go forward -/

/-- Things that were found one behind the other from the offset `lo` to the offset `hi`. -/
inductive InTurn {α : Type} (P : Nat → Nat → α → Prop) : Nat → Nat → List α → Prop where
  | nil {lo hi : Nat} (le : lo ≤ hi) : InTurn P lo hi []
  | cons {lo mid hi : Nat} {a : α} {as : List α} (first : P lo mid a) (rest : InTurn P mid hi as) :
      InTurn P lo hi (a :: as)

namespace Reader

variable {α β : Type} {lo : Nat} {P : Nat → α → Prop} {Q : Nat → β → Prop}

/-- Begun at the offset `lo` of the source, the reader ends at an offset that is not before it, and
`P` holds of that offset and of what it has found. -/
def Covers (source : String) (lo : Nat) (r : Reader α) (P : Nat → α → Prop) : Prop :=
  ∀ c a after, c.In source → c.offset = lo → r c = .ok a after →
    after.In source ∧ lo ≤ after.offset ∧ P after.offset a

/-- The reader goes forward, or stays where it is. -/
abbrev Advances (source : String) (lo : Nat) (r : Reader α) : Prop :=
  r.Covers source lo fun _ _ => True

/-- The reader takes at least one character. -/
abbrev Consumes (source : String) (lo : Nat) (r : Reader α) : Prop :=
  r.Covers source lo fun hi _ => lo < hi

theorem Covers.weaken {r : Reader α} {P' : Nat → α → Prop} (h : r.Covers source lo P)
    (le : ∀ hi a, lo ≤ hi → P hi a → P' hi a) : r.Covers source lo P' := by
  rintro c a after here rfl read
  obtain ⟨there, further, found⟩ := h c a after here rfl read
  exact ⟨there, further, le _ _ further found⟩

theorem Covers.advances {r : Reader α} (h : r.Covers source lo P) : r.Advances source lo :=
  h.weaken fun _ _ _ _ => trivial

theorem covers_pure {a : α} (h : P lo a) : (pure a : Reader α).Covers source lo P := by
  rintro c b after here rfl read
  cases read
  exact ⟨here, Nat.le_refl _, h⟩

theorem covers_failed : (failed : Reader α).Covers source lo P := fun _ _ _ _ _ h => nomatch h

theorem covers_offset :
    offset.Covers source lo fun hi n => hi = lo ∧ n = lo ∧ IsBoundary source lo := by
  rintro c n after here rfl read
  cases read
  exact ⟨here, Nat.le_refl _, rfl, rfl, here.isBoundary⟩

/-- What is read second begins where the first reader has ended. -/
theorem Covers.bind {r : Reader α} {f : α → Reader β} (hr : r.Covers source lo P)
    (hf : ∀ mid a, lo ≤ mid → P mid a → (f a).Covers source mid Q) :
    (r >>= f).Covers source lo Q := by
  rintro c b after here rfl read
  simp only [Bind.bind] at read
  cases first : r c with
  | ok a d =>
      rw [first] at read
      obtain ⟨there, further, found⟩ := hr c a d here rfl first
      obtain ⟨end_, beyond, found⟩ := hf d.offset a further found d b after there rfl read
      exact ⟨end_, Nat.le_trans further beyond, found⟩
  | retry issue place =>
      rw [first] at read
      cases read
  | stop issue place =>
      rw [first] at read
      cases read

/-- A sequence takes a character if its first part does. -/
theorem Covers.consumes_bind {r : Reader α} {f : α → Reader β} (hr : r.Consumes source lo)
    (hf : ∀ mid a, (f a).Advances source mid) : (r >>= f).Consumes source lo :=
  hr.bind fun mid a _ pos => (hf mid a).weaken fun _ _ further _ => Nat.lt_of_lt_of_le pos further

/-- So does one whose second part does. -/
theorem Covers.consumes_then {r : Reader α} {f : α → Reader β} (hr : r.Advances source lo)
    (hf : ∀ {mid} a, (f a).Consumes source mid) : (r >>= f).Consumes source lo :=
  hr.bind fun _ a further _ => (hf a).weaken fun _ _ _ pos => Nat.lt_of_le_of_lt further pos

theorem Covers.required {r : Reader α} (h : r.Covers source lo P) :
    (required r).Covers source lo P := by
  rintro c a after here rfl read
  unfold Reader.required at read
  split at read
  · cases read
  · exact h c a after here rfl read

theorem Covers.expecting {r : Reader α} {e : Expectation} (h : r.Covers source lo P) :
    (expecting e r).Covers source lo P := by
  rintro c a after here rfl read
  unfold Reader.expecting at read
  dsimp only at read
  split at read
  · next b d found =>
      cases read
      exact h c a after here rfl found
  · cases read
  · cases read

theorem Covers.orElse {r s : Reader α} (hr : r.Covers source lo P) (hs : s.Covers source lo P) :
    (orElse r s).Covers source lo P := by
  rintro c a after here rfl read
  unfold Reader.orElse at read
  split at read
  · exact hs c a after here rfl read
  · exact hr c a after here rfl read

theorem covers_choice : ∀ {rs : List (Reader α)}, (∀ r ∈ rs, r.Covers source lo P) →
    (choice rs).Covers source lo P
  | [], _ => covers_failed
  | [_], h => h _ (.head _)
  | _ :: _ :: _, h =>
      (h _ (.head _)).orElse (covers_choice fun s hs => h s (.tail _ hs))

theorem Covers.optional {r : Reader α} (h : r.Covers source lo P) :
    (optional r).Covers source lo fun hi found => ∀ a, found = some a → P hi a := by
  rintro c o after here rfl read
  unfold Reader.optional at read
  split at read
  · next b d found =>
      cases read
      obtain ⟨there, further, holds⟩ := h c b _ here rfl found
      refine ⟨there, further, fun a ha => ?_⟩
      cases ha
      exact holds
  · cases read
    exact ⟨here, Nat.le_refl _, fun a ha => nomatch ha⟩
  · cases read

/-- Nothing is read by looking ahead. -/
theorem advances_notAhead (r : Reader α) : (notAhead r).Advances source lo := by
  rintro c a after here rfl read
  unfold notAhead at read
  split at read
  · cases read
  · cases read
    exact ⟨here, Nat.le_refl _, trivial⟩
  · cases read

theorem advances_ahead (r : Reader α) : (ahead r).Advances source lo := by
  rintro c a after here rfl read
  unfold ahead at read
  split at read
  · cases read
    exact ⟨here, Nat.le_refl _, trivial⟩
  · cases read
  · cases read

/-- A conversion does not change where a reader ends. -/
theorem Covers.converted {f : α → Except String β} {r : Reader α} {P : Nat → Prop}
    (h : r.Covers source lo fun hi _ => P hi) :
    (converted f r).Covers source lo fun hi _ => P hi := by
  rintro c b after here rfl read
  unfold Reader.converted at read
  split at read
  · next a d found =>
      split at read
      · cases read
        exact h c a after here rfl found
      · cases read
  · cases read
  · cases read

/-! ## Characters -/

theorem consumes_satisfying (p : Char → Bool) : (satisfying p).Consumes source lo := by
  rintro c a after here rfl read
  unfold satisfying at read
  split at read
  · next b d step =>
      obtain ⟨there, further⟩ := here.next step
      split at read
      · cases read
        exact ⟨there, Nat.le_of_lt further, further⟩
      · cases read
  · cases read

theorem consumes_character (a : Char) : (character a).Consumes source lo := consumes_satisfying _

theorem advances_run (p : Char → Bool) : (run p).Advances source lo := by
  rintro c found after here rfl read
  cases read
  obtain ⟨there, further⟩ := here.advance (c.rest.takeWhile p).length
  exact ⟨there, further, trivial⟩

theorem consumes_run1 (p : Char → Bool) : (run1 p).Consumes source lo := by
  rintro c found after here rfl read
  unfold run1 at read
  dsimp only at read
  split at read
  · cases read
  · next some =>
      cases read
      obtain ⟨there, further⟩ := here.advance (c.rest.takeWhile p).length
      have more : c.rest ≠ [] := by
        intro none
        simp [none] at some
      have pos : 0 < (c.rest.takeWhile p).length :=
        List.length_pos_iff.mpr fun none => some (List.isEmpty_iff.mpr none)
      exact ⟨there, further, here.advance_pos pos more⟩

theorem consumes_literal {text : String} (some : text.toList ≠ []) :
    (literal text).Consumes source lo := by
  rintro c u after here rfl read
  unfold literal at read
  split at read
  · next fits =>
      cases read
      obtain ⟨there, further⟩ := here.advance text.length
      have more : c.rest ≠ [] := by
        intro none
        rw [none, List.isPrefixOf_iff_prefix, List.prefix_nil] at fits
        exact some fits
      have pos : 0 < text.length := by
        rw [← String.length_toList]
        exact List.length_pos_iff.mpr some
      exact ⟨there, further, here.advance_pos pos more⟩
  · cases read

theorem advances_atEnd : atEnd.Advances source lo := by
  rintro c u after here rfl read
  unfold atEnd at read
  split at read
  · cases read
    exact ⟨here, Nat.le_refl _, trivial⟩
  · cases read

/-! ## Repetition -/

theorem covers_manyWithin {r : Reader α} {P : Nat → Nat → α → Prop}
    (h : ∀ lo, r.Covers source lo (P lo)) (fuel : Nat) :
    ∀ lo, (manyWithin r fuel).Covers source lo (InTurn P lo) := by
  induction fuel with
  | zero => exact fun lo => covers_pure (.nil (Nat.le_refl lo))
  | succ fuel ih =>
      rintro _ c as after here rfl read
      rw [manyWithin] at read
      dsimp only at read
      split at read
      · next a d first =>
          obtain ⟨there, further, found⟩ := h _ c a d here rfl first
          split at read
          · next as' d' others =>
              cases read
              obtain ⟨end_, beyond, turn⟩ := ih d.offset d as' _ there rfl others
              exact ⟨end_, Nat.le_trans further beyond, .cons found turn⟩
          · cases read
          · cases read
      · cases read
        exact ⟨here, Nat.le_refl _, .nil (Nat.le_refl _)⟩
      · cases read

/-- What is found again and again is found in turn. -/
theorem covers_many {r : Reader α} {P : Nat → Nat → α → Prop}
    (h : ∀ lo, r.Covers source lo (P lo)) : (many r).Covers source lo (InTurn P lo) :=
  fun c => covers_manyWithin h c.rest.length lo c

theorem covers_separatedBy {separator : Reader β} {r : Reader α} {P : Nat → Nat → α → Prop}
    (h : ∀ lo, r.Covers source lo (P lo))
    (next : ∀ lo, Covers source lo (do let _ ← separator; r) (P lo)) :
    (separatedBy separator r).Covers source lo (InTurn P lo) := by
  rintro c as after here rfl read
  unfold separatedBy at read
  split at read
  · next a d first =>
      obtain ⟨there, further, found⟩ := h _ c a d here rfl first
      split at read
      · next as' d' others =>
          cases read
          obtain ⟨end_, beyond, turn⟩ := covers_many next d as' _ there rfl others
          exact ⟨end_, Nat.le_trans further beyond, .cons found turn⟩
      · cases read
      · cases read
  · cases read
    exact ⟨here, Nat.le_refl _, .nil (Nat.le_refl _)⟩
  · cases read

end Reader

end Rowwise
