import Mathlib.Data.List.Infix
import Mathlib.Data.List.Pairwise
import Mathlib.Order.Bounds.Basic
import Rowwise.Text.Search

/-!
# Where a text occurs

`Modifiers.OccursAt` says that a text occurs at a position: from there on the characters are those
of the text, after folding all of them if case is ignored.  Boundaries of words are left out here.

A search goes through the positions from left to right.  The first occurrence is the least position
where the text occurs (`first_eq_some_iff`).  Successive occurrences leave out those that begin
inside of the one before.  `Successive` says what they are from any position on, and
`occurrencesFrom_successive` follows the scan: a position that is passed is one of them, or nothing
occurs there, or the last one covers it.  In particular an occurrence that is left out begins inside
of one that is not.
-/

namespace Rowwise.Text

variable {m : Modifiers} {s t : List Char} {c : Char} {p q : ℕ}

namespace Modifiers

/-! ## Occurrences -/

/-- The form of a character that is compared. -/
def key (m : Modifiers) (c : Char) : Char := if m.ignoreCase then foldChar c else c

theorem same_iff (a b : Char) : m.same a b = true ↔ m.key a = m.key b := by
  unfold same key sameUpToCase
  split <;> exact beq_iff_eq

/-- Without modifiers, characters are compared as they are. -/
theorem map_key_exact (u : List Char) : u.map ({} : Modifiers).key = u := List.map_id u

/-- From the position on, the characters of `s` begin with those of `t`. -/
def OccursAt (m : Modifiers) (s t : List Char) (p : ℕ) : Prop :=
  ∃ front, front.length = p ∧ front ++ t.map m.key <+: s.map m.key

theorem occursAt_zero_iff : m.OccursAt s t 0 ↔ t.map m.key <+: s.map m.key := by
  constructor
  · rintro ⟨front, empty, begins⟩
    obtain rfl := List.length_eq_zero_iff.mp empty
    exact begins
  · exact fun begins => ⟨[], rfl, begins⟩

theorem occursAt_cons_succ_iff : m.OccursAt (c :: s) t (p + 1) ↔ m.OccursAt s t p := by
  constructor
  · rintro ⟨_ | ⟨_, front⟩, length, begins⟩
    · cases length
    · rw [List.map_cons, List.cons_append, List.cons_prefix_cons] at begins
      exact ⟨front, Nat.succ.inj length, begins.2⟩
  · rintro ⟨front, rfl, begins⟩
    exact ⟨m.key c :: front, rfl, List.cons_prefix_cons.mpr ⟨rfl, begins⟩⟩

theorem occursAt_nil_succ : ¬ m.OccursAt [] t (p + 1) := by
  rintro ⟨_ | ⟨_, front⟩, length, begins⟩
  · cases length
  · cases List.prefix_nil.mp begins

/-- A text that is not empty occurs exactly where the rest of the string begins with it. -/
theorem occursAt_exact_iff (given : t ≠ []) :
    ({} : Modifiers).OccursAt s t p ↔ t <+: s.drop p := by
  constructor
  · rintro ⟨front, rfl, begins⟩
    rw [map_key_exact, map_key_exact] at begins
    have rest := begins.drop front.length
    rwa [List.drop_left] at rest
  · intro begins
    have inside : p < s.length := by
      by_contra beyond
      rw [List.drop_eq_nil_of_le (not_lt.mp beyond)] at begins
      exact given (List.prefix_nil.mp begins)
    refine ⟨s.take p, by simp only [List.length_take]; omega, ?_⟩
    rw [map_key_exact, map_key_exact]
    have whole := (List.prefix_append_right_inj (s.take p)).mpr begins
    rwa [List.take_append_drop] at whole

/-- What occurs exactly also occurs up to case. -/
theorem OccursAt.of_exact (h : ({} : Modifiers).OccursAt s t p) : m.OccursAt s t p := by
  obtain ⟨front, rfl, begins⟩ := h
  rw [map_key_exact, map_key_exact] at begins
  have folded := begins.map m.key
  rw [List.map_append] at folded
  exact ⟨_, List.length_map m.key, folded⟩

theorem dropPrefix?_isSome :
    (dropPrefix? m.same s t).isSome = true ↔ t.map m.key <+: s.map m.key := by
  induction s generalizing t with
  | nil =>
      cases t with
      | nil => simp [dropPrefix?]
      | cons d t => simp [dropPrefix?]
  | cons c s ih =>
      cases t with
      | nil => simp [dropPrefix?]
      | cons d t =>
          rw [dropPrefix?, List.map_cons, List.map_cons, List.cons_prefix_cons, ← ih,
            @eq_comm _ (m.key d), ← same_iff]
          split
          · next same => simp [same]
          · next other => simp [other]

theorem occursHere_iff (words : m.wholeWords = false) (before : Option Char) :
    m.occursHere t before s = true ↔ m.OccursAt s t 0 := by
  rw [occursAt_zero_iff, ← dropPrefix?_isSome, occursHere, words]
  split
  · next none => simp [none]
  · next rest some => simp [some]

/-! ## The first occurrence -/

/-- A position in front of which the text does not occur is passed. -/
theorem isLeast_succ (no : ¬ m.OccursAt (c :: s) t 0) (least : IsLeast {k | m.OccursAt s t k} p) :
    IsLeast {k | m.OccursAt (c :: s) t k} (p + 1) := by
  refine ⟨occursAt_cons_succ_iff.mpr least.1, ?_⟩
  rintro (_ | k) occurs
  · exact absurd occurs no
  · exact Nat.succ_le_succ (least.2 (occursAt_cons_succ_iff.mp occurs))

theorem isLeast_of_firstFrom (words : m.wholeWords = false) {before : Option Char}
    {position : ℕ} (h : m.firstFrom t before position s = some p) :
    ∃ k, p = position + k ∧ IsLeast {k | m.OccursAt s t k} k := by
  fun_induction Modifiers.firstFrom m t before position s with
  | case1 s before position here =>
      cases h
      exact ⟨0, rfl, (occursHere_iff words before).mp here, fun k _ => Nat.zero_le k⟩
  | case2 => cases h
  | case3 before position c s away ih =>
      obtain ⟨k, rfl, least⟩ := ih h
      have no : ¬ m.OccursAt (c :: s) t 0 := mt (occursHere_iff words before).mpr away
      exact ⟨k + 1, by omega, isLeast_succ no least⟩

theorem not_occursAt_of_firstFrom (words : m.wholeWords = false) {before : Option Char}
    {position : ℕ} (h : m.firstFrom t before position s = none) (k : ℕ) :
    ¬ m.OccursAt s t k := by
  fun_induction Modifiers.firstFrom m t before position s generalizing k with
  | case1 => cases h
  | case2 before position away =>
      cases k with
      | zero => exact mt (occursHere_iff words before).mpr away
      | succ k => exact occursAt_nil_succ
  | case3 before position c s away ih =>
      cases k with
      | zero => exact mt (occursHere_iff words before).mpr away
      | succ k => exact mt occursAt_cons_succ_iff.mp (ih h k)

/-- The first occurrence is the least one. -/
theorem first_eq_some_iff (words : m.wholeWords = false) :
    m.first s t = some p ↔ IsLeast {k | m.OccursAt s t k} p := by
  constructor
  · intro h
    obtain ⟨k, rfl, least⟩ := isLeast_of_firstFrom words h
    rwa [Nat.zero_add]
  · intro least
    cases h : m.first s t with
    | none => exact absurd least.1 (not_occursAt_of_firstFrom words h p)
    | some q =>
        obtain ⟨k, rfl, first⟩ := isLeast_of_firstFrom words h
        rw [Nat.zero_add, first.unique least]

theorem first_isSome_iff (words : m.wholeWords = false) :
    (m.first s t).isSome = true ↔ ∃ p, m.OccursAt s t p := by
  constructor
  · intro h
    obtain ⟨p, found⟩ := Option.isSome_iff_exists.mp h
    exact ⟨p, ((first_eq_some_iff words).mp found).1⟩
  · rintro ⟨p, occurs⟩
    by_contra none
    rw [Option.not_isSome_iff_eq_none] at none
    exact not_occursAt_of_firstFrom words none p occurs

/-! ## Successive occurrences -/

/-- These are the successive occurrences from position `wait` on: none overlaps the one before, and
what else occurs begins inside of one of them. -/
structure Successive (m : Modifiers) (s t : List Char) (wait : ℕ) (found : List ℕ) : Prop where
  occurs : ∀ p ∈ found, m.OccursAt s t p
  waits : ∀ p ∈ found, wait ≤ p
  apart : found.Pairwise fun p q => p + t.length ≤ q
  covered : ∀ p, m.OccursAt s t p → wait ≤ p →
    p ∈ found ∨ ∃ q ∈ found, q < p ∧ p < q + t.length

section Steps

variable {wait : ℕ} {found : List ℕ}

/-- A position is passed if nothing occurs there or the search waits. -/
theorem Successive.pass (h : m.Successive s t (wait - 1) found)
    (skips : m.OccursAt (c :: s) t 0 → 0 < wait) :
    m.Successive (c :: s) t wait (found.map (· + 1)) where
  occurs := List.forall_mem_map.mpr fun p hp => occursAt_cons_succ_iff.mpr (h.occurs p hp)
  waits := List.forall_mem_map.mpr fun p hp => by
    have := h.waits p hp
    omega
  apart := List.pairwise_map.mpr (h.apart.imp fun bound => by omega)
  covered := by
    rintro (_ | p) occurs waits
    · exact absurd (skips occurs) (by omega)
    · rcases h.covered p (occursAt_cons_succ_iff.mp occurs) (by omega) with mem | ⟨q, mem, inside⟩
      · exact .inl (List.mem_map_of_mem mem)
      · exact .inr ⟨q + 1, List.mem_map_of_mem mem, by omega⟩

/-- After an occurrence the search waits until that is over. -/
theorem Successive.find (h : m.Successive s t (t.length - 1) found)
    (here : m.OccursAt (c :: s) t 0) :
    m.Successive (c :: s) t 0 (0 :: found.map (· + 1)) where
  occurs := List.forall_mem_cons.mpr
    ⟨here, List.forall_mem_map.mpr fun p hp => occursAt_cons_succ_iff.mpr (h.occurs p hp)⟩
  waits p _ := Nat.zero_le p
  apart := by
    refine List.pairwise_cons.mpr ⟨List.forall_mem_map.mpr fun p hp => ?_, ?_⟩
    · have := h.waits p hp
      omega
    · exact List.pairwise_map.mpr (h.apart.imp fun bound => by omega)
  covered := by
    rintro (_ | p) occurs -
    · exact .inl (.head _)
    by_cases waits : t.length - 1 ≤ p
    · rcases h.covered p (occursAt_cons_succ_iff.mp occurs) waits with mem | ⟨q, mem, inside⟩
      · exact .inl (.tail _ (List.mem_map_of_mem mem))
      · exact .inr ⟨q + 1, .tail _ (List.mem_map_of_mem mem), by omega⟩
    · -- What begins while the search waits begins inside of this occurrence.
      exact .inr ⟨0, .head _, by omega⟩

theorem successive_nil (away : m.OccursAt [] t 0 → 0 < wait) : m.Successive [] t wait [] where
  occurs := List.forall_mem_nil _
  waits := List.forall_mem_nil _
  apart := .nil
  covered := by
    rintro (_ | p) occurs waits
    · exact absurd (away occurs) (by omega)
    · exact absurd occurs occursAt_nil_succ

theorem successive_nil_singleton (here : m.OccursAt [] t 0) : m.Successive [] t 0 [0] where
  occurs := List.forall_mem_singleton.mpr here
  waits p _ := Nat.zero_le p
  apart := List.pairwise_singleton _ _
  covered := by
    rintro (_ | p) occurs -
    · exact .inl (.head _)
    · exact absurd occurs occursAt_nil_succ

end Steps

/-- The scan goes on to the successive occurrences from where it does not wait any longer. -/
theorem occurrencesFrom_successive (words : m.wholeWords = false) (before : Option Char)
    (position wait : ℕ) (done : List ℕ) :
    ∃ found, m.occurrencesFrom t before position wait done s =
        done.reverse ++ found.map (position + ·) ∧ m.Successive s t wait found := by
  have shift (position : ℕ) (found : List ℕ) :
      (found.map (· + 1)).map (position + ·) = found.map (position + 1 + ·) := by
    rw [List.map_map]
    exact List.map_congr_left fun k _ => by simp only [Function.comp_apply]; omega
  -- The induction follows the text, and each step passes a position or finds an occurrence there.
  induction s generalizing before position wait done with
  | nil =>
      cases wait with
      | zero =>
          rw [occurrencesFrom]
          by_cases here : m.occursHere t before [] = true
          · refine ⟨[0], ?_, successive_nil_singleton ((occursHere_iff words before).mp here)⟩
            rw [if_pos here]
            simp
          · refine ⟨[], ?_, successive_nil fun occurs =>
              absurd ((occursHere_iff words before).mpr occurs) here⟩
            rw [if_neg here]
            simp
      | succ wait => exact ⟨[], by simp [occurrencesFrom], successive_nil fun _ => wait.succ_pos⟩
  | cons c s ih =>
      cases wait with
      | zero =>
          rw [occurrencesFrom]
          by_cases here : m.occursHere t before (c :: s) = true
          · obtain ⟨found, run, successive⟩ :=
              ih (some c) (position + 1) (t.length - 1) (position :: done)
            refine ⟨0 :: found.map (· + 1), ?_,
              successive.find ((occursHere_iff words before).mp here)⟩
            rw [if_pos here, if_pos here, run, List.map_cons, shift]
            simp
          · obtain ⟨found, run, successive⟩ := ih (some c) (position + 1) 0 done
            refine ⟨found.map (· + 1), ?_, successive.pass fun occurs =>
              absurd ((occursHere_iff words before).mpr occurs) here⟩
            rw [if_neg here, if_neg here, run, shift]
      | succ wait =>
          obtain ⟨found, run, successive⟩ := ih (some c) (position + 1) wait done
          refine ⟨found.map (· + 1), ?_, successive.pass fun _ => wait.succ_pos⟩
          rw [occurrencesFrom, run, shift]

theorem occurrences_successive (words : m.wholeWords = false) (s t : List Char) :
    m.Successive s t 0 (m.occurrences s t) := by
  obtain ⟨found, run, successive⟩ := occurrencesFrom_successive (s := s) (t := t) words none 0 0 []
  have same : m.occurrences s t = found := by
    rw [occurrences, run]
    simp
  exact same ▸ successive

/-- What occurs is left out exactly if a successive occurrence covers its beginning. -/
theorem mem_occurrences_iff (words : m.wholeWords = false) (occurs : m.OccursAt s t p) :
    p ∈ m.occurrences s t ↔ ∀ q ∈ m.occurrences s t, q < p → q + t.length ≤ p := by
  have successive := occurrences_successive words s t
  constructor
  · intro mem q hq less
    have symm : Std.Symm fun p q => p + t.length ≤ q ∨ q + t.length ≤ p := ⟨fun _ _ => Or.symm⟩
    have apart : (m.occurrences s t).Pairwise fun p q => p + t.length ≤ q ∨ q + t.length ≤ p :=
      successive.apart.imp .inl
    have order := apart.forall hq mem less.ne
    omega
  · intro clear
    refine (successive.covered p occurs (Nat.zero_le p)).resolve_right ?_
    rintro ⟨q, hq, less, inside⟩
    exact absurd (clear q hq less) (by omega)

theorem occurrencesFrom_backwards (b : Bool) (before : Option Char) (position wait : ℕ)
    (done : List ℕ) :
    ({ m with backwards := b } : Modifiers).occurrencesFrom t before position wait done s =
      m.occurrencesFrom t before position wait done s := by
  have here (before : Option Char) (s : List Char) :
      ({ m with backwards := b } : Modifiers).occursHere t before s = m.occursHere t before s := rfl
  induction s generalizing before position wait done with
  | nil => cases wait <;> simp only [occurrencesFrom, here]
  | cons c s ih => cases wait <;> simp only [occurrencesFrom, here, ih]

/-- Where a text occurs does not depend on which way the search goes. -/
theorem occurrences_backwards (b : Bool) :
    ({ m with backwards := b } : Modifiers).occurrences s t = m.occurrences s t :=
  occurrencesFrom_backwards b none 0 0 []

/-! ## The last successive occurrence -/

section Last

variable {wait : ℕ} {found : List ℕ}

/-- No successive occurrence stands behind the last one. -/
theorem Successive.le_getLast (h : m.Successive s t wait found) (last : found.getLast? = some q) :
    ∀ p ∈ found, p ≤ q := by
  obtain ⟨front, rfl⟩ := List.getLast?_eq_some_iff.mp last
  intro p hp
  rcases List.mem_append.mp hp with before | here
  · have apart := (List.pairwise_append.mp h.apart).2.2 p before q (List.mem_singleton_self q)
    omega
  · exact (List.mem_singleton.mp here).le

/-- What occurs begins in front of the last successive occurrence or inside of it. -/
theorem Successive.lt_getLast_add (h : m.Successive s t wait found)
    (last : found.getLast? = some q) (given : t ≠ []) (occurs : m.OccursAt s t p)
    (waits : wait ≤ p) : p < q + t.length := by
  have length : 0 < t.length := List.length_pos_iff.mpr given
  rcases h.covered p occurs waits with mem | ⟨k, mem, _, inside⟩
  · have := h.le_getLast last p mem
    omega
  · have := h.le_getLast last k mem
    omega

end Last

theorem getLast?_occurrences_eq_none_iff (words : m.wholeWords = false) :
    (m.occurrences s t).getLast? = none ↔ ∀ p, ¬ m.OccursAt s t p := by
  rw [List.getLast?_eq_none_iff]
  have successive := occurrences_successive words s t
  constructor
  · intro empty p occurs
    rw [empty] at successive
    rcases successive.covered p occurs (Nat.zero_le p) with mem | ⟨q, mem, _⟩
    · cases mem
    · cases mem
  · intro nowhere
    refine List.eq_nil_iff_forall_not_mem.mpr fun p mem => ?_
    exact nowhere p (successive.occurs p mem)

/-- The text is found in itself when it is moved by so many characters, so that two occurrences of
it can overlap. -/
def Overlaps (m : Modifiers) (t : List Char) (k : ℕ) : Prop :=
  0 < k ∧ k < t.length ∧ (t.map m.key).drop k <+: t.map m.key

theorem overlaps_of_occursAt (hp : m.OccursAt s t p) (hq : m.OccursAt s t q) (less : p < q)
    (inside : q < p + t.length) : m.Overlaps t (q - p) := by
  obtain ⟨front, rfl, begins⟩ := hp
  obtain ⟨front', rfl, begins'⟩ := hq
  have shifted := begins.drop front'.length
  have here := begins'.drop front'.length
  rw [List.drop_append, List.drop_eq_nil_of_le less.le, List.nil_append] at shifted
  rw [List.drop_left] at here
  refine ⟨by omega, by omega, List.prefix_of_prefix_length_le shifted here ?_⟩
  rw [List.length_drop]
  omega

end Modifiers

/-! ## Plain searches -/

open Modifiers

theorem startsWith_iff : startsWith s t = true ↔ ({} : Modifiers).OccursAt s t 0 := by
  rw [occursAt_zero_iff, map_key_exact, map_key_exact, startsWith, List.isPrefixOf_iff_prefix]

theorem contains_iff : contains s t = true ↔ ∃ p, ({} : Modifiers).OccursAt s t p := by
  induction s with
  | nil =>
      rw [contains, Bool.or_false, startsWith_iff]
      constructor
      · exact fun h => ⟨0, h⟩
      · rintro ⟨_ | p, occurs⟩
        · exact occurs
        · exact absurd occurs occursAt_nil_succ
  | cons c s ih =>
      rw [contains, Bool.or_eq_true, startsWith_iff, ih]
      constructor
      · rintro (first | ⟨p, occurs⟩)
        · exact ⟨0, first⟩
        · exact ⟨p + 1, occursAt_cons_succ_iff.mpr occurs⟩
      · rintro ⟨_ | p, occurs⟩
        · exact .inl occurs
        · exact .inr ⟨p, occursAt_cons_succ_iff.mp occurs⟩

theorem endsWith_iff : endsWith s t = true ↔
    t.length ≤ s.length ∧ ({} : Modifiers).OccursAt s t (s.length - t.length) := by
  rw [endsWith, List.isSuffixOf_iff_suffix]
  constructor
  · rintro ⟨front, rfl⟩
    refine ⟨by simp, front, by simp, ?_⟩
    rw [map_key_exact, map_key_exact]
  · rintro ⟨fits, front, length, begins⟩
    rw [map_key_exact, map_key_exact] at begins
    refine ⟨front, begins.eq_of_length ?_⟩
    rw [List.length_append]
    omega

end Rowwise.Text
