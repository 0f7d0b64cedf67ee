import Rowwise.Proofs.Functions.Searches

/-!
# Searches for a position

`find` answers the position of a text in a string, counted from 1, or 0 if the string does not
contain it.  A place of the text is a position from which on the string begins with it
(`StandsAt`).  A search forwards answers the least place.

A search backwards goes through the string from left to right as well: it answers the last of the
successive occurrences, which do not overlap.  So it arrives at the greatest place or at one that
overlaps this (`LastFound`), and for a text that overlaps itself that can be another one: backwards,
`aa` is found at the beginning of `aaa` (`Sample.end_overlooked`).
-/

namespace Rowwise

open Eval Functions Text

variable {ctx : TypingContext} {host : Host} {m : Moment} {x y z : Expr}

namespace Functions

/-! ## Positions -/

section Positions

variable {s t : List Char} {p first last : ℕ}

/-- From the position on, counted from 1, the characters of the string begin with those of the
text. -/
def StandsAt (s t : List Char) (p : ℕ) : Prop := 0 < p ∧ t <+: s.drop (p - 1)

/-- What a search backwards arrives at: a place of the text in whose characters, or in front of
which, all other places begin.  It is the last place of all exactly if no successive occurrence
overlaps that one. -/
structure LastFound (s t : List Char) (last : ℕ) : Prop where
  stands : StandsAt s t last
  covers : ∀ p, StandsAt s t p → p < last + t.length
  greatest_iff : ∀ greatest, IsGreatest {p | StandsAt s t p} greatest →
    (last = greatest ↔
      ∀ p ∈ ({} : Modifiers).occurrences s t, p + 1 < greatest → p + 1 + t.length ≤ greatest)
  greatest_of_not_overlaps : (∀ k, ¬ ({} : Modifiers).Overlaps t k) →
    IsGreatest {p | StandsAt s t p} last

theorem standsAt_succ_iff (given : t ≠ []) :
    StandsAt s t (p + 1) ↔ ({} : Modifiers).OccursAt s t p := by
  rw [Modifiers.occursAt_exact_iff given, StandsAt, Nat.add_sub_cancel]
  exact and_iff_right p.succ_pos

theorem StandsAt.exists_occursAt (given : t ≠ []) (stands : StandsAt s t p) :
    ∃ q, p = q + 1 ∧ ({} : Modifiers).OccursAt s t q := by
  obtain ⟨q, rfl⟩ := Nat.exists_eq_add_one.mpr stands.1
  exact ⟨q, rfl, (standsAt_succ_iff given).mp stands⟩

/-- A text stands inside of the string. -/
theorem StandsAt.add_length_le (given : t ≠ []) (stands : StandsAt s t p) :
    p + t.length ≤ s.length + 1 := by
  have room := stands.2.length_le
  have := List.length_pos_iff.mpr given
  rw [List.length_drop] at room
  omega

/-- The first occurrence is the least place. -/
theorem isLeast_standsAt (given : t ≠ [])
    (h : IsLeast {k | ({} : Modifiers).OccursAt s t k} p) :
    IsLeast {p | StandsAt s t p} (p + 1) := by
  refine ⟨(standsAt_succ_iff given).mpr h.1, fun k stands => ?_⟩
  obtain ⟨q, rfl, occurs⟩ := StandsAt.exists_occursAt given stands
  exact Nat.succ_le_succ (h.2 occurs)

/-- The last successive occurrence is what a search backwards arrives at. -/
theorem lastFound_of_getLast? (given : t ≠ [])
    (h : (({} : Modifiers).occurrences s t).getLast? = some p) : LastFound s t (p + 1) := by
  have words : ({} : Modifiers).wholeWords = false := rfl
  have successive := Modifiers.occurrences_successive words s t
  have here := successive.occurs p (List.mem_of_getLast? h)
  have stands : StandsAt s t (p + 1) := (standsAt_succ_iff given).mpr here
  have covers (k : ℕ) (hk : StandsAt s t k) : k < p + 1 + t.length := by
    obtain ⟨q, rfl, occurs⟩ := hk.exists_occursAt given
    have := successive.lt_getLast_add h given occurs (Nat.zero_le q)
    omega
  refine ⟨stands, covers, fun greatest isGreatest => ?_, fun apart => ⟨stands, fun k hk => ?_⟩⟩
  · obtain ⟨g, rfl, occurs⟩ := StandsAt.exists_occursAt given isGreatest.1
    have bound := isGreatest.2 stands
    have inside := covers (g + 1) isGreatest.1
    constructor
    · intro same q mem less
      obtain rfl : p = g := Nat.succ.inj same
      have := (Modifiers.mem_occurrences_iff words occurs).mp (List.mem_of_getLast? h) q mem
      omega
    · intro clear
      -- Otherwise the last successive occurrence would be one that overlaps the greatest.
      by_contra other
      have less : p + 1 < g + 1 := lt_of_le_of_ne bound other
      have := clear p (List.mem_of_getLast? h) less
      omega
  · by_contra beyond
    obtain ⟨q, rfl, occurs⟩ := StandsAt.exists_occursAt given hk
    have less : p < q := by omega
    have inside := covers (q + 1) hk
    exact apart _ (Modifiers.overlaps_of_occursAt here occurs less (by omega))

end Positions

/-! ## The function -/

section Find

variable {s t : String}

theorem exists_find : ∃ f, library.get? "find" = some f ∧ f.overloads =
    [⟨searchParams, .propagateFrom .integer ["string", "search"],
      searchBuilder .integer fun s search modifiers => do
        let m ← modifiers
        checkSearch m search
        pure (findIn s search m)⟩] :=
  ⟨_, library_get? (f := slicing[3]) (by simp [builtIns, slicing]), rfl⟩

/-- What the modifier `b` asks for. -/
def searchingBackwards : Modifiers := { backwards := true }

/-- A search for the position of a text that is too large fails. -/
theorem answers_find (w : Modifiers) (s t : List Char) {modifiers : Eval Modifiers}
    (read : modifiers.Answers m (.ok w)) :
    (do
      let w ← modifiers
      checkSearch w t
      pure (findIn s t w) : Eval Int64).Answers m
      (if (Regex.Expression.ofText w t).fits then .ok (findIn s t w)
        else .error (.failure .searchTooLarge)) := by
  refine read.bind ?_
  unfold checkSearch
  split
  · exact (answers_pure ()).bind (answers_pure _)
  · exact (answers_fail _).bind_error _

/-- A search forwards finds the least place. -/
theorem findIn_forwards {s t : List Char} (given : t ≠ []) :
    ((∀ p, ¬ StandsAt s t p) → findIn s t {} = 0) ∧
      ((∃ p, StandsAt s t p) →
        ∃ first, findIn s t {} = Int64.ofNat first ∧ IsLeast {p | StandsAt s t p} first) := by
  have words : ({} : Modifiers).wholeWords = false := rfl
  unfold findIn
  rw [if_neg Bool.false_ne_true]
  cases h : ({} : Modifiers).first s t with
  | none =>
      have nowhere : ∀ p, ¬ ({} : Modifiers).OccursAt s t p := by
        intro p occurs
        have := (Modifiers.first_isSome_iff words).mpr ⟨p, occurs⟩
        rw [h] at this
        cases this
      refine ⟨fun _ => rfl, fun ⟨p, stands⟩ => ?_⟩
      obtain ⟨q, -, occurs⟩ := stands.exists_occursAt given
      exact absurd occurs (nowhere q)
  | some p =>
      have least := isLeast_standsAt given ((Modifiers.first_eq_some_iff words).mp h)
      exact ⟨fun nowhere => absurd least.1 (nowhere _), fun _ => ⟨_, rfl, least⟩⟩

/-- A search backwards finds the last successive occurrence. -/
theorem findIn_backwards {s t : List Char} (given : t ≠ []) :
    ((∀ p, ¬ StandsAt s t p) → findIn s t searchingBackwards = 0) ∧
      ((∃ p, StandsAt s t p) →
        ∃ last, findIn s t searchingBackwards = Int64.ofNat last ∧ LastFound s t last) := by
  have words : ({} : Modifiers).wholeWords = false := rfl
  have exactly : searchingBackwards.occurrences s t = ({} : Modifiers).occurrences s t :=
    Modifiers.occurrences_backwards (m := {}) true
  have backwards : searchingBackwards.backwards = true := rfl
  unfold findIn
  rw [if_pos backwards, exactly]
  cases h : (({} : Modifiers).occurrences s t).getLast? with
  | none =>
      have nowhere := (Modifiers.getLast?_occurrences_eq_none_iff words).mp h
      refine ⟨fun _ => rfl, fun ⟨p, stands⟩ => ?_⟩
      obtain ⟨q, -, occurs⟩ := stands.exists_occursAt given
      exact absurd occurs (nowhere q)
  | some p =>
      have last := lastFound_of_getLast? given h
      exact ⟨fun nowhere => absurd last.stands (nowhere _), fun _ => ⟨_, rfl, last⟩⟩

variable (functions : ctx.functions = library) (hx : x.Yields ctx host m .string s)
  (hy : y.Yields ctx host m .string t)
include functions hx hy

theorem ends_find (span : Span) :
    (Expr.callOf span "find" [x, y]).Ends ctx host m .integer
      (if (Regex.Expression.ofText {} t.toList).fits then .ok (findIn s.toList t.toList {})
        else .error (.failure .searchTooLarge)) := by
  obtain ⟨f, found, only⟩ := exists_find
  rw [← functions] at found
  exact ends_search found only hx hy (answers_find {} _ _ (answers_pure _)) span

theorem ends_findBackwards (hz : z.Yields ctx host m .string "b") (span : Span) :
    (Expr.callOf span "find" [x, y, z]).Ends ctx host m .integer
      (if (Regex.Expression.ofText {} t.toList).fits then
        .ok (findIn s.toList t.toList searchingBackwards)
        else .error (.failure .searchTooLarge)) := by
  obtain ⟨f, found, only⟩ := exists_find
  rw [← functions] at found
  exact ends_modifiedSearch found only hx hy hz
    (fun _ read => answers_find searchingBackwards _ _ read) span

/-- A position is 0 if the string does not contain the text.  Otherwise a search forwards answers
the least place of the text, and one backwards the last of the successive occurrences.  A text that
is too large is an error instead. -/
theorem places_found (hz : z.Yields ctx host m .string "b") (given : t.toList ≠ [])
    (span : Span) :
    ∃ contained : Bool, (Expr.callOf span "contains" [x, y]).Yields ctx host m .boolean contained ∧
      (contained = true ↔ ∃ p, StandsAt s.toList t.toList p) ∧
      ((Regex.Expression.ofText {} t.toList).fits = true →
        (contained = false →
          (Expr.callOf span "find" [x, y]).Yields ctx host m .integer 0 ∧
          (Expr.callOf span "find" [x, y, z]).Yields ctx host m .integer 0) ∧
        (contained = true → ∃ first last : ℕ,
          (Expr.callOf span "find" [x, y]).Yields ctx host m .integer (.ofNat first) ∧
          (Expr.callOf span "find" [x, y, z]).Yields ctx host m .integer (.ofNat last) ∧
          IsLeast {p | StandsAt s.toList t.toList p} first ∧
          LastFound s.toList t.toList last ∧
          (s.toList.length < 2 ^ 63 →
            (Int64.ofNat first).toInt = first ∧ (Int64.ofNat last).toInt = last))) ∧
      ((Regex.Expression.ofText {} t.toList).fits = false →
        (Expr.callOf span "find" [x, y]).Ends ctx host m .integer
          (.error (.failure .searchTooLarge)) ∧
        (Expr.callOf span "find" [x, y, z]).Ends ctx host m .integer
          (.error (.failure .searchTooLarge))) := by
  have forwards := ends_find functions hx hy span
  have backwards := ends_findBackwards functions hx hy hz span
  have contained_iff : contains s.toList t.toList = true ↔ ∃ p, StandsAt s.toList t.toList p := by
    rw [contains_iff]
    constructor
    · rintro ⟨p, occurs⟩
      exact ⟨p + 1, (standsAt_succ_iff given).mpr occurs⟩
    · rintro ⟨p, stands⟩
      obtain ⟨q, -, occurs⟩ := stands.exists_occursAt given
      exact ⟨q, occurs⟩
  refine ⟨_, isTest_contains.yields_plain functions hx hy span, contained_iff, ?_, ?_⟩
  · intro fits
    rw [if_pos fits] at forwards backwards
    obtain ⟨nowhere, somewhere⟩ := findIn_forwards (s := s.toList) given
    obtain ⟨nowhere', somewhere'⟩ := findIn_backwards (s := s.toList) given
    constructor
    · intro without
      have none : ∀ p, ¬ StandsAt s.toList t.toList p := by
        intro p stands
        exact Bool.eq_false_iff.mp without (contained_iff.mpr ⟨p, stands⟩)
      rw [nowhere none] at forwards
      rw [nowhere' none] at backwards
      exact ⟨forwards, backwards⟩
    · intro contained
      obtain ⟨first, same, least⟩ := somewhere (contained_iff.mp contained)
      obtain ⟨last, same', found⟩ := somewhere' (contained_iff.mp contained)
      rw [same] at forwards
      rw [same'] at backwards
      refine ⟨first, last, forwards, backwards, least, found, fun short => ?_⟩
      have word {p : ℕ} (stands : StandsAt s.toList t.toList p) : (Int64.ofNat p).toInt = p := by
        have := stands.add_length_le given
        have := List.length_pos_iff.mpr given
        exact Int64.toInt_ofNat_of_lt (by omega)
      exact ⟨word least.1, word found.stands⟩
  · intro large
    rw [if_neg (Bool.eq_false_iff.mp large)] at forwards backwards
    exact ⟨forwards, backwards⟩

end Find

end Functions

namespace Sample

theorem text_yields (text : String) : (Expr.constant {} (.string text)).Yields amounts amountHost
    ⟨0, default⟩ .string text := Expr.yields_string text {}

/-- The text `ab` stands at 1 and at 4 in `ab ab`, which the searches from both ends find. -/
theorem both_ends_found :
    (searchOf "find" ["ab ab", "ab"]).Yields amounts amountHost ⟨0, default⟩ .integer 1 ∧
      (searchOf "find" ["ab ab", "ab", "b"]).Yields amounts amountHost ⟨0, default⟩ .integer 4 := by
  have functions : amounts.functions = library := rfl
  obtain ⟨contained, yields, contained_iff, fits, -⟩ := places_found functions
    (text_yields "ab ab") (text_yields "ab") (text_yields "b") (by decide) {}
  have stands : StandsAt "ab ab".toList "ab".toList 1 := ⟨Nat.one_pos, by decide⟩
  have stands' : StandsAt "ab ab".toList "ab".toList 4 := ⟨Nat.succ_pos 3, by decide⟩
  have apart : ∀ k, ¬ ({} : Modifiers).Overlaps "ab".toList k := by
    rintro k ⟨low, high, overlaps⟩
    obtain rfl : k = 1 := by
      have : "ab".toList.length = 2 := rfl
      omega
    revert overlaps
    decide
  obtain ⟨first, last, forwards, backwards, least, found, -⟩ :=
    (fits (by decide +kernel)).2 (contained_iff.mpr ⟨1, stands⟩)
  have first_eq : first = 1 := le_antisymm (least.2 stands) least.1.1
  have last_eq : last = 4 := by
    have greatest := found.greatest_of_not_overlaps apart
    exact le_antisymm (Nat.le_of_add_le_add_right (greatest.1.add_length_le (by decide)))
      (greatest.2 stands')
  subst first_eq last_eq
  exact ⟨forwards, backwards⟩

/-- The last two letters of `aaa` are `aa`, but what is found backwards is the first two: they are
an occurrence, which the one at the end overlaps. -/
theorem end_overlooked :
    (searchOf "find" ["aaa", "aa", "b"]).Yields amounts amountHost ⟨0, default⟩ .integer 1 ∧
      IsGreatest {p | StandsAt "aaa".toList "aa".toList p} 2 ∧
      ¬(searchOf "find" ["aaa", "aa", "b"]).Yields amounts amountHost ⟨0, default⟩ .integer 2 := by
  have functions : amounts.functions = library := rfl
  have found := ends_findBackwards functions (text_yields "aaa") (text_yields "aa")
    (text_yields "b") {}
  have fits : (Regex.Expression.ofText {} "aa".toList).fits = true := by decide +kernel
  have one : findIn "aaa".toList "aa".toList searchingBackwards = 1 := by decide +kernel
  rw [if_pos fits, one] at found
  refine ⟨found, ⟨⟨Nat.succ_pos 1, by decide⟩, fun p stands => ?_⟩, fun right => ?_⟩
  · exact Nat.le_of_add_le_add_right (stands.add_length_le (by decide))
  · exact absurd (found.unique right) (by decide)

end Sample

end Rowwise
