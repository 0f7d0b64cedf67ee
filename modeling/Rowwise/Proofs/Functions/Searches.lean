import Rowwise.Proofs.Functions.Durations
import Rowwise.Proofs.Text.Searching

/-!
# Searches that ignore case

What a string contains, starts or ends with exactly, it should also contain, start or end with up to
case.  The exact tests look at the string directly; those up to case look at occurrences from left
to right.  The first occurrence is enough for `contains` and `starts_with`.  But `ends_with` only
looks at successive occurrences, and the one at the end is not among them if one before it overlaps
it (`searches_ignoringCase`), which can be the case only if the text overlaps itself.  So `1000` does
not end with `00` as soon as case is ignored (`Sample.ending_missed`).
-/

namespace Rowwise

open Eval Functions Text

variable {ctx : TypingContext} {host : Host} {m : Moment} {x y z : Expr} {s t : String}

theorem Expr.yields_string (v : String) (span : Span) :
    (Expr.constant { span } (.string v)).Yields ctx host m .string v :=
  ⟨false, _, ⟨rfl, rfl⟩, Source.ends_ok_iff.mpr (Source.constant_holds v)⟩

namespace Functions

/-- What the modifier `i` asks for. -/
def ignoringCase : Modifiers := { ignoreCase := true }

/-! ## Calls -/

section Calls

variable {k : Kind} {name : String} {f : Function}
  {search : List Char → List Char → Eval Modifiers → Eval k.Carrier}
  {r : Except EvalError k.Carrier}

theorem accepts_kindOrMissing (k : Kind) (o : Bool) :
    (Matcher.kindOrMissing k).accepts (.of k o) = true := by
  cases k <;> cases o <;> rfl

variable (found : ctx.functions.get? name = some f)
  (only : f.overloads =
    [⟨searchParams, .propagateFrom k ["string", "search"], searchBuilder k search⟩])
  (hx : x.Yields ctx host m .string s) (hy : y.Yields ctx host m .string t)
include found only hx hy

/-- A search without modifiers. -/
theorem ends_search
    (answers : (search s.toList t.toList (Builder.readModifiers none)).Answers m r) (span : Span) :
    (Expr.callOf span name [x, y]).Ends ctx host m k r := by
  obtain ⟨o, g, compiles, holds⟩ := hx.exists_source
  obtain ⟨i, h, compiles', holds'⟩ := hy.exists_source
  have only : f.overloads = [⟨[stringParam "string", stringParam "search"] ++ [modifiersParam],
    .propagateFrom k ["string", "search"], searchBuilder k search⟩] := only
  refine ⟨_, _, Expr.compiles_callOf found only (by decide) (List.forall_mem_singleton.mpr rfl)
    (by decide) (.cons compiles (.cons compiles' .nil))
    (.cons (accepts_kindOrMissing _ o) (.cons (accepts_kindOrMissing _ i) .nil)) rfl rfl span, ?_⟩
  refine holds.ends_propagating holds' ?_
  exact (holds.map _).compute.bind ((holds'.map _).compute.bind answers)

/-- A search with a text of modifiers. -/
theorem ends_modifiedSearch {w : String} (hz : z.Yields ctx host m .string w)
    (answers : ∀ modifiers : Eval Modifiers, modifiers.Answers m (.ok (.ofText w.toList)) →
      (search s.toList t.toList modifiers).Answers m r) (span : Span) :
    (Expr.callOf span name [x, y, z]).Ends ctx host m k r := by
  obtain ⟨o, g, compiles, holds⟩ := hx.exists_source
  obtain ⟨i, h, compiles', holds'⟩ := hy.exists_source
  obtain ⟨j, l, compiles'', holds''⟩ := hz.exists_source
  have only : f.overloads = [⟨[stringParam "string", stringParam "search", modifiersParam] ++ [],
    .propagateFrom k ["string", "search"], searchBuilder k search⟩] := only
  refine ⟨_, _, Expr.compiles_callOf found only (by decide) (List.forall_mem_nil _) (by decide)
    (.cons compiles (.cons compiles' (.cons compiles'' .nil)))
    (.cons (accepts_kindOrMissing _ o) (.cons (accepts_kindOrMissing _ i)
      (.cons (accepts_kindOrMissing _ j) .nil))) rfl rfl span, ?_⟩
  refine holds.ends_propagating holds' ?_
  have read : (Builder.readModifiers (some l)).Answers m (.ok (.ofText w.toList)) :=
    holds''.value?.bind (answers_pure _)
  exact (holds.map _).compute.bind ((holds'.map _).compute.bind (answers _ read))

end Calls

/-! ## The tests -/

section Tests

variable {name : String} {plain : List Char → List Char → Bool}
  {modified : Modifiers → List Char → List Char → Bool}

/-- The library has the test, with these rules. -/
def IsTest (name : String) (plain : List Char → List Char → Bool)
    (modified : Modifiers → List Char → List Char → Bool) : Prop :=
  ∃ f, library.get? name = some f ∧ f.overloads =
    [⟨searchParams, .propagateFrom .boolean ["string", "search"], searchTest plain modified⟩]

theorem isTest_contains : IsTest "contains" contains fun m s t => (m.first s t).isSome :=
  ⟨_, library_get? (f := matching[0]) (by simp [builtIns, matching]), rfl⟩

theorem isTest_startsWith : IsTest "starts_with" startsWith fun m s t => m.first s t == some 0 :=
  ⟨_, library_get? (f := matching[1]) (by simp [builtIns, matching]), rfl⟩

theorem isTest_endsWith : IsTest "ends_with" endsWith occursAtEnd :=
  ⟨_, library_get? (f := matching[2]) (by simp [builtIns, matching]), rfl⟩

variable (test : IsTest name plain modified) (functions : ctx.functions = library)
  (hx : x.Yields ctx host m .string s) (hy : y.Yields ctx host m .string t)
include test functions hx hy

/-- Without modifiers, the texts are compared exactly. -/
theorem IsTest.yields_plain (span : Span) :
    (Expr.callOf span name [x, y]).Yields ctx host m .boolean (plain s.toList t.toList) := by
  obtain ⟨f, found, only⟩ := test
  rw [← functions] at found
  exact ends_search found only hx hy (answers_pure _) span

/-- Where case is ignored, the occurrences decide, unless the text to search for is too large. -/
theorem IsTest.ends_ignoringCase (hz : z.Yields ctx host m .string "i") (span : Span) :
    (Expr.callOf span name [x, y, z]).Ends ctx host m .boolean
      (if (Regex.Expression.ofText ignoringCase t.toList).fits then
        .ok (modified ignoringCase s.toList t.toList) else .error (.failure .searchTooLarge)) := by
  obtain ⟨f, found, only⟩ := test
  rw [← functions] at found
  refine ends_modifiedSearch found only hx hy hz (fun modifiers read => read.bind ?_) span
  change (checkSearch ignoringCase t.toList >>= fun _ => _).Answers m _
  unfold checkSearch
  split
  · exact (answers_pure ()).bind (answers_pure _)
  · exact (answers_fail _).bind_error _

end Tests

/-! ## The end -/

/-- The occurrence at the end is found unless a successive one before it overlaps it. -/
theorem occursAtEnd_iff {m : Modifiers} {s t : List Char} (words : m.wholeWords = false)
    (ends : endsWith s t = true) :
    occursAtEnd m s t = true ↔ ∀ p ∈ m.occurrences s t, p < s.length - t.length →
      p + t.length ≤ s.length - t.length := by
  obtain ⟨fits, exact⟩ := endsWith_iff.mp ends
  have last (p : ℕ) : p + t.length = s.length ↔ p = s.length - t.length := by omega
  unfold occursAtEnd
  simp only [List.any_eq_true, beq_iff_eq, last, exists_eq_right]
  exact Modifiers.mem_occurrences_iff words exact.of_exact

/-- A text that does not overlap itself is found at the end. -/
theorem occursAtEnd_of_not_overlaps {m : Modifiers} {s t : List Char}
    (words : m.wholeWords = false) (ends : endsWith s t = true) (apart : ∀ k, ¬ m.Overlaps t k) :
    occursAtEnd m s t = true := by
  refine (occursAtEnd_iff words ends).mpr fun p found less => ?_
  by_contra inside
  obtain ⟨-, exact⟩ := endsWith_iff.mp ends
  have occurs := (Modifiers.occurrences_successive words s t).occurs p found
  exact apart _ (Modifiers.overlaps_of_occursAt occurs exact.of_exact less (not_le.mp inside))

/-- Where `contains` and `starts_with` are TRUE, they are TRUE if case is ignored; where `ends_with`
is, it is if and only if no successive occurrence overlaps the one at the end, and always for a text
that does not overlap itself.  A text to search for that is too large is an error instead. -/
theorem searches_ignoringCase (functions : ctx.functions = library)
    (hx : x.Yields ctx host m .string s) (hy : y.Yields ctx host m .string t)
    (hz : z.Yields ctx host m .string "i") (span : Span) :
    ((Regex.Expression.ofText ignoringCase t.toList).fits = true →
      ((Expr.callOf span "contains" [x, y]).Yields ctx host m .boolean true →
        (Expr.callOf span "contains" [x, y, z]).Yields ctx host m .boolean true) ∧
      ((Expr.callOf span "starts_with" [x, y]).Yields ctx host m .boolean true →
        (Expr.callOf span "starts_with" [x, y, z]).Yields ctx host m .boolean true) ∧
      ((Expr.callOf span "ends_with" [x, y]).Yields ctx host m .boolean true →
        ∃ b, (Expr.callOf span "ends_with" [x, y, z]).Yields ctx host m .boolean b ∧
          (b = true ↔ ∀ p ∈ ignoringCase.occurrences s.toList t.toList,
            p < s.toList.length - t.toList.length →
              p + t.toList.length ≤ s.toList.length - t.toList.length) ∧
          ((∀ k, ¬ ignoringCase.Overlaps t.toList k) → b = true))) ∧
    ((Regex.Expression.ofText ignoringCase t.toList).fits = false →
      ∀ name ∈ ["contains", "starts_with", "ends_with"],
        (Expr.callOf span name [x, y, z]).Ends ctx host m .boolean
          (.error (.failure .searchTooLarge))) := by
  have words : ignoringCase.wholeWords = false := rfl
  have containing := isTest_contains.ends_ignoringCase functions hx hy hz span
  have starting := isTest_startsWith.ends_ignoringCase functions hx hy hz span
  have ending := isTest_endsWith.ends_ignoringCase functions hx hy hz span
  constructor
  · intro fits
    rw [if_pos fits] at containing starting ending
    refine ⟨fun exact => ?_, fun exact => ?_, fun exact => ?_⟩
    · have plain := (isTest_contains.yields_plain functions hx hy span).unique exact
      obtain ⟨p, occurs⟩ := contains_iff.mp plain
      rwa [(Modifiers.first_isSome_iff words).mpr ⟨p, occurs.of_exact⟩] at containing
    · have plain := (isTest_startsWith.yields_plain functions hx hy span).unique exact
      have least : IsLeast {k | ignoringCase.OccursAt s.toList t.toList k} 0 :=
        ⟨(startsWith_iff.mp plain).of_exact, fun k _ => Nat.zero_le k⟩
      rwa [(Modifiers.first_eq_some_iff words).mpr least] at starting
    · have plain := (isTest_endsWith.yields_plain functions hx hy span).unique exact
      exact ⟨_, ending, occursAtEnd_iff words plain, occursAtEnd_of_not_overlaps words plain⟩
  · intro large
    rw [if_neg (Bool.eq_false_iff.mp large)] at containing starting ending
    exact List.forall_mem_cons.mpr ⟨containing,
      List.forall_mem_cons.mpr ⟨starting, List.forall_mem_singleton.mpr ending⟩⟩

end Functions

namespace Sample

/-- A call of a test with strings. -/
def searchOf (name : String) (strings : List String) : Expr :=
  .callOf {} name (strings.map fun s => .constant {} (.string s))

/-- `100` contains and ends with `00`, also if case is ignored. -/
theorem zeros_found :
    (searchOf "contains" ["100", "00", "i"]).Yields amounts amountHost ⟨0, default⟩ .boolean true ∧
      (searchOf "ends_with" ["100", "00", "i"]).Yields amounts amountHost ⟨0, default⟩ .boolean
        true := by
  have functions : amounts.functions = library := rfl
  have string : Expr.Yields amounts amountHost ⟨0, default⟩ _ .string "100" :=
    Expr.yields_string "100" {}
  have search : Expr.Yields amounts amountHost ⟨0, default⟩ _ .string "00" :=
    Expr.yields_string "00" {}
  have contained := isTest_contains.yields_plain functions string search {}
  have ended := isTest_endsWith.yields_plain functions string search {}
  obtain ⟨contains, -, ends⟩ := (searches_ignoringCase functions string search
    (Expr.yields_string "i" {}) {}).1 (by decide +kernel)
  obtain ⟨b, yields, found, -⟩ := ends ended
  obtain rfl : b = true := found.mpr (by decide +kernel)
  exact ⟨contains contained, yields⟩

/-- `1000` ends with `00`, but not if case is ignored: the first two of the three zeros are an
occurrence, which the one at the end overlaps. -/
theorem ending_missed :
    (searchOf "ends_with" ["1000", "00"]).Yields amounts amountHost ⟨0, default⟩ .boolean true ∧
      (searchOf "ends_with" ["1000", "00", "i"]).Yields amounts amountHost ⟨0, default⟩ .boolean
        false ∧
      ¬(searchOf "ends_with" ["1000", "00", "i"]).Yields amounts amountHost ⟨0, default⟩ .boolean
        true := by
  have functions : amounts.functions = library := rfl
  have string : Expr.Yields amounts amountHost ⟨0, default⟩ _ .string "1000" :=
    Expr.yields_string "1000" {}
  have search : Expr.Yields amounts amountHost ⟨0, default⟩ _ .string "00" :=
    Expr.yields_string "00" {}
  have fits : (Regex.Expression.ofText ignoringCase "00".toList).fits = true := by decide +kernel
  have missed := isTest_endsWith.ends_ignoringCase functions string search
    (Expr.yields_string "i" {}) {}
  rw [if_pos fits] at missed
  have no : occursAtEnd ignoringCase "1000".toList "00".toList = false := by decide +kernel
  rw [no] at missed
  refine ⟨isTest_endsWith.yields_plain functions string search {}, missed, fun right => ?_⟩
  exact absurd (missed.unique right) (by decide)

end Sample

end Rowwise
