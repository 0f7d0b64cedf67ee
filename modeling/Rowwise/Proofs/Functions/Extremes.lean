import Rowwise.Proofs.Functions.Durations
import Rowwise.Proofs.Numbers.Widening

/-!
# Extremes of integer arguments and their positions

The greatest and the least of integers are found among the words themselves, but their positions
among the floats that they are widened to.  A scan with a strict comparison stays at the first of
the best entries (`FirstBest.append_worse`, `FirstBest.append_better`), and widening keeps the order,
so the position is that of the first argument which is widened to the same float as the extreme
(`Functions.FirstAlike`).  This is the extreme itself unless another integer, which falls together
with it, stands in front of it (`Functions.FirstAlike.firstAt_iff`); among integers of at most 53
bits no two fall together.
-/

namespace Rowwise

open Eval FloatMath Functions

/-! ## The first of the best entries -/

section FirstBest

variable {α β : Type} {key : α → ℤ} {xs : List α} {i : ℕ} {a x : α}

/-- The entry at the position is greater than all before it, and not less than those after it. -/
def FirstBest (key : α → ℤ) (xs : List α) (i : ℕ) (a : α) : Prop :=
  ∃ before after, xs = before ++ a :: after ∧ before.length = i ∧
    (∀ b ∈ before, key b < key a) ∧ ∀ b ∈ after, key b ≤ key a

theorem firstBest_singleton (key : α → ℤ) (a : α) : FirstBest key [a] 0 a :=
  ⟨[], [], rfl, rfl, List.forall_mem_nil _, List.forall_mem_nil _⟩

theorem FirstBest.mem (h : FirstBest key xs i a) : a ∈ xs := by
  obtain ⟨before, after, rfl, -⟩ := h
  exact List.mem_append_right _ (.head _)

theorem FirstBest.le (h : FirstBest key xs i a) : ∀ b ∈ xs, key b ≤ key a := by
  obtain ⟨before, after, rfl, -, less, bound⟩ := h
  exact List.forall_mem_append.mpr ⟨fun b hb => (less b hb).le,
    List.forall_mem_cons.mpr ⟨le_rfl, bound⟩⟩

theorem FirstBest.append_better (h : FirstBest key xs i a) (better : key a < key x) :
    FirstBest key (xs ++ [x]) xs.length x :=
  ⟨xs, [], rfl, rfl, fun b hb => (h.le b hb).trans_lt better, List.forall_mem_nil _⟩

theorem FirstBest.append_worse (h : FirstBest key xs i a) (worse : key x ≤ key a) :
    FirstBest key (xs ++ [x]) i a := by
  obtain ⟨before, after, rfl, length, less, bound⟩ := h
  refine ⟨before, after ++ [x], by simp, length, less, ?_⟩
  exact List.forall_mem_append.mpr ⟨bound, List.forall_mem_singleton.mpr worse⟩

theorem FirstBest.of_map {key : β → ℤ} {f : α → β} {b : β} (h : FirstBest key (xs.map f) i b) :
    ∃ a, f a = b ∧ FirstBest (fun a => key (f a)) xs i a := by
  obtain ⟨before, after, split, length, less, bound⟩ := h
  obtain ⟨front, rest, rfl, rfl, tail⟩ := List.map_eq_append_iff.mp split
  obtain ⟨a, back, rfl, rfl, rfl⟩ := List.map_eq_cons_iff.mp tail
  exact ⟨a, rfl, front, back, rfl, by simpa using length, by simpa using less, by simpa using bound⟩

end FirstBest

/-! ## The scan -/

section Scan

variable {key : Float → ℤ} {better : Float → Float → Bool} {done rest : List Float} {i : ℕ}
  {a : Float}

/-- From the first of the best entries so far, the scan goes on to that of all. -/
theorem searchExtreme_firstBest (h : FirstBest key done i a)
    (numbers : ∀ x ∈ rest, x.isNaN = false)
    (keyed : ∀ x ∈ done ++ rest, ∀ y ∈ done ++ rest, better x y = true ↔ key y < key x) :
    ∃ j b, searchExtreme better a (i + 1) (done.length + 1) rest = j + 1 ∧
      FirstBest key (done ++ rest) j b := by
  induction rest generalizing done i a with
  | nil => exact ⟨i, a, rfl, by rwa [List.append_nil]⟩
  | cons x rest ih =>
      obtain ⟨number, numbers⟩ := List.forall_mem_cons.mp numbers
      have member : x ∈ done ++ x :: rest := List.mem_append_right _ (.head _)
      have decides := keyed x member a (List.mem_append_left _ h.mem)
      have split : done ++ x :: rest = done ++ [x] ++ rest := by simp
      have count : done.length + 1 = (done ++ [x]).length := by simp
      rw [split] at keyed ⊢
      rw [searchExtreme, number, if_neg Bool.false_ne_true]
      by_cases isBetter : better x a = true
      · rw [if_pos isBetter, count]
        have next := ih (h.append_better (decides.mp isBetter)) numbers keyed
        rwa [← count] at next ⊢
      · rw [if_neg isBetter, count]
        exact ih (h.append_worse (not_lt.mp fun less => isBetter (decides.mpr less))) numbers keyed

theorem positionOfExtreme_firstBest {xs : List Float} (given : xs ≠ [])
    (numbers : ∀ x ∈ xs, x.isNaN = false)
    (keyed : ∀ x ∈ xs, ∀ y ∈ xs, better x y = true ↔ key y < key x) :
    ∃ i b, positionOfExtreme better xs = Int64.ofNat (i + 1) ∧ FirstBest key xs i b := by
  cases xs with
  | nil => exact absurd rfl given
  | cons x xs =>
      obtain ⟨number, numbers⟩ := List.forall_mem_cons.mp numbers
      -- The first entry is compared with itself, and not better.
      have same : ¬ better x x = true := fun h => lt_irrefl _ ((keyed x (.head _) x (.head _)).mp h)
      obtain ⟨i, b, found, best⟩ := searchExtreme_firstBest (firstBest_singleton key x) numbers
        keyed
      refine ⟨i, b, ?_, best⟩
      rw [positionOfExtreme, searchExtreme, number, if_neg Bool.false_ne_true, if_neg same]
      exact congrArg Int64.ofNat found

end Scan

/-! ## Widening -/

namespace Integer

/-- The place of an integer among the floats. -/
def widenedKey (n : Int64) : ℤ := totalKey (toFloat n)

variable {n k : Int64}

/-- Floats that come from integers are ordered by their keys, since none is negative zero. -/
theorem toFloat_lt_iff : toFloat n < toFloat k ↔ widenedKey n < widenedKey k := by
  rw [lt_iff_number (isNaN_toFloat n) (isNaN_toFloat k), widenedKey, widenedKey,
    totalKey_lt_iff (isNaN_toFloat n) (isNaN_toFloat k)]
  exact ⟨.inl, fun h => h.resolve_right fun zero => toFloat_ne_negativeZero n zero.2.1⟩

theorem widenedKey_mono (h : n ≤ k) : widenedKey n ≤ widenedKey k := by
  have ordered := real_toFloat_mono (Int64.le_iff_toInt_le.mp h)
  refine not_lt.mp fun turned => ?_
  rw [← toFloat_lt_iff, lt_iff_number (isNaN_toFloat k) (isNaN_toFloat n), number_toFloat,
    number_toFloat, EReal.coe_lt_coe_iff] at turned
  exact not_lt.mpr ordered turned

/-- Integers of at most 53 bits do not fall together. -/
theorem eq_of_toFloat_eq (hn : n.toInt.natAbs ≤ 2 ^ 53) (hk : k.toInt.natAbs ≤ 2 ^ 53)
    (h : toFloat n = toFloat k) : n = k := by
  have same : (n.toInt : ℝ) = k.toInt := by
    rw [← real_toFloat_exact hn, ← real_toFloat_exact hk, h]
  exact Int64.toInt_inj.mp (by exact_mod_cast same)

end Integer

namespace Functions

open Integer

variable {values : List Int64} {v : Int64} {i : ℕ}

/-! ## Extremes and their positions -/

/-- The entry at the position is the first that is widened to the same float as the value. -/
def FirstAlike (values : List Int64) (v : Int64) (i : ℕ) : Prop :=
  ∃ before w after, values = before ++ w :: after ∧ before.length = i ∧
    toFloat w = toFloat v ∧ ∀ u ∈ before, toFloat u ≠ toFloat v

/-- The entry at the position is the first that is the value. -/
def FirstAt (values : List Int64) (v : Int64) (i : ℕ) : Prop :=
  ∃ before after, values = before ++ v :: after ∧ before.length = i ∧ v ∉ before

/-- What comes first with a property comes first in only one way. -/
theorem first_unique {α : Type} {p : α → Prop} {b c b' c' : List α} {a a' : α}
    (h : b ++ a :: c = b' ++ a' :: c') (ha : p a) (hb : ∀ u ∈ b, ¬ p u) (ha' : p a')
    (hb' : ∀ u ∈ b', ¬ p u) : b = b' ∧ a = a' := by
  induction b generalizing b' with
  | nil =>
      cases b' with
      | nil => exact ⟨rfl, (List.cons.inj h).1⟩
      | cons u b' => exact absurd ((List.cons.inj h).1 ▸ ha) (hb' u (.head _))
  | cons u b ih =>
      cases b' with
      | nil => exact absurd ((List.cons.inj h).1 ▸ ha') (hb u (.head _))
      | cons u' b' =>
          obtain ⟨rfl, tail⟩ := List.cons.inj h
          obtain ⟨rfl, same⟩ := ih tail (fun u hu => hb u (.tail _ hu))
            fun u hu => hb' u (.tail _ hu)
          exact ⟨rfl, same⟩

theorem takeWhile_ne {before after : List Int64} (without : v ∉ before) :
    (before ++ v :: after).takeWhile (· != v) = before := by
  rw [List.takeWhile_append_of_pos, List.takeWhile_cons_of_neg (by simp), List.append_nil]
  intro u hu
  exact bne_iff_ne.mpr fun same => without (same ▸ hu)

/-- The first entry that is alike is the value itself exactly if nothing alike stands in front of
that. -/
theorem FirstAlike.firstAt_iff (h : FirstAlike values v i) (member : v ∈ values) :
    FirstAt values v i ↔ ∀ u ∈ values.takeWhile (· != v), toFloat u ≠ toFloat v := by
  obtain ⟨before, w, after, rfl, length, alike, unlike⟩ := h
  constructor
  · rintro ⟨before', after', split, length', without⟩
    obtain ⟨rfl, -⟩ := List.append_inj split (length.trans length'.symm)
    rw [split, takeWhile_ne without]
    exact unlike
  · intro none
    obtain ⟨front, back, split, without⟩ := List.eq_append_cons_of_mem member
    rw [split, takeWhile_ne without] at none
    obtain ⟨rfl, rfl⟩ := first_unique (p := fun u => toFloat u = toFloat v) split alike unlike rfl
      none
    exact ⟨before, after, rfl, length, without⟩

/-- Integers of at most 53 bits are told apart. -/
theorem FirstAlike.firstAt_of_small (h : FirstAlike values v i) (member : v ∈ values)
    (small : ∀ w ∈ values, w.toInt.natAbs ≤ 2 ^ 53) : FirstAt values v i := by
  obtain ⟨before, w, after, rfl, length, alike, unlike⟩ := h
  obtain rfl : w = v := eq_of_toFloat_eq (small w (List.mem_append_right _ (.head _)))
    (small v member) alike
  exact ⟨before, after, rfl, length, fun again => unlike w again rfl⟩

/-- The scan over the widened entries finds the first that is alike to the extreme. -/
theorem positionOfExtreme_firstAlike (key : Float → ℤ) {better : Float → Float → Bool}
    (told : Function.Injective key)
    (keyed : ∀ n k, better (toFloat n) (toFloat k) = true ↔ key (toFloat k) < key (toFloat n))
    (member : v ∈ values) (extreme : ∀ u ∈ values, key (toFloat u) ≤ key (toFloat v)) :
    ∃ i, positionOfExtreme better (values.map toFloat) = Int64.ofNat (i + 1) ∧
      FirstAlike values v i := by
  have given : values.map toFloat ≠ [] := by simpa using List.ne_nil_of_mem member
  have numbers : ∀ x ∈ values.map toFloat, x.isNaN = false :=
    List.forall_mem_map.mpr fun n _ => isNaN_toFloat n
  obtain ⟨i, _, found, best⟩ := positionOfExtreme_firstBest given numbers
    (List.forall_mem_map.mpr fun n _ => List.forall_mem_map.mpr fun k _ => keyed n k)
  obtain ⟨w, rfl, first⟩ := best.of_map
  have same : key (toFloat w) = key (toFloat v) :=
    le_antisymm (extreme w first.mem) (first.le v member)
  obtain ⟨before, after, split, length, less, -⟩ := first
  refine ⟨i, found, before, w, after, split, length, told same, fun u hu alike => ?_⟩
  have below : key (toFloat u) < key (toFloat w) := less u hu
  rw [alike, same] at below
  exact lt_irrefl _ below

instance lawfulOrderMax : Std.LawfulOrderMax Int64 where
  max_eq_or a b := by
    change (if a ≤ b then b else a) = a ∨ (if a ≤ b then b else a) = b
    split
    · exact .inr rfl
    · exact .inl rfl
  max_le_iff a b c := by
    change (if a ≤ b then b else a) ≤ c ↔ _
    simp only [Int64.le_iff_toInt_le]
    split <;> next h => omega

theorem isGreatest_largestInteger (given : values ≠ []) :
    IsGreatest {w | w ∈ values} (largestInteger values) := by
  obtain ⟨v, found⟩ := Option.ne_none_iff_exists'.mp (mt List.max?_eq_none_iff.mp given)
  rw [largestInteger, found]
  exact List.max?_eq_some_iff.mp found

theorem isLeast_smallestInteger (given : values ≠ []) :
    IsLeast {w | w ∈ values} (smallestInteger values) := by
  obtain ⟨v, found⟩ := Option.ne_none_iff_exists'.mp (mt List.min?_eq_none_iff.mp given)
  rw [smallestInteger, found]
  exact List.min?_eq_some_iff.mp found

/-- The position of the greatest integer. -/
theorem positionOfGreatest (greatest : IsGreatest {w | w ∈ values} v) :
    ∃ i, positionOfExtreme (fun a b => a > b) (values.map toFloat) = Int64.ofNat (i + 1) ∧
      FirstAlike values v i :=
  positionOfExtreme_firstAlike totalKey (fun _ _ => totalKey_inj)
    (fun _ _ => decide_eq_true_iff.trans toFloat_lt_iff) greatest.1
    fun _ hu => widenedKey_mono (greatest.2 hu)

/-- The position of the least integer. -/
theorem positionOfLeast (least : IsLeast {w | w ∈ values} v) :
    ∃ i, positionOfExtreme (fun a b => a < b) (values.map toFloat) = Int64.ofNat (i + 1) ∧
      FirstAlike values v i :=
  positionOfExtreme_firstAlike (fun x => -totalKey x)
    (fun _ _ same => totalKey_inj (neg_injective same))
    (fun _ _ => decide_eq_true_iff.trans (toFloat_lt_iff.trans neg_lt_neg_iff.symm)) least.1
    fun _ hu => neg_le_neg (widenedKey_mono (least.2 hu))

/-! ## Calls -/

section Calls

variable {ctx : TypingContext} {host : Host} {m : Moment} {name : String} {f : Function}
  {rule : TypeRule} {build : Builder} {args : List Expr} {a : Int64}

theorem computeAll_answers {α : Type} {sources : List (Source α)} {as : List α}
    (each : List.Forall₂ (fun s a => s.Holds m (some a)) sources as) :
    (Builder.computeAll sources).Answers m (.ok as) := by
  unfold Builder.computeAll
  induction each with
  | nil => exact answers_pure []
  | cons first _ ih =>
      rw [List.mapM_cons]
      exact first.compute.bind (ih.bind (answers_pure _))

/-- A call of a function that summarises its arguments, all of which are INTEGERs. -/
theorem yields_summary (found : ctx.functions.get? name = some f)
    (only : f.overloads = [⟨summaryParams, rule, build⟩])
    (ruled : ∀ types : Arguments ValueType, (∀ t ∈ types.values, t.base = some .integer) →
      ∃ o, rule types = .ok (.of .integer o))
    (built : ∀ (bound : Arguments Computer) (sources : List (Source Int64)) (o : Bool),
      bound.values = sources.map .integer →
      List.Forall₂ (fun s n => s.Holds m (some n)) sources values →
        ∃ s, build bound (.of .integer o) = .ok (.of .integer s) ∧ s.Ends m (.ok a))
    (yields : List.Forall₂ (fun e n => e.Yields ctx host m .integer n) args values)
    (two : 2 ≤ args.length) (span : Span) :
    (Expr.callOf span name args).Yields ctx host m .integer a := by
  -- The bound leaves two arguments and the others.
  rcases yields with _ | ⟨first, _ | ⟨second, others⟩⟩
  · exact absurd two (by decide)
  · exact absurd two (Nat.not_succ_le_self 1)
  obtain ⟨o, s, compiles, holds⟩ := first.exists_source
  obtain ⟨o', s', compiles', holds'⟩ := second.exists_source
  obtain ⟨optionals, sources, all, each⟩ := exists_integerSources others
  have pair : Expr.CompileAll ctx host _ _ _ := .cons compiles (.cons compiles' .nil)
  have accepts (o : Bool) : Matcher.numericOrMissing.accepts (.of .integer o) = true := by
    cases o <;> rfl
  obtain ⟨p, typed⟩ := ruled (.eachThen ["input_1", "input_2"] [.of .integer o, .of .integer o']
    "more" (optionals.map (.of .integer))) (by
      rw [Arguments.values_eachThen (by rfl)]
      refine List.forall_mem_append.mpr ⟨?_, List.forall_mem_map.mpr fun _ _ => rfl⟩
      exact List.forall_mem_cons.mpr ⟨rfl, List.forall_mem_singleton.mpr rfl⟩)
  obtain ⟨t, builds, ends⟩ := built (.eachThen ["input_1", "input_2"] [.integer s, .integer s']
    "more" (sources.map .integer)) (s :: s' :: sources) p (Arguments.values_eachThen (by rfl) _ _)
    (.cons holds (.cons holds' each))
  have only : f.overloads = [⟨[numberParam "input_1", numberParam "input_2"] ++
      [.variadic "more" .numericOrMissing], rule, build⟩] := only
  refine ⟨p, t, Expr.compiles_callRest found only ?_ rfl (by decide) pair all
    (.cons (accepts o) (.cons (accepts o') .nil)) ?_ typed builds span, ends⟩
  · simp [numberParam, Param.required, Param.isVariadic]
  · exact List.forall_mem_map.mpr fun o _ => accepts o

variable (functions : ctx.functions = library)
  (yields : List.Forall₂ (fun e n => e.Yields ctx host m .integer n) args values)
  (two : 2 ≤ args.length) (span : Span)
include functions yields two

/-- A function that stays with integers computes from the integers. -/
theorem yields_reduceNumbers {onIntegers : List Int64 → Int64} {onFloats : List Float → Float}
    (found : library.get? name = some f)
    (only : f.overloads =
      [⟨summaryParams, .integerIfAll, Builder.reduceNumbers onIntegers onFloats⟩]) :
    (Expr.callOf span name args).Yields ctx host m .integer (onIntegers values) := by
  rw [← functions] at found
  refine yields_summary found only (fun types integers => ⟨types.anyOptional, ?_⟩)
    (fun bound sources o read each => ?_) yields two span
  · have all : types.allInteger = true :=
      List.all_eq_true.mpr fun t ht => beq_iff_eq.mpr (integers t ht)
    rw [TypeRule.integerIfAll, all]
    rfl
  · have integers : bound.values.mapM (Computer.as .integer) = .ok sources := by
      have each : ∀ s ∈ sources, Computer.as .integer (.integer s) = .ok (id s) := fun s _ =>
        Computer.as_of .integer s
      rw [read, List.mapM_map]
      exact (Except.mapM_ok each).trans (congrArg _ (List.map_id sources))
    refine ⟨.propagating bound.values do pure (onIntegers (← Builder.computeAll sources)), ?_,
      Source.ends_propagating ?_ ((computeAll_answers each).bind (answers_pure _))⟩
    · unfold Builder.reduceNumbers
      rw [if_pos (by rfl), integers]
      rfl
    · rw [read]
      exact isMissing_of_holds each

/-- A function that widens its arguments computes from the floats. -/
theorem yields_reduceFloats {onFloats : List Float → Int64} (found : library.get? name = some f)
    (only : f.overloads =
      [⟨summaryParams, .propagate .integer, Builder.reduceFloats .integer onFloats⟩]) :
    (Expr.callOf span name args).Yields ctx host m .integer (onFloats (values.map toFloat)) := by
  rw [← functions] at found
  refine yields_summary found only (fun types _ => ⟨types.anyOptional, rfl⟩)
    (fun bound sources o read each => ?_) yields two span
  have floats : bound.values.mapM Computer.asFloat = .ok (sources.map (·.map toFloat)) := by
    rw [read, List.mapM_map]
    exact Except.mapM_ok fun _ _ => rfl
  have widened : List.Forall₂ (fun s x => s.Holds m (some x)) (sources.map (·.map toFloat))
      (values.map toFloat) :=
    List.forall₂_map_left_iff.mpr (List.forall₂_map_right_iff.mpr
      (each.imp fun _ _ holds => holds.map toFloat))
  refine ⟨.propagating bound.values do
      pure (onFloats (← Builder.computeAll (sources.map (·.map toFloat)))), ?_,
    Source.ends_propagating ?_ ((computeAll_answers widened).bind
      (answers_pure (onFloats (values.map toFloat))))⟩
  · unfold Builder.reduceFloats
    rw [floats]
    rfl
  · rw [read]
    exact isMissing_of_holds each

end Calls

theorem exists_max : ∃ f, library.get? "max" = some f ∧ f.overloads =
    [⟨summaryParams, .integerIfAll, Builder.reduceNumbers largestInteger largestFloat⟩] :=
  ⟨_, library_get? (f := summaries[0]) (by simp [builtIns, summaries]), rfl⟩

theorem exists_min : ∃ f, library.get? "min" = some f ∧ f.overloads =
    [⟨summaryParams, .integerIfAll, Builder.reduceNumbers smallestInteger smallestFloat⟩] :=
  ⟨_, library_get? (f := summaries[1]) (by simp [builtIns, summaries]), rfl⟩

theorem exists_argmax : ∃ f, library.get? "argmax" = some f ∧ f.overloads =
    [⟨summaryParams, .propagate .integer,
      Builder.reduceFloats .integer (positionOfExtreme fun a b => a > b)⟩] :=
  ⟨_, library_get? (f := summaries[2]) (by simp [builtIns, summaries]), rfl⟩

theorem exists_argmin : ∃ f, library.get? "argmin" = some f ∧ f.overloads =
    [⟨summaryParams, .propagate .integer,
      Builder.reduceFloats .integer (positionOfExtreme fun a b => a < b)⟩] :=
  ⟨_, library_get? (f := summaries[3]) (by simp [builtIns, summaries]), rfl⟩

/-- The position is that of the first entry which is alike to the extreme.  It is that of the
extreme itself exactly if nothing alike stands in front of it, and always if all entries have at most
53 bits. -/
def FoundUpToWidening (values : List Int64) (extreme position : Int64) : Prop :=
  ∃ i, position = Int64.ofNat (i + 1) ∧ FirstAlike values extreme i ∧
    (FirstAt values extreme i ↔
      ∀ u ∈ values.takeWhile (· != extreme), toFloat u ≠ toFloat extreme) ∧
    ((∀ w ∈ values, w.toInt.natAbs ≤ 2 ^ 53) → FirstAt values extreme i)

theorem foundUpToWidening {position : Int64} (member : v ∈ values)
    (found : ∃ i, position = Int64.ofNat (i + 1) ∧ FirstAlike values v i) :
    FoundUpToWidening values v position := by
  obtain ⟨i, same, first⟩ := found
  exact ⟨i, same, first, first.firstAt_iff member, first.firstAt_of_small member⟩

/-- The greatest and the least of two or more INTEGER arguments, and where they are found. -/
theorem extremes_found {ctx : TypingContext} {host : Host} {m : Moment} {args : List Expr}
    (functions : ctx.functions = library)
    (yields : List.Forall₂ (fun e n => e.Yields ctx host m .integer n) args values)
    (two : 2 ≤ args.length) (span : Span) :
    (∃ greatest position : Int64, IsGreatest {w | w ∈ values} greatest ∧
        (Expr.callOf span "max" args).Yields ctx host m .integer greatest ∧
        (Expr.callOf span "argmax" args).Yields ctx host m .integer position ∧
        FoundUpToWidening values greatest position) ∧
      ∃ least position : Int64, IsLeast {w | w ∈ values} least ∧
        (Expr.callOf span "min" args).Yields ctx host m .integer least ∧
        (Expr.callOf span "argmin" args).Yields ctx host m .integer position ∧
        FoundUpToWidening values least position := by
  -- Two arguments leave no list empty, so that there is a greatest and a least value.
  have given : values ≠ [] := by
    rintro rfl
    rw [yields.length_eq] at two
    exact absurd two (by decide)
  have greatest := isGreatest_largestInteger given
  have least := isLeast_smallestInteger given
  obtain ⟨_, found, only⟩ := exists_max
  obtain ⟨_, found', only'⟩ := exists_min
  obtain ⟨_, foundAt, onlyAt⟩ := exists_argmax
  obtain ⟨_, foundAt', onlyAt'⟩ := exists_argmin
  exact ⟨⟨_, _, greatest, yields_reduceNumbers functions yields two span found only,
      yields_reduceFloats functions yields two span foundAt onlyAt,
      foundUpToWidening greatest.1 (positionOfGreatest greatest)⟩,
    _, _, least, yields_reduceNumbers functions yields two span found' only',
      yields_reduceFloats functions yields two span foundAt' onlyAt',
      foundUpToWidening least.1 (positionOfLeast least)⟩

end Functions

namespace Sample

open Integer

/-- `max`, `argmax`, `min` and `argmin` of literals. -/
def summaryOf (name : String) (values : List Int64) : Expr := .callOf {} name (literals values)

/-- The greatest and the least of 1, 3 and 2, and where they stand. -/
theorem small_extremes_found :
    (summaryOf "max" [1, 3, 2]).Yields amounts amountHost ⟨0, default⟩ .integer 3 ∧
      (summaryOf "argmax" [1, 3, 2]).Yields amounts amountHost ⟨0, default⟩ .integer 2 ∧
      (summaryOf "min" [1, 3, 2]).Yields amounts amountHost ⟨0, default⟩ .integer 1 ∧
      (summaryOf "argmin" [1, 3, 2]).Yields amounts amountHost ⟨0, default⟩ .integer 1 := by
  have functions : amounts.functions = Functions.library := rfl
  have two : 2 ≤ (literals [1, 3, 2]).length := by decide
  obtain ⟨⟨v, _, greatest, max, argmax, i, rfl, -, -, here⟩,
    w, _, least, min, argmin, j, rfl, -, -, here'⟩ :=
    Functions.extremes_found functions (yields_literals [1, 3, 2]) two {}
  have each {p : Int64 → Prop} (one : p 1) (three : p 3) (two : p 2) : ∀ w ∈ [1, 3, 2], p w :=
    List.forall_mem_cons.mpr ⟨one, List.forall_mem_cons.mpr
      ⟨three, List.forall_mem_singleton.mpr two⟩⟩
  have small : ∀ w ∈ ([1, 3, 2] : List Int64), w.toInt.natAbs ≤ 2 ^ 53 :=
    each (p := fun w => w.toInt.natAbs ≤ 2 ^ 53) (by decide) (by decide) (by decide)
  obtain rfl : v = 3 := by
    have bound := greatest.2 (show (3 : Int64) ∈ [1, 3, 2] by decide)
    exact each (p := fun v => 3 ≤ v → v = 3) (by decide) (by decide) (by decide) v greatest.1 bound
  obtain rfl : w = 1 := by
    have bound := least.2 (show (1 : Int64) ∈ [1, 3, 2] by decide)
    exact each (p := fun w => w ≤ 1 → w = 1) (by decide) (by decide) (by decide) w least.1 bound
  -- No two of these integers are equal, so each stands in one place.
  obtain ⟨before, after, split, rfl, without⟩ := here small
  obtain ⟨before', after', split', rfl, without'⟩ := here' small
  obtain ⟨rfl, -⟩ := Functions.first_unique (p := (· = (3 : Int64))) (b := [1]) (c := [2]) split rfl
    (List.forall_mem_singleton.mpr (by decide)) rfl fun u hu same => without (same ▸ hu)
  obtain ⟨rfl, -⟩ := Functions.first_unique (p := (· = (1 : Int64))) (b := []) (c := [3, 2]) split'
    rfl (List.forall_mem_nil _) rfl fun u hu same => without' (same ▸ hu)
  exact ⟨max, argmax, min, argmin⟩

/-- Two integers of 54 bits that are widened to one float: the position is that of the first one,
which is not the greatest. -/
theorem neighbours_confused :
    (summaryOf "max" [9007199254740992, 9007199254740993]).Yields amounts amountHost ⟨0, default⟩
        .integer 9007199254740993 ∧
      (summaryOf "argmax" [9007199254740992, 9007199254740993]).Yields amounts amountHost
        ⟨0, default⟩ .integer 1 ∧
      ([9007199254740992, 9007199254740993] : List Int64)[0]? ≠ some 9007199254740993 := by
  have functions : amounts.functions = Functions.library := rfl
  have two : 2 ≤ (literals [9007199254740992, 9007199254740993]).length := by decide
  have yields := yields_literals [9007199254740992, 9007199254740993]
  obtain ⟨_, found, only⟩ := Functions.exists_max
  obtain ⟨_, foundAt, onlyAt⟩ := Functions.exists_argmax
  have greatest := Functions.yields_reduceNumbers functions yields two {} found only
  have position := Functions.yields_reduceFloats functions yields two {} foundAt onlyAt
  exact ⟨greatest, position, by decide⟩

end Sample

end Rowwise
