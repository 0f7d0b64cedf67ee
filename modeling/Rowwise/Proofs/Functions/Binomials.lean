import Rowwise.Proofs.Functions.Durations
import Rowwise.Proofs.Numbers.Binomials

/-!
# Binomial coefficients in expressions

For `r` of `n` things the function computes with the smaller one of `r` and `n - r`, which chooses
as many subsets.  So the coefficient is what a call evaluates to exactly if it fits 64 bits when it
is multiplied by this number (`binomial_counts`): always for up to 61 things, and beyond them not
even for all coefficients that fit themselves (`Sample.pairs_miscounted`).
-/

namespace Rowwise

open Eval Functions

variable {ctx : TypingContext} {host : Host} {m : Moment} {x y : Expr} {n r : Int64} {N R : ℕ}

namespace Functions

/-- There is a coefficient where the chosen things are among the given ones. -/
theorem noBinomial?_eq_none (low : 0 ≤ r.toInt) (high : r.toInt ≤ n.toInt) :
    noBinomial? n r = none := by
  have most : ¬r > n := by
    rw [gt_iff_lt, Int64.lt_iff_toInt_lt]
    exact not_lt.mpr high
  have positive : ¬r < 0 := by
    rw [Int64.lt_iff_toInt_lt]
    exact not_lt.mpr low
  have positive' : ¬n < 0 := by
    rw [Int64.lt_iff_toInt_lt]
    exact not_lt.mpr (low.trans high)
  unfold noBinomial?
  rw [if_neg most, if_neg positive, if_neg positive', ite_self]

section Counts

variable (things : n.toInt = N) (chosen : r.toInt = R) (enough : R ≤ N)
include things chosen enough

/-- The number of steps. -/
theorem toInt_min_sub : (min r (n - r)).toInt.toNat = min R (N - R) := by
  have high := Int64.toInt_lt n
  have others : (n - r).toInt = (N - R : ℕ) := by
    rw [Integer.toInt_sub_of_fits, things, chosen]
    · omega
    · constructor <;> omega
  change (if r ≤ n - r then r else n - r).toInt.toNat = _
  split <;> next h =>
    rw [Int64.le_iff_toInt_le, chosen, others] at h
    omega

theorem binomial_answers :
    (binomial n r).Answers m (.ok (fallingQuotient n (min R (N - R)))) := by
  unfold binomial
  rw [noBinomial?_eq_none (by omega) (by omega), toInt_min_sub things chosen enough]
  exact answers_pure _

end Counts

theorem exists_binomial : ∃ f, library.get? "binomial" = some f ∧ f.overloads =
    [⟨[.required "n" (.kindOrMissing .integer), .required "r" (.kindOrMissing .integer)],
      .propagate .integer, binomialBuilder⟩] :=
  ⟨_, library_get? (f := distributions[0]) (by simp [builtIns, distributions]), rfl⟩

/-- A call with INTEGER arguments ends with their coefficient. -/
theorem ends_binomial (functions : ctx.functions = library) (hx : x.Yields ctx host m .integer n)
    (hy : y.Yields ctx host m .integer r) {a : Except EvalError Int64}
    (answers : (binomial n r).Answers m a) (span : Span) :
    (Expr.callOf span "binomial" [x, y]).Ends ctx host m .integer a := by
  obtain ⟨f, found, only⟩ := exists_binomial
  rw [← functions] at found
  refine hx.call hy found only (by decide) ?_ ?_ (fun g h holds holds' => ?_) span
  · exact fun o i => ⟨by cases o <;> rfl, by cases i <;> rfl⟩
  · exact fun o i => by cases o <;> cases i <;> rfl
  · refine ⟨_, holds.ends_propagating holds' ?_, fun _ => rfl⟩
    exact holds.compute.bind (holds'.compute.bind answers)

/-- Choosing the others gives the same coefficient. -/
theorem choose_min (enough : R ≤ N) : N.choose (min R (N - R)) = N.choose R := by
  rcases min_choice R (N - R) with h | h <;> rw [h]
  exact Nat.choose_symm enough

/-- A call for `R` of `N` things evaluates, and the value is the number of ways to choose them
exactly if the product in front of the last division fits 64 bits; for up to 61 things it always
does. -/
theorem binomial_counts (functions : ctx.functions = library)
    (hx : x.Yields ctx host m .integer n) (hy : y.Yields ctx host m .integer r)
    (things : n.toInt = N) (chosen : r.toInt = R) (enough : R ≤ N) (span : Span) :
    ∃ v : Int64, (Expr.callOf span "binomial" [x, y]).Yields ctx host m .integer v ∧
      (v.toInt = N.choose R ↔ Integer.Fits ((min R (N - R) * N.choose R : ℕ) : ℤ)) ∧
      (N ≤ 61 → v.toInt = N.choose R) := by
  have half : 2 * min R (N - R) ≤ N := by omega
  refine ⟨_, ends_binomial functions hx hy (binomial_answers things chosen enough) span, ?_,
    fun few => ?_⟩
  · rw [← choose_min enough]
    exact toInt_fallingQuotient_iff things half
  · rw [← choose_min enough]
    exact toInt_fallingQuotient things half (product_lt few _)

end Functions

namespace Sample

/-- `binomial(n, r)` of literals. -/
def binomialOf (n r : Int64) : Expr := .callOf {} "binomial" (literals [n, r])

/-- Two of five things. -/
theorem pairs_counted :
    (binomialOf 5 2).Yields amounts amountHost ⟨0, default⟩ .integer 10 := by
  have functions : amounts.functions = Functions.library := rfl
  have things : Expr.Yields amounts amountHost ⟨0, default⟩ _ .integer 5 :=
    Expr.yields_integer 5 {}
  obtain ⟨v, yields, _, few⟩ := Functions.binomial_counts (N := 5) (R := 2) functions things
    (Expr.yields_integer 2 {}) rfl rfl (by decide) {}
  obtain rfl : v = 10 := Int64.toInt_inj.mp (few (by decide))
  exact yields

/-- The number of pairs of 2^32 things is an INTEGER, but not what the function evaluates to. -/
theorem pairs_miscounted :
    (Nat.choose 4294967296 2 : ℤ) = (9223372034707292160 : Int64).toInt ∧
      (binomialOf 4294967296 2).Yields amounts amountHost ⟨0, default⟩ .integer (-2147483648) ∧
      ¬(binomialOf 4294967296 2).Yields amounts amountHost ⟨0, default⟩ .integer
        9223372034707292160 := by
  have functions : amounts.functions = Functions.library := rfl
  have answers := Functions.binomial_answers (m := ⟨0, default⟩) (n := 4294967296) (r := 2)
    (N := 4294967296) (R := 2) rfl rfl (by decide)
  have wrapped : (binomialOf 4294967296 2).Yields amounts amountHost ⟨0, default⟩ .integer
      (-2147483648) :=
    Functions.ends_binomial functions (Expr.yields_integer 4294967296 {}) (Expr.yields_integer 2 {})
      answers {}
  refine ⟨?_, wrapped, fun right => ?_⟩
  · rw [Nat.choose_two_right]
    rfl
  · exact absurd (wrapped.unique right) (by decide)

end Sample

end Rowwise
