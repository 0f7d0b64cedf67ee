import Rowwise.Aggregation
import Rowwise.Proofs.Evaluation.Computers

/-!
# Aggregations keep to their types

An aggregation declares a type for its result from the type of the column.  What its accumulator
holds keeps to that type while it takes one cell after the other: a largest or smallest value of
integers is an integer as soon as a number was seen, and one of floats is never an integer.
-/

namespace Rowwise

open Eval

variable {R : Regime} {column t : ValueType} {v : Value}

namespace Accumulator

/-- What the state of an accumulator over a column keeps to, for a result of type `t`. -/
def Keeps (column t : ValueType) : Accumulator → Prop
  | extreme e =>
    (column.base = some .integer ∧ t = .optionalOf .integer ∧ e.isFloat = false ∧
        (e.seen = true → e.integer.isSome = true)) ∨
      (column.base = some .float ∧ t = .optionalOf .float ∧ e.isFloat = true ∧ e.integer = none)
  | sum s =>
    (t = .optionalOf .integer ∧ s.isFloat = false) ∨ (t = .optionalOf .float ∧ s.isFloat = true)
  | collected _ => t = .optionalOf .float
  | count .. => t = .required .integer

/-- An accumulator that has seen no cell keeps to the type that the aggregation declares. -/
theorem keeps_start {a : Aggregation} (args : Arguments Value)
    (h : a.returnType column = .ok t) : (a.accumulator args column.base).Keeps column t := by
  unfold Aggregation.returnType at h
  unfold Aggregation.accumulator
  cases column with
  | missing =>
      -- Of a column of MISSING, only the rows can be counted.
      cases hs : a.statistic <;> rw [hs] at h <;> cases h
      rfl
  | of k o =>
      cases hs : a.statistic <;> cases k <;> rw [hs] at h <;> cases h <;>
        simp [Keeps, ValueType.base]

/-- Every cell of the column leaves it that way. -/
theorem Keeps.add {a : Accumulator} (h : a.Keeps column t) (hv : v.HasType column) :
    (a.add v).Keeps column t := by
  cases a with
  | extreme e =>
      obtain ⟨rfl, _⟩ | ⟨k, x, rfl, hk⟩ := hv
      · exact h
      · obtain ⟨hc, ht, he, hi⟩ | ⟨hc, ht, he, hi⟩ := h
        · cases hk.symm.trans hc
          exact .inl ⟨hc, ht, he, fun _ => rfl⟩
        · cases hk.symm.trans hc
          refine .inr ⟨hc, ht, ?_⟩
          rw [Extreme.add]
          split <;> exact ⟨he, hi⟩
  | sum s =>
      have same : (s.add v).isFloat = s.isFloat := by
        unfold RunningSum.add
        split <;> rfl
      rw [Accumulator.add, Keeps, same]
      exact h
  | collected => exact h
  | count ignoreMissing n =>
      rw [Accumulator.add]
      split <;> exact h

theorem warnMissing_fits {α : Type} (warning : String) :
    (warnMissing warning : Source α).Fits R true := fun _ _ =>
  .absent rfl ((answers_warn warning).bind (answers_pure true))

theorem missingResult_fits (isFloat : Bool) (warning : String) :
    (missingResult isFloat warning).Fits R
      (.optionalOf (if isFloat then .float else .integer)) := by
  cases isFloat <;> exact .of (warnMissing_fits warning)

/-- A value of a kind is one of the optional type. -/
theorem constant_fits_optional {k : Kind} (a : k.Carrier) :
    (Computer.constant (.of k a)).Fits R (.optionalOf k) := .of (Source.constant_fits a)

theorem Keeps.extreme_fits {e : Extreme} (h : (extreme e).Keeps column t) :
    (extreme e).result.Fits R t := by
  have missing (warning : String) := missingResult_fits (R := R) e.isFloat warning
  rw [result]
  obtain ⟨_, rfl, he, hi⟩ | ⟨_, rfl, he, hi⟩ := h
  · rw [he] at missing ⊢
    split
    · exact missing _
    · next seen =>
        obtain ⟨n, hn⟩ := Option.isSome_iff_exists.mp (hi (by simpa using seen))
        rw [hn]
        exact constant_fits_optional (k := .integer) n
  · rw [he] at missing
    rw [hi, he]
    simp only
    split
    · exact missing _
    · split
      · exact constant_fits_optional (k := .float) _
      · split
        · exact constant_fits_optional (k := .float) _
        · exact missing _

theorem Keeps.sum_fits {s : RunningSum} (h : (sum s).Keeps column t) :
    (sum s).result.Fits R t := by
  have missing (warning : String) := missingResult_fits (R := R) s.isFloat warning
  rw [result]
  obtain ⟨rfl, hs⟩ | ⟨rfl, hs⟩ := h
  · rw [hs] at missing ⊢
    split
    · exact missing _
    · simp only [Bool.not_false, if_true]
      split
      · exact constant_fits_optional (k := .integer) _
      · exact .of (Source.present_fits fun _ _ => regular_fail _)
  · rw [hs] at missing ⊢
    split
    · exact missing _
    · simp only [Bool.not_true, Bool.false_eq_true, if_false]
      split
      · exact .of (Source.present_fits fun _ _ => (regular_warn _).andThen fun _ =>
          regular_pure _)
      · exact constant_fits_optional (k := .float) _

/-- The computer of the result fits the type. -/
theorem Keeps.result_fits {a : Accumulator} (h : a.Keeps column t) : a.result.Fits R t := by
  cases a with
  | extreme e => exact h.extreme_fits
  | sum s => exact h.sum_fits
  | collected c =>
      cases h
      rw [result]
      split
      · exact missingResult_fits true _
      · split
        · exact missingResult_fits true _
        · exact constant_fits_optional (k := .float) _
  | count ignoreMissing n =>
      cases h
      exact Computer.constant_fits (.integer n)

end Accumulator

/-- Over a column of cells of its type, the computer of an aggregation fits the type that the
aggregation declares. -/
theorem Aggregation.result_fits {a : Aggregation} (args : Arguments Value)
    (h : a.returnType column = .ok t) (cells : List Value) (hc : ∀ v ∈ cells, v.HasType column) :
    (cells.foldl Accumulator.add (a.accumulator args column.base)).result.Fits R t := by
  have keeps : ∀ (cells : List Value) (acc : Accumulator), (∀ v ∈ cells, v.HasType column) →
      acc.Keeps column t → (cells.foldl Accumulator.add acc).Keeps column t := by
    intro cells
    induction cells with
    | nil => exact fun acc _ h => h
    | cons v cells ih =>
        intro acc hc h
        exact ih _ (fun w hw => hc w (.tail _ hw)) (h.add (hc v (.head _)))
  exact (keeps cells _ hc (Accumulator.keeps_start args h)).result_fits

end Rowwise
