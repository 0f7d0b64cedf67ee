import Rowwise.Integer
import Mathlib.Algebra.Ring.Int.Defs

/-!
# Integers that fit 64 bits

`Integer.Fits` are the integers that are values of an INTEGER.  Checked operations find the exact
result if it is one of them, and nothing otherwise.
-/

namespace Rowwise.Integer

/-- The integer is one of 64 bits. -/
def Fits (n : Int) : Prop := -2 ^ 63 ≤ n ∧ n < 2 ^ 63

instance (z : Int) : Decidable (Fits z) := inferInstanceAs (Decidable (_ ∧ _))

variable {z : Int}

theorem fits_toInt (n : Int64) : Fits n.toInt := ⟨n.le_toInt, n.toInt_lt⟩

theorem Fits.toInt_ofInt (h : Fits z) : (Int64.ofInt z).toInt = z :=
  Int64.toInt_ofInt_of_le h.1 h.2

/-- There is a word for an integer that fits. -/
theorem Fits.exists_toInt (h : Fits z) : ∃ w : Int64, w.toInt = z := ⟨_, h.toInt_ofInt⟩

theorem Fits.ofInt? (h : Fits z) : ofInt? z = some (Int64.ofInt z) := by
  unfold Fits at h
  exact if_pos (by omega)

theorem ofInt?_eq_none (h : ¬Fits z) : ofInt? z = none := by
  unfold Fits at h
  exact if_neg (by omega)

end Rowwise.Integer
