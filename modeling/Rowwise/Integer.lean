import Rowwise.Decimal.Digits

/-!
# Integers of 64 and of 32 bits

The INTEGER kind is a signed 64-bit word, and the parts of a DATE_DURATION are signed 32-bit
words.  The operators of the language wrap around, which is the arithmetic of `Int64` itself;
the checked operations here answer nothing when the exact result does not fit.
-/

namespace Rowwise

namespace Integer

/-- The word of an integer that fits 64 bits. -/
def ofInt? (n : Int) : Option Int64 :=
  if -9223372036854775808 ≤ n ∧ n ≤ 9223372036854775807 then some (Int64.ofInt n) else none

/-- The exact sum, if it fits. -/
def checkedAdd (a b : Int64) : Option Int64 := ofInt? (a.toInt + b.toInt)

/-- The exact product, if it fits. -/
def checkedMul (a b : Int64) : Option Int64 := ofInt? (a.toInt * b.toInt)

/-- The power `x ^ n` in wrapping arithmetic, by repeated squaring. -/
def wrappingPow (x : Int64) (n : Nat) : Int64 :=
  if n = 0 then 1
  else
    let half := wrappingPow (x * x) (n / 2)
    if n % 2 = 1 then x * half else half
termination_by n
decreasing_by omega

/-- The decimal text of a word. -/
def text (n : Int64) : String := String.ofList (Decimal.intText n.toInt)

/-- The nearest float, and of two equally near ones that with the even mantissa. -/
def toFloat (n : Int64) : Float := Float.ofInt n.toInt

/-- Reads a decimal integer that fits 64 bits. -/
def read? (text : List Char) : Option Int64 := (Decimal.readInt? text).bind ofInt?

@[simp] theorem ofInt?_toInt (n : Int64) : ofInt? n.toInt = some n := by
  have h₁ := Int64.le_toInt n
  have h₂ := Int64.toInt_lt n
  unfold ofInt?
  rw [if_pos ⟨by omega, by omega⟩, Int64.ofInt_toInt]

/-- The word of an integer has its value. -/
theorem ofInt?_eq_some {n : Int} {w : Int64} : ofInt? n = some w ↔ w.toInt = n := by
  constructor
  · intro h
    unfold ofInt? at h
    split at h
    · next range =>
        cases h
        exact Int64.toInt_ofInt_of_le (by omega) (by omega)
    · cases h
  · rintro rfl
    exact ofInt?_toInt w

/-- There is a word for each integer of 64 bits. -/
theorem exists_ofInt? {n : Int} (low : -9223372036854775808 ≤ n) (high : n ≤ 9223372036854775807) :
    ∃ w, ofInt? n = some w := ⟨_, if_pos ⟨low, high⟩⟩

end Integer

namespace Word32

/-- The word of an integer that fits 32 bits. -/
def ofInt? (n : Int) : Option Int32 :=
  if -2147483648 ≤ n ∧ n ≤ 2147483647 then some (Int32.ofInt n) else none

/-- The exact sum, if it fits. -/
def checkedAdd (a b : Int32) : Option Int32 := ofInt? (a.toInt + b.toInt)

/-- The exact product, if it fits. -/
def checkedMul (a b : Int32) : Option Int32 := ofInt? (a.toInt * b.toInt)

/-- Reads a decimal integer that fits 32 bits. -/
def read? (text : List Char) : Option Int32 := (Decimal.readInt? text).bind ofInt?

@[simp] theorem ofInt?_toInt (n : Int32) : ofInt? n.toInt = some n := by
  have h₁ := Int32.le_toInt n
  have h₂ := Int32.toInt_lt n
  unfold ofInt?
  rw [if_pos ⟨by omega, by omega⟩, Int32.ofInt_toInt]

end Word32

end Rowwise
