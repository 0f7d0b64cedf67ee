import Mathlib.Order.Bounds.Basic
import Rowwise.Proofs.Typing.Joins

/-!
# The least common supertype of many types

Types are ordered by `ValueType.isSubtypeOf`.  A type is above two others if and only if it is above
their join, which there is then (`ValueType.join_le_iff`); this is associativity, read as a
statement about the order.  A list is joined from the left, so that by induction along the list a
type is above all members if and only if it is above the join of the list
(`ValueType.joinAll_le_iff`).

Hence the join of a list is its least upper bound, and depends neither on the order nor on the
number of its members.  MISSING may stand anywhere: it makes the join optional and nothing else.
-/

namespace Rowwise.ValueType

variable {a b c t u : ValueType} {ts us : List ValueType}

/-! ## The order -/

theorem isSubtypeOf_iff : a.isSubtypeOf b = true ↔ a.join b = some b := beq_iff_eq

theorem isSubtypeOf_trans (first : a.join b = some b) (second : b.join c = some c) :
    a.join c = some c := by
  have twice := join_assoc a b c
  rw [first, second, Option.bind_some, Option.bind_some] at twice
  exact twice.symm.trans second

/-- A type is below another one if its values can stand where the other one is expected. -/
instance : PartialOrder ValueType where
  le a b := a.isSubtypeOf b = true
  le_refl a := isSubtypeOf_iff.mpr a.join_self
  le_trans a b c first second :=
    isSubtypeOf_iff.mpr (isSubtypeOf_trans (isSubtypeOf_iff.mp first) (isSubtypeOf_iff.mp second))
  le_antisymm a b first second := by
    rw [isSubtypeOf_iff] at first second
    rw [join_comm, first] at second
    exact (Option.some.inj second).symm

theorem le_iff_join : a ≤ b ↔ a.join b = some b := isSubtypeOf_iff

/-! ## Two types -/

theorem le_of_join (h : a.join b = some c) : a ≤ c := by
  have twice := join_assoc a a b
  rw [join_self, h, Option.bind_some, Option.bind_some, h] at twice
  exact le_iff_join.mpr twice.symm

/-- A type is above two types if and only if they have a join and it is above that. -/
theorem join_le_iff : (∃ c, a.join b = some c ∧ c ≤ u) ↔ a ≤ u ∧ b ≤ u := by
  constructor
  · rintro ⟨c, joined, below⟩
    exact ⟨(le_of_join joined).trans below, (le_of_join (b.join_comm a ▸ joined)).trans below⟩
  · rintro ⟨ha, hb⟩
    rw [le_iff_join] at ha hb
    -- `b` is joined with `u` to `u` itself, so that joining `a` with `b` first cannot fail.
    have twice := join_assoc a b u
    rw [hb, Option.bind_some, ha] at twice
    obtain ⟨c, joined, below⟩ := Option.bind_eq_some_iff.mp twice
    exact ⟨c, joined, le_iff_join.mpr below⟩

/-! ## Lists of types -/

theorem foldlM_join_le_iff :
    (∃ c, ts.foldlM join t = some c ∧ c ≤ u) ↔ t ≤ u ∧ ∀ s ∈ ts, s ≤ u := by
  induction ts generalizing t with
  | nil => simp
  | cons s ts ih =>
      calc (∃ c, (s :: ts).foldlM join t = some c ∧ c ≤ u)
          ↔ ∃ d, t.join s = some d ∧ ∃ c, ts.foldlM join d = some c ∧ c ≤ u := by
            simp only [List.foldlM_cons, Option.bind_eq_bind, Option.bind_eq_some_iff]
            tauto
        _ ↔ ∃ d, t.join s = some d ∧ d ≤ u ∧ ∀ s ∈ ts, s ≤ u := by simp only [ih]
        _ ↔ (∃ d, t.join s = some d ∧ d ≤ u) ∧ ∀ s ∈ ts, s ≤ u := by
            simp only [← and_assoc, exists_and_right]
        _ ↔ t ≤ u ∧ ∀ x ∈ s :: ts, x ≤ u := by
            rw [join_le_iff, List.forall_mem_cons, and_assoc]

/-- A type is above all members of a list if and only if they have a join and it is above that. -/
theorem joinAll_le_iff (nonempty : ts ≠ []) :
    (∃ c, joinAll ts = some c ∧ c ≤ u) ↔ ∀ s ∈ ts, s ≤ u := by
  cases ts with
  | nil => exact absurd rfl nonempty
  | cons t ts => rw [joinAll, foldlM_join_le_iff, List.forall_mem_cons]

theorem joinAll_eq_some_iff (nonempty : ts ≠ []) :
    joinAll ts = some t ↔ IsLUB {s | s ∈ ts} t := by
  constructor
  · intro joined
    refine ⟨(joinAll_le_iff nonempty).mp ⟨t, joined, le_refl t⟩, fun u above => ?_⟩
    obtain ⟨c, found, below⟩ := (joinAll_le_iff nonempty).mpr above
    rw [joined] at found
    exact Option.some.inj found ▸ below
  · rintro ⟨above, least⟩
    obtain ⟨c, joined, below⟩ := (joinAll_le_iff nonempty).mpr above
    have upper : ∀ s ∈ ts, s ≤ c := (joinAll_le_iff nonempty).mp ⟨c, joined, le_refl c⟩
    rw [joined, le_antisymm below (least upper)]

/-- The join of a list is the least common supertype of its members.  There is one if and only if
there is any common supertype, and every list of the same members, in whatever order and however
often they stand in it, has the same. -/
theorem joinAll_least (nonempty : ts ≠ []) :
    (∀ t, joinAll ts = some t ↔ IsLUB {s | s ∈ ts} t) ∧
      ((joinAll ts).isSome = true ↔ BddAbove {s | s ∈ ts}) ∧
      ∀ us, (∀ s, s ∈ us ↔ s ∈ ts) → joinAll us = joinAll ts := by
  refine ⟨fun t => joinAll_eq_some_iff nonempty, ?_, fun us same => ?_⟩
  · rw [Option.isSome_iff_exists]
    constructor
    · rintro ⟨t, joined⟩
      exact ⟨t, ((joinAll_eq_some_iff nonempty).mp joined).1⟩
    · rintro ⟨u, above⟩
      obtain ⟨t, joined, _⟩ := (joinAll_le_iff nonempty).mpr above
      exact ⟨t, joined⟩
  · obtain ⟨s, hs⟩ := List.exists_mem_of_ne_nil ts nonempty
    have given : us ≠ [] := List.ne_nil_of_mem ((same s).mpr hs)
    have members : {s | s ∈ us} = {s | s ∈ ts} := Set.ext same
    ext t
    rw [joinAll_eq_some_iff given, joinAll_eq_some_iff nonempty, members]

/-- An INTEGER, MISSING and a FLOAT, in another order and some of them twice. -/
theorem joinAll_repeated :
    [required .integer, missing, required .float] ≠ [] ∧
      IsLUB {s | s ∈ [required .integer, missing, required .float]} (optionalOf .float) ∧
      joinAll [required .float, required .float, missing, required .integer, missing] =
        some (optionalOf .float) := by
  have nonempty : [required .integer, missing, required .float] ≠ [] := by decide
  obtain ⟨least, _, same⟩ := joinAll_least nonempty
  have joined : joinAll [required .integer, missing, required .float] = some (optionalOf .float) :=
    rfl
  refine ⟨nonempty, (least _).mp joined, (same _ fun s => ?_).trans joined⟩
  simp only [List.mem_cons, List.not_mem_nil]
  tauto

end Rowwise.ValueType
