import Mathlib
import Rowwise.Table
import Rowwise.Proofs.Aggregation
import Rowwise.Proofs.Evaluation.Soundness

/-!
# Tables serve what they declare

A table is built from row ids by putting in columns and leaving out rows.  Whatever the order,
every column has a cell for every row, and the cells of a column that expressions can read are
values of its type.  Therefore a table serves the names of a tree that was typed over it, on all of
its rows.

The position of a row is a word of 64 bits, of which a table has no more rows than fit.
-/

namespace Rowwise

open Eval

/-- The tables that can be built. -/
inductive Table.Built : Table → Prop where
  | new {rowIds : Array String} (fits : rowIds.size < 2 ^ 63) : Built { rowIds }
  | setColumn {t t' : Table} {name : String} {type : ValueType} {cells : List Value}
      (built : t.Built) (set : t.setColumn name type cells = .ok t') : Built t'
  | withColumn {t t' : Table} {name : String} {type : ValueType} {cells : List Value}
      (built : t.Built) (added : t.withColumn name type cells = .ok t') : Built t'
  | withUnsupportedColumn {t : Table} {name hostType : String} (built : t.Built) :
      Built (t.withUnsupportedColumn name hostType)
  | filter {t : Table} {keep : List Bool} (built : t.Built) : Built (t.filter keep)

/-- The cells of a column are as many as the rows of its table, and values of its type if
expressions can read it. -/
structure Column.Filled (rows : Nat) (c : Column) : Prop where
  size : c.cells.size = rows
  typed : ∀ type, c.type = .supported type → ∀ v ∈ c.cells.toList, v.HasType type

/-- Every column of a table is filled. -/
structure Table.WellFormed (t : Table) : Prop where
  indexed : t.rowCount < 2 ^ 63
  filled : ∀ name c, t.columns.get? name = some c → c.Filled t.rowCount

/-- A collection maps thing by thing. -/
theorem Named.get?_map {α β : Type} (f : α → β) (c : Named α) (key : String) :
    (c.map f).get? key = (c.get? key).map f := by
  obtain ⟨entries⟩ := c
  simp only [map, get?]
  induction entries with
  | nil => rfl
  | cons entry rest ih =>
      obtain ⟨n, a⟩ := entry
      by_cases h : key = n
      · simp [h]
      · simp [lookup_cons_of_ne h, ih]

/-- So does a collection with one more thing. -/
theorem Named.map_insert {α β : Type} (f : α → β) (c : Named α) (name : String) (a : α) :
    (c.insert name a).map f = (c.map f).insert name (f a) := by
  obtain ⟨entries⟩ := c
  simp only [map, insert, mk.injEq]
  induction entries with
  | nil => rfl
  | cons entry rest ih =>
      obtain ⟨n, b⟩ := entry
      by_cases h : n = name
      · simp [insertEntry, h]
      · simp [insertEntry, h, ih]

/-- The computer of a flow variable fits its type. -/
theorem FlowVariables.computer_fits {R : Regime} {vars : FlowVariables} {name : String}
    {type : ValueType} (typed : vars.typeOf name = .ok type) :
    ∃ c, vars.computer name = some c ∧ c.Fits R type := by
  unfold typeOf at typed
  split at typed
  · next v hv =>
      cases typed
      refine ⟨.constant v, ?_, Computer.constant_fits v⟩
      rw [computer, value?, hv]
      rfl
  · cases typed
  · cases typed

namespace Table

variable {t t' : Table} {name : String} {type : ValueType} {cells : List Value} {v : Value}

/-! ## Storing columns -/

/-- A cell fits a column if it is a value of its type. -/
theorem fits_iff : fits type v = true ↔ v.HasType type := by
  cases v with
  | missing => simp [fits, Value.HasType, Value.isMissing]
  | of k a =>
      simp only [fits, Value.isMissing, Value.kind?, Value.HasType, Bool.false_eq_true, if_false,
        beq_iff_eq, reduceCtorEq, false_and, false_or]
      constructor
      · exact fun h => ⟨k, a, rfl, h.symm⟩
      · rintro ⟨l, b, h, hl⟩
        cases h
        exact hl.symm

theorem firstMisfit_none {row : Nat} (h : firstMisfit type row cells = none) :
    ∀ v ∈ cells, v.HasType type := by
  induction cells generalizing row with
  | nil => simp
  | cons v rest ih =>
      rw [firstMisfit] at h
      split at h
      · next fit => exact List.forall_mem_cons.mpr ⟨fits_iff.mp fit, ih h⟩
      · cases h

/-- The first misfit is a cell that is no value of the type. -/
theorem firstMisfit_some {row position : Nat} {found : ValueType}
    (h : firstMisfit type row cells = some (position, found)) :
    ∃ i v, position = row + i ∧ cells[i]? = some v ∧ ¬ v.HasType type ∧ found = v.valueType := by
  induction cells generalizing row with
  | nil => cases h
  | cons v rest ih =>
      rw [firstMisfit] at h
      split at h
      · obtain ⟨i, w, hi, hw, misfit, hfound⟩ := ih h
        exact ⟨i + 1, w, by omega, hw, misfit, hfound⟩
      · next misfit =>
          cases h
          exact ⟨0, v, rfl, rfl, fun h => misfit (fits_iff.mpr h), rfl⟩

/-- A column is stored if it has a cell for every row, all of its type. -/
theorem setColumn_ok (h : t.setColumn name type cells = .ok t') :
    cells.length = t.rowCount ∧ (∀ v ∈ cells, v.HasType type) ∧
      t' = { t with columns := t.columns.insert name ⟨.supported type, cells.toArray⟩ } := by
  unfold setColumn at h
  split at h
  · cases h
  · next length =>
      split at h
      · cases h
      · next none =>
          cases h
          exact ⟨Decidable.not_not.mp length, firstMisfit_none none, rfl⟩

/-- A column with a cell for every row is refused only for a cell that is no value of its type. -/
theorem setColumn_error {cause : TableError} (length : cells.length = t.rowCount)
    (h : t.setColumn name type cells = .error cause) :
    ∃ (row : Nat) (v : Value), cells[row]? = some v ∧ ¬ v.HasType type ∧
      cause = .typeMismatch name type row v.valueType := by
  unfold setColumn at h
  rw [if_neg (not_not_intro length)] at h
  split at h
  · next row found misfit =>
      cases h
      obtain ⟨i, v, hi, hv, untyped, rfl⟩ := firstMisfit_some misfit
      rw [Nat.zero_add] at hi
      exact ⟨i, v, hv, untyped, by rw [hi]⟩
  · cases h

theorem WellFormed.insert (h : t.WellFormed) {column : Column} (filled : column.Filled t.rowCount) :
    ({ t with columns := t.columns.insert name column } : Table).WellFormed where
  indexed := h.indexed
  filled n c hc := by
    rw [Named.get?_insert] at hc
    split at hc
    · cases hc
      exact filled
    · exact h.filled n c hc

theorem WellFormed.setColumn (h : t.WellFormed) (set : t.setColumn name type cells = .ok t') :
    t'.WellFormed := by
  obtain ⟨length, typed, rfl⟩ := setColumn_ok set
  refine h.insert ⟨by simpa using length, fun s hs => ?_⟩
  cases hs
  exact typed

/-! ## Leaving out rows -/

theorem mem_of_mem_keepMarked {α : Type} {keep : List Bool} {xs : List α} {x : α}
    (h : x ∈ keepMarked keep xs) : x ∈ xs := by
  obtain ⟨⟨y, marked⟩, hy, hx⟩ := List.mem_filterMap.mp h
  have member := (List.of_mem_zip hy).1
  simp only [Option.ite_none_right_eq_some, Option.some.injEq] at hx
  exact hx.2 ▸ member

/-- How many elements stay depends on the marks only. -/
theorem length_keepMarked {α β : Type} {keep : List Bool} {xs : List α} {ys : List β}
    (h : xs.length = ys.length) : (keepMarked keep xs).length = (keepMarked keep ys).length := by
  unfold keepMarked
  induction keep generalizing xs ys with
  | nil => simp
  | cons marked keep ih =>
      cases xs with
      | nil =>
          obtain rfl := List.length_eq_zero_iff.mp h.symm
          rfl
      | cons x xs =>
          cases ys with
          | nil => cases h
          | cons y ys =>
              have ih := ih (Nat.succ.inj h)
              cases marked <;> simpa using ih

theorem length_keepMarked_le {α : Type} (keep : List Bool) (xs : List α) :
    (keepMarked keep xs).length ≤ xs.length := by
  refine Nat.le_trans (List.length_filterMap_le ..) ?_
  rw [List.length_zip]
  exact Nat.min_le_left ..

theorem WellFormed.filter (h : t.WellFormed) (keep : List Bool) : (t.filter keep).WellFormed where
  indexed := by
    have le := length_keepMarked_le keep t.rowIds.toList
    have := h.indexed
    simp only [rowCount, Table.filter, List.size_toArray, Array.length_toList] at *
    omega
  filled n c hc := by
    rw [Table.filter, Named.get?_map] at hc
    obtain ⟨d, hd, rfl⟩ := Option.map_eq_some_iff.mp hc
    have filled := h.filled n d hd
    refine ⟨?_, fun s hs v hv => filled.typed s hs v (mem_of_mem_keepMarked hv)⟩
    simp only [rowCount, Table.filter, List.size_toArray]
    exact length_keepMarked (by simpa [rowCount] using filled.size)

theorem Built.wellFormed (h : t.Built) : t.WellFormed := by
  induction h with
  | new fits => exact ⟨fits, fun n c hc => nomatch hc⟩
  | setColumn _ set ih => exact ih.setColumn set
  | withColumn _ added ih =>
      unfold Table.withColumn at added
      split at added
      · cases added
      · exact ih.setColumn added
  | withUnsupportedColumn _ ih =>
      exact ih.insert ⟨Array.size_replicate, fun s hs => nomatch hs⟩
  | filter _ ih => exact ih.filter _

/-! ## Reading cells -/

variable {R : Regime}

/-- Without an offset the cell is that of the row itself. -/
theorem cellAt_zero (column : Array Value) {row : Nat} (indexed : row < 2 ^ 63) :
    cellAt column 0 row = column.getD row .missing := by
  have position : (Int64.ofNat row).toInt = row := Int64.toInt_ofNat_of_lt indexed
  have here : Integer.checkedAdd (Int64.ofNat row) 0 = some (Int64.ofNat row) := by
    rw [Integer.checkedAdd, Int64.toInt_zero, Int.add_zero, Integer.ofInt?_toInt]
  have nonneg : ¬ Int64.ofNat row < 0 := by
    rw [Int64.lt_iff_toInt_lt, position]
    simp
  rw [cellAt, here]
  simp only [if_neg nonneg, position, Int.toNat_natCast]

/-- The cell at a position of the column is read where row and offset come to that position. -/
theorem cellAt_eq {column : Array Value} {offset : Int64} {row i : Nat} {v : Value}
    (indexed : column.size < 2 ^ 63) (hrow : row < 2 ^ 63) (cell : column[i]? = some v)
    (position : (i : Int) = row + offset.toInt) : cellAt column offset row = v := by
  have hi : i < column.size := (Array.getElem?_eq_some_iff.mp cell).1
  have here : (Int64.ofNat row).toInt = row := Int64.toInt_ofNat_of_lt hrow
  obtain ⟨w, hw⟩ : ∃ w, Integer.ofInt? i = some w := Integer.exists_ofInt? (by omega) (by omega)
  have value : w.toInt = i := Integer.ofInt?_eq_some.mp hw
  have nonneg : ¬ w < 0 := by
    rw [Int64.lt_iff_toInt_lt, value]
    simp
  rw [cellAt, Integer.checkedAdd, here, ← position, hw]
  simp only [if_neg nonneg, value, Int.toNat_natCast, Array.getD_eq_getD_getElem?, cell,
    Option.getD_some]

/-- Beyond the ends of the column MISSING is read, and so it is where the sum of row and offset is
no word any more. -/
theorem cellAt_beyond {column : Array Value} {offset : Int64} {row : Nat} (hrow : row < 2 ^ 63)
    (nowhere : ∀ i : Nat, (i : Int) = row + offset.toInt → column.size ≤ i) :
    cellAt column offset row = .missing := by
  have here : (Int64.ofNat row).toInt = row := Int64.toInt_ofNat_of_lt hrow
  rw [cellAt, Integer.checkedAdd, here]
  cases hw : Integer.ofInt? (row + offset.toInt) with
  | none => rfl
  | some w =>
      have value : w.toInt = row + offset.toInt := Integer.ofInt?_eq_some.mp hw
      by_cases before : w < 0
      · simp only [if_pos before]
      · have nonneg : 0 ≤ w.toInt := by
          rw [Int64.lt_iff_toInt_lt, Int64.toInt_zero] at before
          omega
        have size : column.size ≤ w.toInt.toNat := nowhere _ (by omega)
        simp only [if_neg before, Array.getD_eq_getD_getElem?, Array.getElem?_eq_none size,
          Option.getD_none]

/-- The sum of row and offset is a position of the column, of which the cell is read, or none. -/
theorem cellAt_cases (column : Array Value) (offset : Int64) {row : Nat} (hrow : row < 2 ^ 63)
    (indexed : column.size < 2 ^ 63) :
    (∃ (i : Nat) (v : Value), (i : Int) = row + offset.toInt ∧ column[i]? = some v ∧
        cellAt column offset row = v) ∨
      (∀ i : Nat, (i : Int) = row + offset.toInt → column.size ≤ i) ∧
        cellAt column offset row = .missing := by
  by_cases inside : ∃ i : Nat, (i : Int) = row + offset.toInt ∧ i < column.size
  · obtain ⟨i, position, hi⟩ := inside
    have cell : column[i]? = some column[i] := Array.getElem?_eq_getElem hi
    exact .inl ⟨i, column[i], position, cell, cellAt_eq indexed hrow cell position⟩
  · have nowhere : ∀ i : Nat, (i : Int) = row + offset.toInt → column.size ≤ i := by
      intro i position
      by_contra hi
      exact inside ⟨i, position, Nat.not_le.mp hi⟩
    exact .inr ⟨nowhere, cellAt_beyond hrow nowhere⟩

/-- On a row of the table, a cell some rows away is one of the column, or MISSING if the offset is
not zero. -/
theorem cellAt_hasType {column : Array Value} {offset : Int64} {row : Nat}
    (typed : ∀ v ∈ column.toList, v.HasType type) (hrow : row < column.size)
    (indexed : column.size < 2 ^ 63) :
    (cellAt column offset row).HasType (if offset = 0 then type else type.optionalForm) := by
  have weaken {v : Value} (hv : v.HasType type) : v.HasType type.optionalForm := by
    obtain ⟨rfl, _⟩ | ⟨k, a, rfl, hk⟩ := hv
    · exact .inl ⟨rfl, by cases type <;> rfl⟩
    · exact .inr ⟨k, a, rfl, by rw [ValueType.optionalForm, ValueType.base_withOptional, hk]⟩
  have word : row < 2 ^ 63 := Nat.lt_trans hrow indexed
  rcases cellAt_cases column offset word indexed with ⟨i, v, _, cell, read⟩ | ⟨nowhere, read⟩
  · have hv : v.HasType type := typed v (Array.mem_toList_iff.mpr (Array.mem_of_getElem? cell))
    rw [read]
    split
    · exact hv
    · exact weaken hv
  · rw [read]
    split
    · -- Without an offset the position is that of the row itself.
      next here =>
        have beyond : column.size ≤ row := nowhere row (by rw [here, Int64.toInt_zero]; omega)
        omega
    · exact .inl ⟨rfl, by cases type <;> rfl⟩

/-- An access to a column has a type if expressions can read the column. -/
theorem columnType_named {offset : Int64} :
    t.columnType (.named name offset) = .ok type ↔
      ∃ s cells, t.columns.get? name = some ⟨.supported s, cells⟩ ∧
        type = if offset = 0 then s else s.optionalForm := by
  cases hc : t.columns.get? name with
  | none => simp [columnType, ColumnRef.name?, hc, ColumnRef.accessType, ColumnRef.rowType?]
  | some column =>
      obtain ⟨columnType, cells⟩ := column
      cases columnType with
      | unsupported hostType =>
          simp [Table.columnType, ColumnRef.name?, hc, ColumnRef.accessType, ColumnRef.rowType?]
      | supported s =>
          simp [Table.columnType, ColumnRef.name?, hc, ColumnRef.accessType, ColumnRef.rowType?,
            eq_comm]

/-- The access is computed from the cells of the column.  Its type has the base of the column,
whatever the offset. -/
theorem computer_named {s : ValueType} {cells : Array Value}
    (column : t.columns.get? name = some ⟨.supported s, cells⟩) (offset : Int64) :
    t.computer (.named name offset) =
      some (.ofCells (if offset = 0 then s else s.optionalForm).base (cellAt cells offset)) := by
  have base : (if offset = 0 then s else s.optionalForm).base = s.base := by
    split
    · rfl
    · rw [ValueType.optionalForm, ValueType.base_withOptional]
  rw [computer, column, base]
  rfl

/-- The computer of an access fits the type of the access on all rows. -/
theorem WellFormed.computer_fits (h : t.WellFormed) (rows : ∀ m, R.rows m → m.row < t.rowCount)
    {ref : ColumnRef} (typed : t.columnType ref = .ok type) :
    ∃ c, t.computer ref = some c ∧ c.Fits R type := by
  cases ref with
  | rowId =>
      cases typed
      refine ⟨_, rfl, Computer.ofCells_fits (t := .required .string) fun m hm => ?_⟩
      have hrow : m.row < t.rowIds.size := rows m hm
      refine .inr ⟨.string, t.rowIds[m.row], ?_, rfl⟩
      rw [rowId?, Array.getElem?_eq_getElem hrow]
      rfl
  | rowIndex =>
      cases typed
      exact ⟨_, rfl, Computer.ofCells_fits (t := .required .integer) fun m _ =>
        .inr ⟨.integer, _, rfl, rfl⟩⟩
  | rowNumber =>
      cases typed
      exact ⟨_, rfl, Computer.ofCells_fits (t := .required .integer) fun m _ =>
        .inr ⟨.integer, _, rfl, rfl⟩⟩
  | named name offset =>
      obtain ⟨s, cells, found, rfl⟩ := columnType_named.mp typed
      have filled := h.filled name _ found
      have size : cells.size = t.rowCount := filled.size
      refine ⟨_, computer_named found offset, Computer.ofCells_fits fun m hm => ?_⟩
      refine cellAt_hasType (filled.typed s rfl) ?_ ?_
      · rw [size]
        exact rows m hm
      · rw [size]
        exact h.indexed

/-- So does that of an aggregation over a column. -/
theorem WellFormed.aggregation_fits (h : t.WellFormed) (note : Note) (called : String) (args : Args)
    {a : Aggregation} {column : ValueType} {bound : Arguments Value}
    (hname : Aggregation.columnName? bound = some name)
    (hcolumn : t.columnType (.named name 0) = .ok column)
    (declared : a.returnType column = .ok type) :
    ∃ c, t.aggregation (.call note .aggregation called args
      (some (.aggregation a column bound))) = some c ∧ c.Fits R type := by
  obtain ⟨s, cells, found, same⟩ := columnType_named.mp hcolumn
  obtain rfl : column = s := same.trans (if_pos rfl)
  have typed := (h.filled name _ found).typed column rfl
  refine ⟨_, ?_, Aggregation.result_fits bound declared cells.toList typed⟩
  rw [aggregation, hname]
  simp only [Option.bind_eq_bind, Option.bind_some, found, Array.foldl_toList]
  rfl

/-! ## What a table serves -/

theorem column_served {ref : ColumnRef} {c : Computer} (served : t.computer ref = some c) :
    ∃ base read, c = .ofCells base read := by
  cases ref with
  | named name offset =>
      obtain ⟨column, _, served⟩ := Option.bind_eq_some_iff.mp served
      obtain ⟨type, _, served⟩ := Option.bind_eq_some_iff.mp served
      exact ⟨_, _, (Option.some.inj served).symm⟩
  | _ => exact ⟨_, _, (Option.some.inj served).symm⟩

theorem aggregation_served {e : Expr} {c : Computer} (served : t.aggregation e = some c) :
    ∃ a : Accumulator, c = a.result := by
  unfold aggregation at served
  split at served
  · obtain ⟨name, _, served⟩ := Option.bind_eq_some_iff.mp served
    obtain ⟨column, _, served⟩ := Option.bind_eq_some_iff.mp served
    exact ⟨_, (Option.some.inj served).symm⟩
  · cases served

end Table

end Rowwise
