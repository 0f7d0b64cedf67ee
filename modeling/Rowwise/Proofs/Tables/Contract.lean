import Rowwise.Proofs.Table

/-!
# What a table promises to its readers

A table answers two questions about an access separately: which type it has, and which computer
reads it.  A reader relies on the answers to agree.  This file states what they agree on, for every
table that can be built and every access, and for every row of the table: there is a computer
exactly if there is a type, and it reads the cell that the access means, as a value of the type.

The cell that an access means is given by positions as integers (`Table.Holds`), so that the
offsets at the ends of the 64-bit range need no arithmetic of their own.

A table that is changed in place must not be left half changed: `Table.storeColumn` stores a column
in the way in which a program does that owns the table, and leaves it alone if it refuses the
column.
-/

namespace Rowwise

open Eval

/-! ## Distinct names -/

namespace Named

variable {α : Type} {c : Named α}

theorem nodup_insert (h : c.names.Nodup) (name : String) (a : α) :
    (c.insert name a).names.Nodup := by
  rw [names_insert]
  split
  · exact h
  · next absent => exact List.nodup_append_comm.mp (List.nodup_cons.mpr ⟨absent, h⟩)

/-- Under distinct names, every entry is the one that is found under its name. -/
theorem get?_of_mem (h : c.names.Nodup) {name : String} {a : α} (mem : (name, a) ∈ c.entries) :
    c.get? name = some a := by
  obtain ⟨entries⟩ := c
  simp only [names, get?] at *
  induction entries with
  | nil => cases mem
  | cons entry rest ih =>
      obtain ⟨n, b⟩ := entry
      rw [List.map_cons, List.nodup_cons] at h
      obtain ⟨fresh, distinct⟩ := h
      rcases List.mem_cons.mp mem with here | there
      · cases here
        simp
      · have other : name ≠ n := by
          rintro rfl
          exact fresh (List.mem_map.mpr ⟨_, there, rfl⟩)
        rw [lookup_cons_of_ne other]
        exact ih distinct there

end Named

/-! ## Reading cells -/

theorem Eval.at_moment_bind {α : Type} (f : Moment → Eval α) (m : Moment) (log : WarningLog) :
    (readThe Moment >>= f).at_ m log = (f m).at_ m log := rfl

/-- A computer over cells reads the cell of the row, and records nothing. -/
theorem Computer.ofCells_reads {type : ValueType} {read : Nat → Value} {m : Moment}
    (h : (read m.row).HasType type) (log : WarningLog) :
    (Computer.ofCells type.base read).value.at_ m log = (.ok (read m.row), log) ∧
      (Computer.ofCells type.base read).isMissing.at_ m log =
        (.ok (read m.row).isMissing, log) := by
  have step (k : Kind) : (Computer.ofCells (some k) read).value.at_ m log =
      if (read m.row).isMissing then (.ok .missing, log)
      else
        (readCell k (read m.row)).elim (.error (.fault .cellKind), log)
          fun a => (.ok (.of k a), log) := by
    simp only [ofCells, value, bind_assoc, map_eq_pure_bind, at_moment_bind, pure_bind]
    cases (read m.row).isMissing
    · simp only [Bool.false_eq_true, if_false, at_moment_bind]
      cases readCell k (read m.row) <;> rfl
    · rfl
  refine ⟨?_, ?_⟩
  · obtain ⟨hv, _⟩ | ⟨k, a, hv, base⟩ := h
    · cases type with
      | missing => rw [hv]; rfl
      | of k o => exact (step k).trans (by rw [hv]; rfl)
    · rw [base, step, hv]
      cases k <;> rfl
  · cases type with
    | missing =>
        obtain ⟨hv, _⟩ | ⟨_, _, _, base⟩ := h
        · rw [hv]; rfl
        · cases base
    | of k o => rfl

namespace Table

variable {t t' : Table} {name : String} {type : ValueType} {cells : List Value}

/-- The value that an access means on a row of the table. -/
inductive Holds (t : Table) (row : Nat) : ColumnRef → Value → Prop where
  | rowId {id : String} (cell : t.rowId? row = some id) : Holds t row .rowId (.string id)
  | rowIndex {n : Int64} (position : n.toInt = row) : Holds t row .rowIndex (.integer n)
  | rowNumber {n : Int64} (position : n.toInt = row + 1) : Holds t row .rowNumber (.integer n)
  | cell {name : String} {offset : Int64} {i : Nat} {v : Value}
      (position : (i : Int) = row + offset.toInt) (cell : t.value? name i = some v) :
      Holds t row (.named name offset) v
  /-- The table has no row there. -/
  | beyond {name : String} {offset : Int64}
      (nowhere : ∀ i : Nat, (i : Int) = row + offset.toInt → t.rowCount ≤ i) :
      Holds t row (.named name offset) .missing

/-- An access means one value on a row, as all columns end with the table. -/
theorem WellFormed.holds_unique (h : t.WellFormed) {row : Nat} {ref : ColumnRef} {v w : Value}
    (hv : t.Holds row ref v) (hw : t.Holds row ref w) : v = w := by
  have within {name : String} {i : Nat} {v : Value} (cell : t.value? name i = some v) :
      i < t.rowCount := by
    obtain ⟨c, hc, hi⟩ := Option.bind_eq_some_iff.mp cell
    rw [← (h.filled name c hc).size]
    exact (Array.getElem?_eq_some_iff.mp hi).1
  cases hv with
  | rowId cell =>
      cases hw with
      | rowId cell' => rw [Option.some.inj (cell.symm.trans cell')]
  | rowIndex position =>
      cases hw with
      | rowIndex position' => rw [Int64.toInt_inj.mp (position.trans position'.symm)]
  | rowNumber position =>
      cases hw with
      | rowNumber position' => rw [Int64.toInt_inj.mp (position.trans position'.symm)]
  | @cell _ _ i _ position cell =>
      cases hw with
      | @cell _ _ j _ position' cell' =>
          -- Both cells stand in one place, since both positions are that of the row.
          obtain rfl : i = j := by omega
          exact Option.some.inj (cell.symm.trans cell')
      | beyond nowhere => exact absurd (within cell) (Nat.not_lt.mpr (nowhere i position))
  | beyond nowhere =>
      cases hw with
      | @cell _ _ i _ position cell =>
          exact absurd (within cell) (Nat.not_lt.mpr (nowhere i position))
      | beyond _ => rfl

/-- What is read some rows away is what the access means. -/
theorem WellFormed.holds_cellAt (h : t.WellFormed) {column : ColumnType} {cells : Array Value}
    (found : t.columns.get? name = some ⟨column, cells⟩) (offset : Int64) {row : Nat}
    (hrow : row < t.rowCount) : t.Holds row (.named name offset) (cellAt cells offset row) := by
  have indexed := h.indexed
  have size : cells.size = t.rowCount := (h.filled name _ found).size
  have word : row < 2 ^ 63 := Nat.lt_trans hrow indexed
  rcases cellAt_cases cells offset word (size ▸ indexed) with ⟨i, v, position, cell, read⟩ |
      ⟨nowhere, read⟩
  · rw [read]
    apply Holds.cell position
    rw [value?, found, Option.bind_some, cell]
  · rw [read]
    apply Holds.beyond
    rwa [← size]

/-- The computer of an access reads what the access means on every row of the table, as a value of
the type of the access, and never fails. -/
structure Reads (t : Table) (ref : ColumnRef) (type : ValueType) (c : Computer) : Prop where
  base : c.base = type.base
  reads : ∀ row < t.rowCount, ∃ v, (∀ w, t.Holds row ref w ↔ w = v) ∧ v.HasType type ∧
    ∀ start log, c.value.at_ ⟨row, start⟩ log = (.ok v, log) ∧
      c.isMissing.at_ ⟨row, start⟩ log = (.ok v.isMissing, log)

theorem WellFormed.reads_cells (h : t.WellFormed) {ref : ColumnRef} {read : Nat → Value}
    (cells : ∀ row < t.rowCount, (read row).HasType type ∧ t.Holds row ref (read row)) :
    t.Reads ref type (.ofCells type.base read) where
  base := by cases type <;> rfl
  reads row hrow := by
    obtain ⟨typed, holds⟩ := cells row hrow
    refine ⟨read row, fun w => ⟨fun hw => h.holds_unique hw holds, ?_⟩, typed, fun start log => ?_⟩
    · rintro rfl
      exact holds
    · exact Computer.ofCells_reads (m := ⟨row, start⟩) typed log

/-- An access has a computer exactly if it has a type. -/
theorem computer_iff_columnType (t : Table) (ref : ColumnRef) :
    (∃ c, t.computer ref = some c) ↔ ∃ type, t.columnType ref = .ok type := by
  cases ref with
  | rowId | rowIndex | rowNumber => exact ⟨fun _ => ⟨_, rfl⟩, fun _ => ⟨_, rfl⟩⟩
  | named name offset =>
      constructor
      · rintro ⟨c, hc⟩
        obtain ⟨⟨columnType, cells⟩, hget, hc⟩ := Option.bind_eq_some_iff.mp hc
        obtain ⟨s, hs, _⟩ := Option.bind_eq_some_iff.mp hc
        cases columnType with
        | unsupported => cases hs
        | supported => exact ⟨_, columnType_named.mpr ⟨_, cells, hget, rfl⟩⟩
      · rintro ⟨type, typed⟩
        obtain ⟨s, cells, hget, _⟩ := columnType_named.mp typed
        exact ⟨_, computer_named hget offset⟩

/-- The computer of an access to a well-formed table reads what the access means. -/
theorem WellFormed.reads (h : t.WellFormed) {ref : ColumnRef} {c : Computer}
    (found : t.computer ref = some c) (typed : t.columnType ref = .ok type) :
    t.Reads ref type c := by
  have indexed := h.indexed
  have word {row : Nat} (hrow : row < t.rowCount) : (Int64.ofNat row).toInt = row :=
    Int64.toInt_ofNat_of_lt (by omega)
  cases ref with
  | rowId =>
      cases found
      cases typed
      refine h.reads_cells fun row hrow => ?_
      have cell : t.rowId? row = some t.rowIds[row] := Array.getElem?_eq_getElem hrow
      rw [cell]
      exact ⟨.inr ⟨.string, _, rfl, rfl⟩, .rowId cell⟩
  | rowIndex =>
      cases found
      cases typed
      refine h.reads_cells fun row hrow => ?_
      exact ⟨.inr ⟨.integer, _, rfl, rfl⟩, .rowIndex (word hrow)⟩
  | rowNumber =>
      cases found
      cases typed
      refine h.reads_cells fun row hrow => ?_
      refine ⟨.inr ⟨.integer, _, rfl, rfl⟩, .rowNumber ?_⟩
      -- The number of a row is a word as well, as the table is indexed by words.
      have successor : Int64.ofNat row + 1 = Int64.ofNat (row + 1) := by simp
      rw [successor, Int64.toInt_ofNat_of_lt (by omega)]
      simp
  | named name offset =>
      obtain ⟨s, cells, hget, rfl⟩ := columnType_named.mp typed
      have filled := h.filled name _ hget
      have size : cells.size = t.rowCount := filled.size
      cases (computer_named hget offset).symm.trans found
      refine h.reads_cells fun row hrow => ⟨?_, h.holds_cellAt hget offset hrow⟩
      exact cellAt_hasType (filled.typed s rfl) (by omega) (by omega)

/-! ## Building tables -/

/-- A table with so many rows can be built, as with any other ids. -/
theorem Built.ofSize {n : Nat} (fits : n < 2 ^ 63) : (Table.ofSize n).Built :=
  .new (by simpa using fits)

/-- The columns of a table have distinct names. -/
theorem Built.names_nodup (h : t.Built) : t.columns.names.Nodup := by
  have stored {t t' : Table} {name : String} {type : ValueType} {cells : List Value}
      (ih : t.columns.names.Nodup) (set : t.setColumn name type cells = .ok t') :
      t'.columns.names.Nodup := by
    obtain ⟨_, _, rfl⟩ := setColumn_ok set
    exact Named.nodup_insert ih _ _
  induction h with
  | new _ => exact List.nodup_nil
  | setColumn _ set ih => exact stored ih set
  | withColumn _ added ih =>
      unfold Table.withColumn at added
      split at added
      · cases added
      · exact stored ih added
  | withUnsupportedColumn _ ih => exact Named.nodup_insert ih _ _
  | filter _ ih =>
      rw [Table.filter, Named.names_map]
      exact ih

/-- Replaces a column of a table in its place, or adds one at its end.  A program that owns the
table runs this on it, and keeps what it leaves behind even if the column is refused. -/
def storeColumn (name : String) (type : ValueType) (cells : List Value) :
    ExceptT TableError (StateM Table) Unit := do
  let t ← get
  if cells.length ≠ t.rowCount then
    throw (.lengthMismatch name t.rowCount cells.length)
  match firstMisfit type 0 cells with
  | some (row, found) => throw (.typeMismatch name type row found)
  | none =>
    set { t with columns := t.columns.insert name ⟨.supported type, cells.toArray⟩ }

/-- Storing a column leaves behind the table with the column, or the table as it was. -/
theorem run_storeColumn (t : Table) (name : String) (type : ValueType) (cells : List Value) :
    (storeColumn name type cells).run.run t =
      match t.setColumn name type cells with
      | .ok t' => (.ok (), t')
      | .error cause => (.error cause, t) := by
  have read (f : Table → ExceptT TableError (StateM Table) Unit) :
      (get >>= f).run.run t = (f t).run.run t := rfl
  rw [storeColumn, read, setColumn]
  by_cases length : cells.length = t.rowCount
  · rw [if_neg (not_not_intro length), if_neg (not_not_intro length)]
    cases firstMisfit type 0 cells <;> rfl
  · rw [if_pos length, if_pos length]
    rfl

/-- Whether the column is stored or refused, the table that is left behind can be built. -/
theorem Built.storeColumn (h : t.Built) (name : String) (type : ValueType) (cells : List Value) :
    ((storeColumn name type cells).run.run t).2.Built := by
  rw [run_storeColumn]
  cases set : t.setColumn name type cells with
  | ok t' => exact .setColumn h set
  | error cause => exact h

/-! ## The contract -/

/-- What a table keeps to, and what it promises to those that type and read accesses to it. -/
structure Contract (t : Table) : Prop where
  /-- Every column has a cell for every row, all of its type. -/
  filled : ∀ entry ∈ t.columns.entries, entry.2.Filled t.rowCount
  /-- A column that is refused leaves nothing behind. -/
  kept : ∀ name type cells cause left,
    (storeColumn name type cells).run.run t = (.error cause, left) → left = t
  served : ∀ ref, (∃ c, t.computer ref = some c) ↔ ∃ type, t.columnType ref = .ok type
  reads : ∀ ref c type, t.computer ref = some c → t.columnType ref = .ok type →
    t.Reads ref type c

/-- Every table that can be built keeps the contract. -/
theorem Built.contract (h : t.Built) : t.Contract where
  filled entry mem := h.wellFormed.filled entry.1 entry.2 (Named.get?_of_mem h.names_nodup mem)
  kept name type cells cause left refused := by
    rw [run_storeColumn] at refused
    cases set : t.setColumn name type cells with
    | ok t' => rw [set] at refused; cases refused
    | error _ => rw [set] at refused; cases refused; rfl
  served := computer_iff_columnType t
  reads _ _ _ found typed := h.wellFormed.reads found typed

namespace Sample

/-- Three rows of integers, one of them missing. -/
def readings : Table :=
  { rowIds := #["a", "b", "c"]
    columns := ⟨[("n", ⟨.supported (.optionalOf .integer), #[.integer 1, .missing, .integer 3]⟩)]⟩ }

/-- Of a table whose column was replaced by one that cannot be read, one row is left. -/
theorem replaced_contract :
    ((readings.withUnsupportedColumn "n" "Bit vector").filter [true, false]).rowCount = 1 ∧
      ((readings.withUnsupportedColumn "n" "Bit vector").filter [true, false]).Contract := by
  have set : ({ rowIds := #["a", "b", "c"] } : Table).setColumn "n" (.optionalOf .integer)
      [.integer 1, .missing, .integer 3] = .ok readings := rfl
  have built : readings.Built := .setColumn (.new (by decide)) set
  exact ⟨rfl, Built.contract (.filter built.withUnsupportedColumn)⟩

end Sample

end Table

end Rowwise
