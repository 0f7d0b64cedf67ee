import Rowwise.Proofs.Congruence.Choice
import Rowwise.Proofs.Congruence.Expressions
import Rowwise.Proofs.Locality.Alike
import Rowwise.Proofs.Runner
import Rowwise.Proofs.Typing.Structure

/-!
# Filtering commutes with computing

A run over the rows of a table that are kept is the run over all of them with the other rows left
out afterwards, if no expression looks beyond its row: `Runner.run_filter`.

The relation between the rows of both tables is `Table.Keeps`.  Typing looks at no cell, so that
both runs compile one tree (`Table.rowContext_filter`).  The tables serve every node of that tree
alike along `Table.Keeps`, and all built-in functions are proper, so that the computers of the
tree are alike and what is read on a kept row is what was read on the row that it was.  The column
that is stored is then the one of the other run with cells left out, and the next expression finds
the two tables in the relation that they started in.
-/

namespace Rowwise

open Eval Runner

/-! ## Expressions that stay on their row -/

/-- The node reads no other row than its own, and not the number of that. -/
def Expr.staysOnRow : Expr → Bool
  | .column _ (.named _ offset) => offset == 0
  | .column _ .rowId => true
  | .column _ .rowIndex | .column _ .rowNumber => false
  | .call _ .aggregation _ _ _ => false
  | _ => true

/-- Every node of the tree stays on its row. -/
def Expr.isRowLocal (e : Expr) : Bool := e.nodes.all Expr.staysOnRow

/-- Every expression that can be parsed stays on its row. -/
def Runner.isRowLocal (r : Runner) : Bool :=
  r.entries.all fun (_, o) =>
    match parse o.source with
    | .ok e => e.isRowLocal
    | .error _ => true

theorem Expr.staysOnRow_erase (e : Expr) : e.erase.staysOnRow = e.staysOnRow := by
  cases e with
  | column _ ref => cases ref <;> rfl
  | call _ callee _ _ _ => cases callee <;> rfl
  | _ => rfl

/-- Typing changes notes and bindings only, and those do not count. -/
theorem Expr.isRowLocal_infer (ctx : TypingContext) (e : Expr) :
    (e.infer ctx).1.isRowLocal = e.isRowLocal := by
  have erased (e : Expr) : e.isRowLocal = (e.nodes.map Expr.erase).all Expr.staysOnRow := by
    rw [isRowLocal, List.all_map]
    exact congrArg e.nodes.all (funext fun n => (staysOnRow_erase n).symm)
  rw [erased, erased, Expr.map_erase_nodes_infer]

/-- What compiles stays on its row if what was parsed does. -/
theorem Expr.isRowLocal_of_compile {source : String} {ctx : TypingContext} {e : Expr}
    {type : ValueType} (stays : ∀ parsed, parse source = .ok parsed → parsed.isRowLocal = true)
    (h : compile source ctx = .ok (e, type)) : e.isRowLocal = true := by
  unfold compile at h
  split at h
  · cases h
  · next parsed hparse =>
      rw [← stays parsed hparse, ← isRowLocal_infer ctx parsed]
      split at h
      · next inferred =>
          cases h
          rw [inferred]
      · cases h

/-! ## Rows that are kept -/

namespace Table

variable {t t' : Table} {keep : List Bool} {vars : FlowVariables} {i j : Nat} {name : String}
  {type : ValueType} {cells : List Value}

theorem keepMarked_map {α β : Type} (f : α → β) (keep : List Bool) (xs : List α) :
    keepMarked keep (xs.map f) = (keepMarked keep xs).map f := by
  unfold keepMarked
  rw [List.zip_map_left, List.filterMap_map, List.map_filterMap]
  refine congrArg (List.filterMap · _) (funext fun (x, marked) => ?_)
  cases marked <;> rfl

/-- Row `i` of the table becomes row `j` when the rows are left out that are not marked. -/
def Keeps (t : Table) (keep : List Bool) (i j : Nat) : Prop :=
  (keepMarked keep (List.range t.rowCount))[j]? = some i

/-- A list with an element for every row loses those of the rows that are left out. -/
theorem Keeps.getElem? {α : Type} (h : t.Keeps keep i j) (xs : List α)
    (length : xs.length = t.rowCount) : (keepMarked keep xs)[j]? = xs[i]? := by
  -- The list is that of the positions with each replaced by what is there, and that can as well be
  -- done after positions have been left out.
  have listed : (List.range t.rowCount).map (xs[·]?) = xs.map some := by
    refine List.ext_getElem (by simp [length]) fun k _ hk => ?_
    simp only [List.getElem_map, List.getElem_range]
    exact List.getElem?_eq_getElem (by simpa using hk)
  have kept := keepMarked_map (xs[·]?) keep (List.range t.rowCount)
  rw [listed, keepMarked_map] at kept
  have here := congrArg (·[j]?) kept
  have row : (keepMarked keep (List.range t.rowCount))[j]? = some i := h
  simp only [List.getElem?_map, row, Option.map_some] at here
  obtain ⟨x, hx, same⟩ := Option.map_eq_some_iff.mp here
  rw [hx, same]

theorem Keeps.lt (h : t.Keeps keep i j) : i < t.rowCount :=
  List.mem_range.mp (mem_of_mem_keepMarked (List.mem_of_getElem? h))

theorem rowCount_filter (t : Table) (keep : List Bool) :
    (t.filter keep).rowCount = (keepMarked keep (List.range t.rowCount)).length := by
  simp only [rowCount, Table.filter, List.size_toArray]
  exact length_keepMarked (by simp)

theorem Keeps.lt_filter (h : t.Keeps keep i j) : j < (t.filter keep).rowCount := by
  rw [rowCount_filter]
  exact (List.getElem?_eq_some_iff.mp h).1

/-- Every row that is left was one of the table. -/
theorem exists_keeps (h : j < (t.filter keep).rowCount) : ∃ i, t.Keeps keep i j := by
  rw [rowCount_filter] at h
  exact ⟨_, List.getElem?_eq_getElem h⟩

/-! ## What both tables serve -/

theorem get?_filter (t : Table) (keep : List Bool) (name : String) :
    (t.filter keep).columns.get? name = (t.columns.get? name).map fun c =>
      { c with cells := (keepMarked keep c.cells.toList).toArray } :=
  Named.get?_map ..

theorem hasColumn_filter (t : Table) (keep : List Bool) (name : String) :
    (t.filter keep).hasColumn name = t.hasColumn name := by
  rw [hasColumn, Named.contains, get?_filter, Option.isSome_map]
  rfl

/-- An expression over the rows that are left is typed over the same names. -/
theorem rowContext_filter (t : Table) (keep : List Bool) (vars : FlowVariables) :
    rowContext (t.filter keep) vars = rowContext t vars := by
  have columnType : (t.filter keep).columnType = t.columnType := by
    funext ref
    unfold Table.columnType
    cases ref.name? with
    | none => rfl
    | some name =>
        rw [Option.bind_some, Option.bind_some, get?_filter, Option.map_map]
        rfl
  unfold rowContext
  rw [columnType]

/-- On its own row, an access reads from the rows that are left what it reads from all. -/
theorem WellFormed.computer_filter (wf : t.WellFormed) (keep : List Bool) (note : Note)
    {ref : ColumnRef} (stays : (Expr.column note ref).staysOnRow = true) :
    Option.Rel (Computer.Related (along (t.Keeps keep))) (t.computer ref)
      ((t.filter keep).computer ref) := by
  cases ref with
  | rowIndex => cases stays
  | rowNumber => cases stays
  | rowId =>
      refine .some (Computer.related_along.mpr (Computer.ofCells_alike _ fun i j kept => ?_))
      have same := kept.getElem? t.rowIds.toList rfl
      simp only [rowId?, Table.filter, List.getElem?_toArray, same, Array.getElem?_toList]
  | named name offset =>
      obtain rfl : offset = 0 := beq_iff_eq.mp stays
      rw [Table.computer, Table.computer, get?_filter]
      cases found : t.columns.get? name with
      | none => exact .none
      | some column =>
          obtain ⟨columnType, cells⟩ := column
          cases columnType with
          | unsupported => exact .none
          | supported type =>
              have filled := (wf.filled name _ found).size
              refine .some (Computer.related_along.mpr
                (Computer.ofCells_alike _ fun i j kept => ?_))
              have same := kept.getElem? cells.toList (by simpa using filled)
              -- Both positions are words of 64 bits, which do not wrap around below the row count.
              have indexed := wf.indexed
              have indexed' := (wf.filter keep).indexed
              have hi := kept.lt
              have hj := kept.lt_filter
              rw [cellAt_zero _ (by omega), cellAt_zero _ (by omega)]
              simp only [Array.getD_eq_getD_getElem?, List.getElem?_toArray, same,
                Array.getElem?_toList]

/-- Both tables serve the nodes of a tree alike that was typed and stays on its row. -/
theorem WellFormed.serveRelated (wf : t.WellFormed) (keep : List Bool) {n : Expr}
    (typed : n.WellTyped (rowContext t vars)) (stays : n.staysOnRow = true) :
    Host.ServeRelated (along (t.Keeps keep)) (t.host vars) ((t.filter keep).host vars) n := by
  cases n with
  | column note ref => exact wf.computer_filter keep note stays
  | flowVariable note name =>
      show Option.Rel _ (vars.computer name) (vars.computer name)
      unfold FlowVariables.computer
      cases vars.value? name with
      | none => exact .none
      | some v => exact .some (Computer.constant_related v)
  | call note callee name args resolution =>
      cases callee with
      | aggregation => cases stays
      | function =>
          obtain ⟨_, f, r, s, hf, rfl, ⟨_, _, _⟩, _⟩ := typed
          exact Functions.library_proper hf
  | _ => trivial

/-! ## Storing columns -/

/-- A column with a cell of its type for every row is stored. -/
theorem setColumn_of_typed (length : cells.length = t.rowCount)
    (typed : ∀ v ∈ cells, v.HasType type) :
    t.setColumn name type cells =
      .ok { t with columns := t.columns.insert name ⟨.supported type, cells.toArray⟩ } := by
  cases set : t.setColumn name type cells with
  | error cause =>
      obtain ⟨row, v, hv, misfit, _⟩ := setColumn_error length set
      exact absurd (typed v (List.mem_of_getElem? hv)) misfit
  | ok stored =>
      obtain ⟨_, _, rfl⟩ := setColumn_ok set
      rfl

/-- What is stored over all rows is stored over those that are left, with its cells there. -/
theorem setColumn_filter (h : t.setColumn name type cells = .ok t') (keep : List Bool) :
    (t.filter keep).setColumn name type (keepMarked keep cells) = .ok (t'.filter keep) := by
  obtain ⟨length, typed, rfl⟩ := setColumn_ok h
  rw [setColumn_of_typed]
  · simp only [Table.filter, Named.map_insert]
  · exact length_keepMarked (by simpa [rowCount] using length)
  · exact fun v hv => typed v (mem_of_mem_keepMarked hv)

end Table

namespace Runner

open Table

variable {t t' : Table} {keep : List Bool} {vars : FlowVariables} {start : ZonedDateTime}
  {index : Nat} {name : String} {o : Output} {warning : Option String} {c c' : Computer}

/-! ## Reading all rows -/

/-- Values that are answered whatever was recorded are read in order. -/
theorem readRows_of_answers {rows : List Nat} {vs : List Value}
    (h : List.Forall₂ (fun row v => c.value.Answers ⟨row, start⟩ (.ok v)) rows vs)
    (log : WarningLog) : (readRows c start rows log).1 = .ok vs := by
  induction h generalizing log with
  | nil => rfl
  | @cons row v rows vs answer _ ih =>
      have answer := answer log
      rw [readRows_cons]
      rcases hv : c.value.at_ ⟨row, start⟩ log with ⟨_ | _, after⟩ <;> rw [hv] at answer
      · cases answer
      · cases answer
        have rest := ih after
        dsimp only
        rcases hvs : readRows c start rows after with ⟨_ | _, _⟩ <;> rw [hvs] at rest
        · cases rest
        · cases rest
          rfl

/-- If alike computers read the rows of both tables, those that are kept have the values that they
had. -/
theorem readRows_filter (alike : c.Alike (t.Keeps keep) c') {vs : List Value} {log : WarningLog}
    (h : (readRows c start (List.range t.rowCount) log).1 = .ok vs) (log' : WarningLog) :
    (readRows c' start (List.range (t.filter keep).rowCount) log').1 = .ok (keepMarked keep vs) := by
  obtain ⟨vs', hvs, length, reads⟩ | ⟨e, he, _⟩ :=
    readRows_cases c start (List.range t.rowCount) log
  · cases h.symm.trans hvs
    rw [List.length_range] at length
    refine readRows_of_answers (List.forall₂_iff_get.mpr ⟨?_, fun j hj hv => ?_⟩) log'
    · rw [List.length_range, rowCount_filter]
      exact length_keepMarked (by rw [List.length_range, length])
    · rw [List.length_range] at hj
      obtain ⟨i, kept⟩ := exists_keeps hj
      have value : vs[i]? = some ((keepMarked keep vs).get ⟨j, hv⟩) := by
        rw [← kept.getElem? vs length]
        exact List.getElem?_eq_getElem hv
      -- On row `i` the value was read from some log, and on row `j` it is from every one.
      obtain ⟨row, hrow, log, read⟩ := reads i _ value
      obtain ⟨_, rfl⟩ := List.getElem?_eq_some_iff.mp hrow
      rw [List.getElem_range] at read
      obtain ⟨r, answer, answer'⟩ := alike.value.answer i j kept start
      rw [answer log] at read
      rw [List.get_eq_getElem, List.getElem_range]
      exact read ▸ answer'
  · cases h.symm.trans he

/-- The values of an expression on the rows that are left are those that it has there among all. -/
theorem evaluateRows_filter {e : Expr} {type : ValueType} {values : List Value}
    {warnings : List String} (built : e.build (t.host vars) = .ok c) (base : c.base = type.base)
    (agree : Except.Agree (Computer.Related (along (t.Keeps keep))) (e.build (t.host vars))
      (e.build ((t.filter keep).host vars)))
    (h : evaluateRows index e type t vars start = .ok (values, warnings)) :
    ∃ warnings', evaluateRows index e type (t.filter keep) vars start =
      .ok (keepMarked keep values, warnings') := by
  rw [built] at agree
  obtain ⟨c', built', related⟩ := agree.of_ok
  have alike := Computer.related_along.mp related
  rw [evaluateRows_eq index start built base] at h
  rw [evaluateRows_eq index start built' (alike.base_eq.symm.trans base)]
  rcases all : readRows c start (List.range t.rowCount) {} with ⟨_ | vs, log⟩ <;> rw [all] at h
  · cases h
  · cases h
    have kept := readRows_filter alike (congrArg Prod.fst all) {}
    rcases left : readRows c' start (List.range (t.filter keep).rowCount) {} with ⟨_ | _, log'⟩ <;>
      rw [left] at kept
    · cases kept
    · cases kept
      exact ⟨log'.messages, rfl⟩

/-! ## One expression -/

/-- An expression that may be run over a table may be run over the rows that are left. -/
theorem Stage.Prepared.filter {s : Stage} (h : s.Prepared vars) (keep : List Bool) :
    ({ s with table := s.table.filter keep } : Stage).Prepared vars where
  allowed := by
    have allowed := h.allowed
    unfold checkMode at allowed ⊢
    rwa [hasColumn_filter]
  compiled := by
    have compiled := h.compiled
    rwa [← rowContext_filter s.table keep] at compiled
  valued := h.valued

/-- An expression that stays on its row and has its column stored over all rows has it stored over
those that are left, with the same cells there. -/
theorem runOne_filter (wf : t.WellFormed)
    (stays : ∀ e, parse o.source = .ok e → e.isRowLocal = true)
    (h : runOne index name o vars start t = .ok (t', warning)) (keep : List Bool) :
    ∃ warning', runOne index name o vars start (t.filter keep) =
      .ok (t'.filter keep, warning') := by
  obtain ⟨e, type, prepared⟩ | ⟨cause, refused, _⟩ := runOne_cases index name o vars start t
  -- The tree is the same over both tables, and its computers are alike along the rows kept.
  · have onRow := Expr.isRowLocal_of_compile stays prepared.compiled
    obtain ⟨typed, _⟩ := wellTyped_of_compile rowContext_functions rowContext_aggregations prepared.compiled
    have agree : Except.Agree (Computer.Related (along (t.Keeps keep))) (e.build (t.host vars))
        (e.build ((t.filter keep).host vars)) :=
      Expr.agree_build e fun n hn =>
        wf.serveRelated keep (typed.of_mem_nodes n hn) (List.all_eq_true.mp onRow n hn)
    obtain ⟨c, built, base, _⟩ := prepared.keepsType wf start
    rw [prepared.runOne_eq start] at h
    cases values : (Stage.mk index name o t e type).values vars start with
    | error cause =>
        rw [values] at h
        cases h
    | ok result =>
        obtain ⟨vs, warnings⟩ := result
        obtain ⟨warnings', values'⟩ := evaluateRows_filter built base agree values
        rw [values] at h
        dsimp only at h
        cases set : t.setColumn name type vs with
        | error cause =>
            rw [set] at h
            cases h
        | ok stored =>
            rw [set] at h
            cases h
            refine ⟨warnings'.head?, ?_⟩
            rw [(prepared.filter keep).runOne_eq start, Stage.values, values']
            dsimp only
            rw [setColumn_filter set keep]
  · cases h.symm.trans refused

/-! ## Runs -/

/-- Steps that keep two states related in which they start do so in order. -/
theorem inOrder_related {α : Type}
    {step : Nat → String → Output → α → Except RunError (α × Option String)}
    {entries : List (String × Output)} (related : α → α → Prop)
    (keeps : ∀ entry ∈ entries, ∀ index a b a' warning, related a b →
      step index entry.1 entry.2 a = .ok (a', warning) →
      ∃ b' warning', step index entry.1 entry.2 b = .ok (b', warning') ∧ related a' b')
    {index : Nat} {a b : α} {done : WithWarnings α} (start : related a b)
    (h : inOrder step index entries a = .ok done) :
    ∃ done', inOrder step index entries b = .ok done' ∧ related done.result done'.result := by
  induction entries generalizing index a b done with
  | nil =>
      cases h
      exact ⟨⟨b, []⟩, rfl, start⟩
  | cons entry rest ih =>
      obtain ⟨a', warning, more, hstep, hrest, rfl⟩ := inOrder_cons_inv h
      -- The second run takes the step as well, into a state related to that of the first.
      obtain ⟨b', warning', hstep', next⟩ := keeps _ (.head _) _ _ _ _ _ start hstep
      obtain ⟨more', hrest', last⟩ :=
        ih (fun entry hentry => keeps entry (.tail _ hentry)) next hrest
      rw [inOrder_cons_ok hstep', hrest']
      exact ⟨_, rfl, last⟩

/-- Filtering commutes with computing: if no expression looks beyond its row, a run over the rows
that are kept comes to the table of the run over all rows, with the others left out. -/
theorem run_filter {r : Runner} (stays : r.isRowLocal = true) (built : t.Built) (keep : List Bool)
    (vars : FlowVariables) (start : ZonedDateTime) {done : WithWarnings Table}
    (h : r.run t vars start = .ok done) :
    ∃ done', r.run (t.filter keep) vars start = .ok done' ∧
      done'.result = done.result.filter keep := by
  have related := inOrder_related (fun a b => a.WellFormed ∧ b = a.filter keep)
    (fun entry hentry index a b a' warning both step => by
      obtain ⟨wf, rfl⟩ := both
      have parsed := List.all_eq_true.mp stays entry hentry
      obtain ⟨warning', step'⟩ := runOne_filter wf
        (fun e he => by simpa only [he] using parsed) step keep
      exact ⟨_, warning', step', runOne_wellFormed wf step, rfl⟩)
    ⟨built.wellFormed, rfl⟩ h
  obtain ⟨done', run', _, same⟩ := related
  exact ⟨done', run', same⟩

namespace Sample

/-- Three rows, of which one has no value. -/
def gapped : Table :=
  { rowIds := #["Row0", "Row1", "Row2"]
    columns := ⟨[("n", ⟨.supported (.optionalOf .integer), #[.of .integer 1, .missing,
      .of .integer 3]⟩)]⟩ }

/-- A column that is appended, and one that is replaced by what the first one and the id of the row
come to. -/
def onRows : Runner :=
  ⟨[("x", { source := "$n ?? 0 - 1" }),
    ("n", { source := "length($[ROW_ID]) + $x", mode := .replace })]⟩

/-- The run comes to a table, so that the one over the first and the last row does. -/
theorem onRows_filtered : onRows.isRowLocal = true ∧ gapped.Built ∧
    ∃ done, onRows.run gapped .empty default = .ok done ∧
      ∃ done', onRows.run (gapped.filter [true, false, true]) .empty default = .ok done' ∧
        done'.result = done.result.filter [true, false, true] := by
  have stays : onRows.isRowLocal = true := by decide +kernel
  have rows : (Table.mk #["Row0", "Row1", "Row2"] .empty).Built := .new (by decide)
  have stored : (Table.mk #["Row0", "Row1", "Row2"] .empty).setColumn "n" (.optionalOf .integer)
      [.of .integer 1, .missing, .of .integer 3] = .ok gapped := rfl
  have built : gapped.Built := .setColumn rows stored
  have succeeds : (onRows.run gapped .empty default).isOk = true := by decide +kernel
  cases h : onRows.run gapped .empty default with
  | error cause =>
      rw [h] at succeeds
      cases succeeds
  | ok done => exact ⟨stays, built, done, rfl, run_filter stays built _ .empty default h⟩

end Sample

end Runner

end Rowwise
