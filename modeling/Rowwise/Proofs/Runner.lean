import Rowwise.Runner
import Rowwise.Proofs.Functions.BuiltIns
import Rowwise.Proofs.Parsing.Finds
import Rowwise.Proofs.Table

/-!
# Runs over a table

A run takes its expressions one after the other.  What it gets to is an expression that was typed
over a table that was built, and a table serves what it declares, so the built-in functions being
sound is all that it takes for a column to be stored: every value is one of the type that was
inferred, or reading it has failed for a reason that lies in the row.

The functions that round are not sound on NaN.  They find no whole number near it and answer
MISSING, and still declare an INTEGER that has to be there.  `Runner.run_sound` says what is left:
away from NaN a run keeps every type, on NaN each call that rounds breaks its own, and a column is
refused exactly when an expression that must not be MISSING has come out as MISSING on some row.
-/

namespace Rowwise

open Eval

/-! ## Calls that round -/

/-- The argument of a call that rounds to an INTEGER which has to be there. -/
def Expr.rounded? : Expr → Option Expr
  | .call note .function name args (some (.function _ _ bound)) =>
    if name ∈ Functions.roundingNames ∧ note.type = some (.required .integer) then
      match bound.get? "x" with
      | some (.argument i) => (args.toList[i]?).map (·.2)
      | _ => none
    else none
  | _ => none

/-- The node rounds, and the value of its argument is NaN. -/
def Expr.RoundsNaN (host : Host) (m : Moment) (e : Expr) : Prop :=
  ∃ a c s x, e.rounded? = some a ∧ a.build host = .ok c ∧ c.asFloat = .ok s ∧
    s.compute.Answers m (.ok x) ∧ x.isNaN = true

/-- Some node of the tree rounds NaN. -/
def Expr.MeetsNaN (host : Host) (m : Moment) (e : Expr) : Prop :=
  ∃ n ∈ e.nodes, n.RoundsNaN host m

/-- The failures that a run may end with: those that lie in a row, and that of an evaluation which
is cut short as a whole. -/
def EvalError.OfRow (e : EvalError) : Prop := (∃ cause, e = .failure cause) ∨ e = .aborted

/-- The expression was not run at all. -/
def RunError.Refuses : RunError → Prop
  | .evaluation .. | .table _ => False
  | _ => True

variable {R : Regime} {host : Host} {t : Table} {vars : FlowVariables} {e : Expr} {m : Moment}

/-- Whether a parameter that is not given is bound to a value. -/
def Arity.hasDefault : Arity → Bool
  | .optional default => default.isSome
  | _ => false

/-- The parameters of built-in functions have no defaults. -/
theorem Functions.builtIns_without_defaults {f : Function} (hf : f ∈ builtIns) {o : Overload}
    (ho : o ∈ f.overloads) {p : Param} (hp : p ∈ o.params) (v : Value) :
    p.arity ≠ .optional (some v) := by
  have all : builtIns.all fun f => f.overloads.all fun o => o.params.all fun p =>
      !p.arity.hasDefault := by decide +kernel
  have plain := List.all_eq_true.mp (List.all_eq_true.mp (List.all_eq_true.mp all f hf) o ho) p hp
  intro default
  rw [default] at plain
  cases plain

/-- A call that rounds has a computer of its type where its argument is not NaN. -/
theorem Typing.FunctionBinding.computes_on_numbers {note : Note} {name : String} {args : Args}
    {f : Function} {r : Resolution} {t : ValueType} (binding : FunctionBinding args f r t)
    (noted : note.type = some t) (found : f ∈ Functions.builtIns)
    (rounds : name ∈ Functions.roundingNames) (sound : f.SoundOnNumbers R)
    (numbers : ∀ m, R.rows m →
      ¬ (Expr.call note .function name args (some r)).RoundsNaN host m)
    (h : ∀ a ∈ args.toList, a.2.Computes R host) :
    (Expr.call note .function name args (some r)).Computes R host := by
  obtain ⟨index, bound, g, rfl, o, ho, types, applied, build, source⟩ := binding.build_eq noted h
  have avoids : t = .required .integer →
      ∀ c u, (bound.map g).get? "x" = some (c, u) → c.AvoidsNaN R := by
    rintro rfl c u hx s hs m hm x hvalue
    rw [Arguments.get?_map] at hx
    obtain ⟨b, hb, given⟩ := Option.map_eq_some_iff.mp hx
    obtain ⟨v, p, hp, _, default⟩ | ⟨i, a, rfl, ha, hbuild, _⟩ :=
      source b (Arguments.mem_values_of_mem_all (List.mem_of_head? hb))
    · exact absurd default (Functions.builtIns_without_defaults found ho hp v)
    · rw [given] at hbuild
      refine Bool.eq_false_iff.mpr fun nan => numbers m hm ⟨a.2, c, s, x, ?_, hbuild, hs, hvalue, nan⟩
      simp only [Expr.rounded?, rounds, noted, and_self, if_true, hb, ha, Option.map_some]
  obtain ⟨c, hc, fits⟩ := sound.sound o ho types t _ applied avoids
  exact ⟨c, t, build.trans hc, noted, fits⟩

/-- On the rows where its argument is NaN, the value of a call that rounds is MISSING. -/
theorem Typing.FunctionBinding.misses_nan {note : Note} {name : String} {args : Args}
    {f : Function} {r : Resolution} {t : ValueType} (binding : FunctionBinding args f r t)
    (noted : note.type = some t) (sound : f.SoundOnNumbers R)
    (h : ∀ a ∈ args.toList, a.2.Computes R host) {arg : Expr}
    (rounded : (Expr.call note .function name args (some r)).rounded? = some arg) :
    ∃ c, arg.build host = .ok c ∧ ∀ m, c.IsNaN m →
      ∃ d, (Expr.call note .function name args (some r)).build host = .ok d ∧
        d.value.Answers m (.ok .missing) := by
  obtain ⟨index, bound, g, rfl, o, ho, types, applied, build, source⟩ := binding.build_eq noted h
  unfold Expr.rounded? at rounded
  dsimp only at rounded
  split at rounded
  · next rounds =>
      split at rounded
      · next i hi =>
          cases noted.symm.trans rounds.2
          obtain ⟨a, ha, rfl⟩ := Option.map_eq_some_iff.mp rounded
          obtain ⟨v, _, _, hv, _⟩ | ⟨j, b, hj, hb, hbuild, _⟩ :=
            source _ (Arguments.mem_values_of_mem_all (List.mem_of_head? hi))
          · cases hv
          · -- What is bound to the parameter is the argument that is rounded.
            cases hj
            cases ha.symm.trans hb
            refine ⟨_, hbuild, fun m nan => ?_⟩
            have bound_x : (bound.map g).get? "x" = some (g (.argument i)) := by
              rw [Arguments.get?_map, hi, Option.map_some]
            obtain ⟨d, hd, missing⟩ := sound.misses o ho types _ applied m _ _ bound_x nan
            exact ⟨d, build.trans hd, missing⟩
      · cases rounded
  · cases rounded

/-! ## Trees over a table -/

theorem Runner.rowContext_functions : (rowContext t vars).functions = Functions.library := by
  rw [rowContext]

theorem Runner.rowContext_aggregations :
    (rowContext t vars).aggregations = Aggregation.library := by
  rw [rowContext]

/-- What compiles over the built-in functions and aggregations is well-typed, with the type that is
answered. -/
theorem wellTyped_of_compile {ctx : TypingContext} {source : String} {type : ValueType}
    (functions : ctx.functions = Functions.library)
    (aggregations : ctx.aggregations = Aggregation.library)
    (h : compile source ctx = .ok (e, type)) : e.WellTyped ctx ∧ e.type? = some type := by
  unfold compile at h
  split at h
  · cases h
  · next parsed hparse =>
      have agree : TypingContext.Agree [ctx] :=
        TypingContext.agree_of_libraries (by simp [functions]) (by simp [aggregations])
      have untyped := (Expr.parsed_of_parse hparse).untyped
      split at h
      · next e' t' hinfer =>
          cases h
          have accepted : (parsed.infer ctx).2 = .ok type := by rw [hinfer]
          have typed : (parsed.infer ctx).1.WellTyped ctx :=
            Expr.wellTyped_of_infer agree untyped accepted
          have noted := Expr.type?_of_infer accepted
          rw [hinfer] at typed noted
          exact ⟨typed, noted⟩
      · cases h

/-- Any host supports a call of a built-in function: it builds the computer from those of the
arguments. -/
theorem Expr.WellTyped.supports_function {ctx : TypingContext} {note : Note} {name : String}
    {args : Args} {resolution : Option Resolution} (functions : ctx.functions = Functions.library)
    (h : (Expr.call note .function name args resolution).WellTyped ctx) (unasked : R.unasked)
    (aborted : name = "make_zoned" → R.permits .aborted)
    (numbers : ∀ m, R.rows m →
      ¬ (Expr.call note .function name args resolution).RoundsNaN host m) :
    host.Supports R (.call note .function name args resolution) := by
  intro computes
  obtain ⟨_, f, r, s, hf, rfl, binding, hnote⟩ := h
  rw [functions] at hf
  obtain ⟨found, rfl⟩ := Library.of_get?_ofList hf
  obtain ⟨_, sound⟩ | ⟨rounds, sound⟩ := Functions.builtIn_sound found unasked aborted
  · exact binding.computes hnote sound computes
  · exact binding.computes_on_numbers hnote found rounds sound numbers computes

open Runner in
/-- A table supports every node of a tree that was typed over it, on rows where none rounds NaN. -/
theorem Expr.WellTyped.supports_of_table (h : e.WellTyped (rowContext t vars)) (wf : t.WellFormed)
    {rows : Moment → Prop} (indexed : ∀ m, rows m → m.row < t.rowCount)
    (numbers : ∀ m, rows m → ¬ e.RoundsNaN (t.host vars) m) :
    (t.host vars).Supports (.lenient rows) e := by
  cases e with
  | column note ref =>
      intro s noted
      obtain ⟨s', hs, hnote⟩ := h
      cases hnote.symm.trans noted
      exact wf.computer_fits indexed hs
  | flowVariable note name =>
      intro s noted
      obtain ⟨s', hs, hnote⟩ := h
      cases hnote.symm.trans noted
      exact FlowVariables.computer_fits hs
  | call note callee name args resolution =>
      cases callee with
      | aggregation =>
          intro s noted
          obtain ⟨_, a, column, bound, n, s', _, rfl, _, hn, hcolumn, declared, hnote⟩ := h
          cases hnote.symm.trans noted
          exact wf.aggregation_fits note name args hn hcolumn declared
      | function => exact h.supports_function rowContext_functions trivial (fun _ => .inr rfl) numbers
  | _ => trivial

open Runner in
/-- Hence the computers of the nodes fit their types there. -/
theorem Expr.WellTyped.computes_over_table (h : e.WellTyped (rowContext t vars)) (wf : t.WellFormed)
    {rows : Moment → Prop} (indexed : ∀ m, rows m → m.row < t.rowCount)
    (numbers : ∀ m, rows m → ¬ e.MeetsNaN (t.host vars) m) :
    ∀ n ∈ e.nodes, n.Computes (.lenient rows) (t.host vars) := by
  refine h.computes_nodes fun n hn => (h.of_mem_nodes n hn).supports_of_table wf indexed ?_
  exact fun m hm nan => numbers m hm ⟨n, hn, nan⟩

/-- The same errors are permitted, on other rows. -/
def Regime.over (R : Regime) (rows : Moment → Prop) : Regime := { R with rows }

/-- A tree has a computer of the kind of its type.  At moments that are safe, the value is one of
the type, or reading it ends with an error that is permitted. -/
theorem Expr.keepsType {type : ValueType} {S : Moment → Prop} (noted : e.type? = some type)
    (computes : ∀ rows : Moment → Prop, (∀ m, rows m → S m) → e.Computes (R.over rows) host) :
    ∃ c, e.build host = .ok c ∧ c.base = type.base ∧
      ∀ m, S m → ∀ log, (∃ v, (c.value.at_ m log).1 = .ok v ∧ v.HasType type) ∨
        ∃ cause, (c.value.at_ m log).1 = .error cause ∧ R.permits cause := by
  -- Whether there is a computer does not depend on the rows, so none are taken at first.
  obtain ⟨c, s, hc, hs, fits⟩ := computes (fun _ => False) fun _ none => none.elim
  cases noted.symm.trans hs
  refine ⟨c, hc, fits.base_eq, fun m safe log => ?_⟩
  obtain ⟨d, u, hd, hu, fits⟩ := computes (fun n => n = m) (by rintro _ rfl; exact safe)
  cases hc.symm.trans hd
  cases noted.symm.trans hu
  obtain ⟨v, hv⟩ | ⟨cause, permitted, hcause⟩ := fits.value_regular rfl
  · exact .inl ⟨v, hv log, fits.hasType_of_value rfl hv⟩
  · exact .inr ⟨cause, hcause log, permitted⟩

/-! ## Reading all rows -/

/-- A value that is read is MISSING or of the kind of its computer. -/
theorem Computer.base_of_value {c : Computer} {v : Value} {log : WarningLog}
    (h : (c.value.at_ m log).1 = .ok v) : v = .missing ∨ ∃ k a, v = .of k a ∧ c.base = some k := by
  cases c with
  | missing =>
      cases h
      exact .inl rfl
  | of k s =>
      rw [value, at_bind] at h
      split at h
      · next gone _ _ =>
          cases gone with
          | true =>
              cases h
              exact .inl rfl
          | false =>
              simp only [Bool.false_eq_true, if_false, map_eq_pure_bind, at_bind] at h
              split at h
              · cases h
                exact .inr ⟨k, _, rfl, rfl⟩
              · cases h
      · cases h

namespace Runner

variable {c : Computer} {start : ZonedDateTime}

/-- Some log from which the value on the row is read as `r`. -/
def Reads (c : Computer) (start : ZonedDateTime) (row : Nat) (r : Except EvalError Value) : Prop :=
  ∃ log, (c.value.at_ ⟨row, start⟩ log).1 = r

/-- The values of some rows, read in order. -/
def readRows (c : Computer) (start : ZonedDateTime) (rows : List Nat) (log : WarningLog) :
    Except EvalError (List Value) × WarningLog :=
  (rows.mapM fun row => c.value ⟨row, start⟩ : ExceptT EvalError (StateM WarningLog) _).run log

theorem run_bind {α β : Type} (x : ExceptT EvalError (StateM WarningLog) α)
    (f : α → ExceptT EvalError (StateM WarningLog) β) (log : WarningLog) :
    (x >>= f).run log =
      match x.run log with
      | (.ok a, log) => (f a).run log
      | (.error e, log) => (.error e, log) := by
  simp only [ExceptT.run, bind, ExceptT.bind, ExceptT.mk, StateT.bind, ExceptT.bindCont]
  rcases x log with ⟨_ | _, _⟩ <;> rfl

theorem readRows_cons (row : Nat) (rows : List Nat) (log : WarningLog) :
    readRows c start (row :: rows) log =
      match c.value.at_ ⟨row, start⟩ log with
      | (.ok v, log) =>
        match readRows c start rows log with
        | (.ok vs, log) => (.ok (v :: vs), log)
        | (.error e, log) => (.error e, log)
      | (.error e, log) => (.error e, log) := by
  unfold readRows
  have same : c.value.at_ ⟨row, start⟩ log = (c.value ⟨row, start⟩).run log := rfl
  rw [List.mapM_cons, run_bind, same]
  rcases (c.value ⟨row, start⟩).run log with ⟨_ | v, after⟩
  · rfl
  · dsimp only
    rw [run_bind]
    rcases (rows.mapM fun row => c.value ⟨row, start⟩ : ExceptT _ _ _).run after with ⟨_ | _, _⟩
    · rfl
    · rfl

/-- Rows that are read give one value each, and rows that fail do so at one of them. -/
theorem readRows_cases (c : Computer) (start : ZonedDateTime) (rows : List Nat) (log : WarningLog) :
    (∃ vs, (readRows c start rows log).1 = .ok vs ∧ vs.length = rows.length ∧
        ∀ (i : Nat) v, vs[i]? = some v → ∃ row, rows[i]? = some row ∧ Reads c start row (.ok v)) ∨
      ∃ e, (readRows c start rows log).1 = .error e ∧ ∃ row ∈ rows, Reads c start row (.error e) := by
  -- The induction is on the rows; the log is general, since each row is read with that of the rows
  -- before.
  induction rows generalizing log with
  | nil => exact .inl ⟨[], rfl, rfl, by simp⟩
  | cons row rows ih =>
      rw [readRows_cons]
      rcases hv : c.value.at_ ⟨row, start⟩ log with ⟨e | v, after⟩
      · exact .inr ⟨e, rfl, row, .head _, log, by rw [hv]⟩
      · have reads : Reads c start row (.ok v) := ⟨log, by rw [hv]⟩
        have ih := ih after
        dsimp only
        rcases hvs : readRows c start rows after with ⟨e | vs, _⟩ <;> rw [hvs] at ih
        · obtain ⟨_, h, _⟩ | ⟨_, h, r, hr, fails⟩ := ih <;> cases h
          exact .inr ⟨e, rfl, r, .tail _ hr, fails⟩
        · obtain ⟨_, h, length, all⟩ | ⟨_, h, _⟩ := ih <;> cases h
          refine .inl ⟨v :: vs, rfl, congrArg (· + 1) length, fun i w hw => ?_⟩
          cases i with
          | zero =>
              cases hw
              exact ⟨row, rfl, reads⟩
          | succ i => exact all i w hw

/-- The values on all rows, with a computer that needs no conversion to the type of the column. -/
theorem evaluateRows_eq (index : Nat) (start : ZonedDateTime) {type : ValueType} (built : e.build (t.host vars) = .ok c)
    (base : c.base = type.base) :
    evaluateRows index e type t vars start =
      match readRows c start (List.range t.rowCount) {} with
      | (.ok vs, log) => .ok (vs, log.messages)
      | (.error cause, _) => .error (.evaluation index cause) := by
  unfold evaluateRows
  rw [built, ← base]
  simp only [Except.bind, Computer.coerce_base, Except.mapError, Except.ok_bind]
  have read : (valuesOf c start t.rowCount).run {} = readRows c start (List.range t.rowCount) {} :=
    rfl
  rw [read]
  rcases readRows c start (List.range t.rowCount) {} with ⟨_ | _, _⟩
  · rfl
  · rfl

/-! ## Stages of a run -/

/-- An expression of a runner, before the table that it is run over. -/
structure Stage where
  index : Nat
  name : String
  output : Output
  table : Table
  expr : Expr
  type : ValueType

namespace Stage

/-- The expression may be run: its column may be stored, and it compiles to a value. -/
structure Prepared (s : Stage) (vars : FlowVariables) : Prop where
  allowed : checkMode s.index s.name s.output.mode s.table = .ok ()
  compiled : compile s.output.source (rowContext s.table vars) = .ok (s.expr, s.type)
  valued : s.type.isMissing = false

/-- The values of the expression on all rows, with its warnings. -/
def values (s : Stage) (vars : FlowVariables) (start : ZonedDateTime) :
    Except RunError (List Value × List String) :=
  evaluateRows s.index s.expr s.type s.table vars start

/-- On some row, a call in the expression rounds NaN. -/
def MeetsNaN (s : Stage) (vars : FlowVariables) (start : ZonedDateTime) : Prop :=
  ∃ row < s.table.rowCount, s.expr.MeetsNaN (s.table.host vars) ⟨row, start⟩

variable {s : Stage}

/-- The expression has a computer of the kind of its type.  Where it rounds no NaN, the value is
one of the type, or reading it fails for a reason that lies in the row. -/
theorem Prepared.keepsType (h : s.Prepared vars) (wf : s.table.WellFormed) (start : ZonedDateTime) :
    ∃ c, s.expr.build (s.table.host vars) = .ok c ∧ c.base = s.type.base ∧
      ∀ row < s.table.rowCount, ¬ s.expr.MeetsNaN (s.table.host vars) ⟨row, start⟩ → ∀ log,
        (∃ v, (c.value.at_ ⟨row, start⟩ log).1 = .ok v ∧ v.HasType s.type) ∨
          ∃ cause, (c.value.at_ ⟨row, start⟩ log).1 = .error cause ∧ cause.OfRow := by
  obtain ⟨typed, noted⟩ := wellTyped_of_compile rowContext_functions rowContext_aggregations h.compiled
  have safe := Expr.keepsType (R := .lenient fun _ => False)
    (S := fun m => m.row < s.table.rowCount ∧ ¬ s.expr.MeetsNaN (s.table.host vars) m) noted
    fun rows safe => typed.computes_over_table wf (fun m hm => (safe m hm).1)
      (fun m hm => (safe m hm).2) _ (Expr.mem_nodes_self _)
  obtain ⟨c, hc, base, keeps⟩ := safe
  exact ⟨c, hc, base, fun row hrow numbers log => keeps ⟨row, start⟩ ⟨hrow, numbers⟩ log⟩

/-- A call in the expression that rounds has a computer, which is missing where its argument is
NaN. -/
theorem Prepared.missesNaN (h : s.Prepared vars) (wf : s.table.WellFormed) :
    ∀ n ∈ s.expr.nodes, ∀ arg, n.rounded? = some arg →
      n.type? = some (.required .integer) ∧
      ∃ c d, arg.build (s.table.host vars) = .ok c ∧ n.build (s.table.host vars) = .ok d ∧
        ∀ m, c.IsNaN m → d.value.Answers m (.ok .missing) := by
  intro n hn arg rounded
  obtain ⟨typed, _⟩ := wellTyped_of_compile rowContext_functions rowContext_aggregations h.compiled
  -- On no rows at all a table supports every node, so that each of them is built.
  have supports : ∀ m ∈ s.expr.nodes, (s.table.host vars).Supports (.lenient fun _ => False) m :=
    fun m hm => (typed.of_mem_nodes m hm).supports_of_table wf (fun _ h => h.elim) fun _ h => h.elim
  have within : ∀ m ∈ n.nodes, (s.table.host vars).Supports (.lenient fun _ => False) m :=
    fun m hm => supports m (Expr.nodes_subset n hn hm)
  have typed := typed.of_mem_nodes n hn
  obtain ⟨d, u, hd, hu, _⟩ := typed.computes within
  unfold Expr.rounded? at rounded
  split at rounded
  · next note name args f index bound =>
      have rounds := (Option.ite_none_right_eq_some.mp rounded).1
      obtain ⟨htyped, f', r, t, hf, hr, binding, hnote⟩ := typed
      cases hr
      have computes := htyped.computes fun m hm => within m (.tail _ hm)
      obtain ⟨found, hname⟩ := Library.of_get?_ofList hf
      obtain ⟨other, _⟩ | ⟨_, sound⟩ :=
        Functions.builtIn_sound (R := .lenient fun _ => False) found trivial fun _ => .inr rfl
      · exact absurd (hname ▸ rounds.1) other
      · obtain ⟨c, hc, misses⟩ := binding.misses_nan hnote sound computes rounded
        refine ⟨rounds.2, c, d, hc, hd, fun m nan => ?_⟩
        obtain ⟨d', hd', missing⟩ := misses m nan
        cases hd.symm.trans hd'
        exact missing
  · cases rounded

end Stage

/-! ## One expression -/

variable {index : Nat} {name : String} {o : Output} {t' : Table} {warning : Option String}

/-- What stops an expression once it may be run is its values or the table. -/
theorem Stage.Prepared.runOne_eq {s : Stage} (h : s.Prepared vars) (start : ZonedDateTime) :
    runOne s.index s.name s.output vars start s.table =
      match s.values vars start with
      | .ok (values, warnings) =>
        match s.table.setColumn s.name s.type values with
        | .ok t => .ok (t, warnings.head?)
        | .error cause => .error (.table cause)
      | .error cause => .error cause := by
  unfold runOne compileAt
  rw [h.allowed, h.compiled]
  simp only [Except.mapError, Except.ok_bind, h.valued]
  change (s.values vars start >>= _) = _
  rcases s.values vars start with _ | ⟨values, warnings⟩
  · rfl
  · simp only [Except.ok_bind]
    rcases s.table.setColumn s.name s.type values with _ | _
    · rfl
    · rfl

/-- An expression is refused, or it may be run. -/
theorem runOne_cases (index : Nat) (name : String) (o : Output) (vars : FlowVariables)
    (start : ZonedDateTime) (t : Table) :
    (∃ e type, (Stage.mk index name o t e type).Prepared vars) ∨
      ∃ cause, runOne index name o vars start t = .error cause ∧ cause.Refuses := by
  unfold runOne compileAt
  cases allowed : checkMode index name o.mode t with
  | error refused =>
      refine .inr ⟨refused, rfl, ?_⟩
      unfold checkMode at allowed
      split at allowed <;> cases allowed <;> trivial
  | ok _ =>
      cases compiled : compile o.source (rowContext t vars) with
      | error errors => exact .inr ⟨_, rfl, trivial⟩
      | ok result =>
          obtain ⟨e, type⟩ := result
          cases present : type.isMissing with
          | false => exact .inl ⟨e, type, allowed, compiled, present⟩
          | true =>
              refine .inr ⟨.invalidResult index mustNotBeMissing, ?_, trivial⟩
              simp only [Except.mapError, Except.ok_bind, present, if_true]
              rfl

/-- A column that is stored keeps a table well-formed. -/
theorem runOne_wellFormed (wf : t.WellFormed)
    (h : runOne index name o vars start t = .ok (t', warning)) : t'.WellFormed := by
  obtain ⟨e, type, prepared⟩ | ⟨cause, refused, _⟩ := runOne_cases index name o vars start t
  · have eq := prepared.runOne_eq start
    rw [h] at eq
    split at eq
    · split at eq
      · next set =>
          cases eq
          exact wf.setColumn set
      · cases eq
    · cases eq
  · rw [h] at refused
    cases refused

/-! ## Steps in order -/

section InOrder

variable {α : Type} {step : Nat → String → Output → α → Except RunError (α × Option String)}
  {entries rest : List (String × Output)} {a a' : α} {warnings : List (Option String)}
  {cause : RunError}

theorem inOrder_cons_ok (h : step index name o a = .ok (a', warning)) :
    inOrder step index ((name, o) :: rest) a =
      (inOrder step (index + 1) rest a').map fun done =>
        { done with warnings := warning :: done.warnings } := by
  rw [inOrder, h]
  change (inOrder step (index + 1) rest a' >>= _) = _
  cases inOrder step (index + 1) rest a' <;> rfl

theorem inOrder_cons_error (h : step index name o a = .error cause) :
    inOrder step index ((name, o) :: rest) a = .error cause := by
  rw [inOrder, h]
  rfl

/-- Steps in order that do not fail have taken the first step and then the others. -/
theorem inOrder_cons_inv {done : WithWarnings α}
    (h : inOrder step index ((name, o) :: rest) a = .ok done) :
    ∃ b warning more, step index name o a = .ok (b, warning) ∧
      inOrder step (index + 1) rest b = .ok more ∧ done = ⟨more.result, warning :: more.warnings⟩ := by
  cases hstep : step index name o a with
  | error cause =>
      rw [inOrder_cons_error hstep] at h
      cases h
  | ok next =>
      obtain ⟨b, warning⟩ := next
      rw [inOrder_cons_ok hstep] at h
      cases hrest : inOrder step (index + 1) rest b with
      | error cause =>
          rw [hrest] at h
          cases h
      | ok more =>
          rw [hrest] at h
          cases h
          exact ⟨b, warning, more, rfl, hrest, rfl⟩

/-- What every step keeps, all of them in order do. -/
theorem inOrder_invariant {I : α → Prop}
    (keeps : ∀ index name o a a' warning, I a → step index name o a = .ok (a', warning) → I a')
    (start : I a) (h : inOrder step index entries a = .ok ⟨a', warnings⟩) : I a' := by
  induction entries generalizing index a warnings with
  | nil =>
      cases h
      exact start
  | cons entry rest ih =>
      obtain ⟨b, warning, more, hstep, hrest, same⟩ := inOrder_cons_inv h
      cases same
      exact ih (keeps _ _ _ _ _ _ start hstep) hrest

theorem inOrder_append {before : List (String × Output)} :
    inOrder step index (before ++ rest) a =
      (inOrder step index before a).bind fun done =>
        (inOrder step (index + before.length) rest done.result).map fun more =>
          { more with warnings := done.warnings ++ more.warnings } := by
  induction before generalizing index a with
  | nil => cases h : inOrder step index rest a <;> simp [inOrder, Except.bind, Except.map, h]
  | cons entry before ih =>
      obtain ⟨name, o⟩ := entry
      cases hstep : step index name o a with
      | error cause =>
          rw [List.cons_append, inOrder_cons_error hstep, inOrder_cons_error hstep]
          rfl
      | ok next =>
          obtain ⟨b, warning⟩ := next
          have position : index + 1 + before.length = index + (before.length + 1) := by omega
          rw [List.cons_append, inOrder_cons_ok hstep, inOrder_cons_ok hstep, ih, position]
          cases inOrder step (index + 1) before b with
          | error cause => rfl
          | ok done =>
              simp only [Except.bind, Except.map, List.length_cons]
              cases inOrder step (index + (before.length + 1)) rest done.result <;> rfl

/-- Steps in order fail only if one of them does, on what those before it have left. -/
theorem inOrder_error (h : inOrder step index entries a = .error cause) :
    ∃ before name o after done, entries = before ++ (name, o) :: after ∧
      inOrder step index before a = .ok done ∧
      step (index + before.length) name o done.result = .error cause := by
  -- The induction is on the entries: the first step fails, or one of those behind it.
  induction entries generalizing index a with
  | nil => cases h
  | cons entry rest ih =>
      obtain ⟨name, o⟩ := entry
      cases hstep : step index name o a with
      | error refused =>
          rw [inOrder_cons_error hstep] at h
          cases h
          exact ⟨[], name, o, rest, ⟨a, []⟩, rfl, rfl, hstep⟩
      | ok next =>
          obtain ⟨b, warning⟩ := next
          rw [inOrder_cons_ok hstep] at h
          cases hrest : inOrder step (index + 1) rest b with
          | ok done =>
              rw [hrest] at h
              cases h
          | error refused =>
              rw [hrest] at h
              cases h
              obtain ⟨before, n, p, after, done, rfl, ran, fails⟩ := ih hrest
              refine ⟨(name, o) :: before, n, p, after, ⟨done.result, warning :: done.warnings⟩,
                rfl, ?_, ?_⟩
              · rw [inOrder_cons_ok hstep, ran]
                rfl
              · rwa [List.length_cons, Nat.add_comm before.length, ← Nat.add_assoc]

/-- And wherever one of them does. -/
theorem inOrder_error_of_step {before after : List (String × Output)} {done : WithWarnings α}
    (ran : inOrder step index before a = .ok done)
    (fails : step (index + before.length) name o done.result = .error cause) :
    inOrder step index (before ++ (name, o) :: after) a = .error cause := by
  rw [inOrder_append, ran]
  simp only [Except.bind, inOrder_cons_error fails]
  rfl

end InOrder

/-! ## Runs -/

/-- A run gets to an expression: it has stored the columns of those before it, and this one may be
run. -/
structure Reaches (r : Runner) (t : Table) (vars : FlowVariables) (start : ZonedDateTime)
    (s : Stage) : Prop where
  stored : ∃ before after warnings, r.entries = before ++ (s.name, s.output) :: after ∧
    s.index = 1 + before.length ∧
    run ⟨before⟩ t vars start = .ok ⟨s.table, warnings⟩
  prepared : s.Prepared vars

variable {r : Runner} {s : Stage} {cause : RunError}

theorem Reaches.wellFormed (h : r.Reaches t vars start s) (wf : t.WellFormed) :
    s.table.WellFormed := by
  obtain ⟨before, _, _, _, _, ran⟩ := h.stored
  refine inOrder_invariant ?_ wf ran
  exact fun index name o a a' warning wf stored => runOne_wellFormed wf stored

/-- A run that fails has refused an expression, or failed at one that it got to. -/
theorem reaches_of_run_error (h : r.run t vars start = .error cause) :
    cause.Refuses ∨ ∃ s, r.Reaches t vars start s ∧
      runOne s.index s.name s.output vars start s.table = .error cause := by
  obtain ⟨before, name, o, after, done, split, ran, fails⟩ := inOrder_error h
  obtain ⟨e, type, prepared⟩ | ⟨refused, h, refuses⟩ :=
    runOne_cases (1 + before.length) name o vars start done.result
  · exact .inr ⟨⟨_, _, _, done.result, e, type⟩,
      ⟨⟨before, after, done.warnings, split, rfl, ran⟩, prepared⟩, fails⟩
  · cases h.symm.trans fails
    exact .inl refuses

theorem Reaches.run_error (h : r.Reaches t vars start s)
    (fails : runOne s.index s.name s.output vars start s.table = .error cause) :
    r.run t vars start = .error cause := by
  obtain ⟨before, after, warnings, split, index, ran⟩ := h.stored
  rw [index] at fails
  rw [run, split]
  exact inOrder_error_of_step ran fails

/-- When the values of a run are those that were declared. -/
structure RunSound (r : Runner) (t : Table) (vars : FlowVariables) (start : ZonedDateTime) :
    Prop where
  /-- Away from NaN, every expression that the run gets to has values of the type that was inferred
  for it, on every row of the table, or fails for a reason that lies in the row. -/
  keepsType : ∀ s, r.Reaches t vars start s →
    ∃ c, s.expr.build (s.table.host vars) = .ok c ∧ c.base = s.type.base ∧
      ∀ row < s.table.rowCount, ¬ s.expr.MeetsNaN (s.table.host vars) ⟨row, start⟩ → ∀ log,
        (∃ v, (c.value.at_ ⟨row, start⟩ log).1 = .ok v ∧ v.HasType s.type) ∨
          ∃ cause, (c.value.at_ ⟨row, start⟩ log).1 = .error cause ∧ cause.OfRow
  /-- On NaN, every call that rounds is MISSING, and its type says that it must not be. -/
  missesNaN : ∀ s, r.Reaches t vars start s → ∀ n ∈ s.expr.nodes, ∀ arg, n.rounded? = some arg →
    n.type? = some (.required .integer) ∧
    ∃ c d, arg.build (s.table.host vars) = .ok c ∧ n.build (s.table.host vars) = .ok d ∧
      ∀ m, c.IsNaN m → d.value.Answers m (.ok .missing)
  /-- The table refuses a column only for a row on which the expression must not be MISSING and is,
  having rounded NaN. -/
  refused : ∀ cause, r.run t vars start = .error (.table cause) →
    ∃ s, r.Reaches t vars start s ∧ s.type.isOptional = false ∧
      ∃ vs warnings row, s.values vars start = .ok (vs, warnings) ∧ row < s.table.rowCount ∧
        vs[row]? = some .missing ∧ s.expr.MeetsNaN (s.table.host vars) ⟨row, start⟩ ∧
        cause = .typeMismatch s.name s.type row .missing
  /-- It refuses every such column. -/
  refuses : ∀ s, r.Reaches t vars start s → s.type.isOptional = false →
    ∀ vs warnings, s.values vars start = .ok (vs, warnings) → .missing ∈ vs →
      ∃ cause, r.run t vars start = .error (.table cause)
  /-- An evaluation fails for a reason that lies in a row, unless the expression has rounded NaN. -/
  failed : ∀ index cause, r.run t vars start = .error (.evaluation index cause) →
    cause.OfRow ∨ ∃ s, r.Reaches t vars start s ∧ s.index = index ∧ s.MeetsNaN vars start

/-- The values of an expression that was run are read in order, one for each row. -/
theorem Stage.values_eq (start : ZonedDateTime) (built : s.expr.build (s.table.host vars) = .ok c)
    (base : c.base = s.type.base) :
    (∃ vs warnings, s.values vars start = .ok (vs, warnings) ∧ vs.length = s.table.rowCount ∧
        ∀ row v, vs[row]? = some v → row < s.table.rowCount ∧ Reads c start row (.ok v)) ∨
      ∃ cause row, s.values vars start = .error (.evaluation s.index cause) ∧
        row < s.table.rowCount ∧ Reads c start row (.error cause) := by
  have eq := evaluateRows_eq s.index start built base
  obtain ⟨vs, hvs, length, all⟩ | ⟨cause, hcause, row, hrow, fails⟩ :=
    readRows_cases c start (List.range s.table.rowCount) {}
  · rcases hread : readRows c start (List.range s.table.rowCount) {} with ⟨_, log⟩
    rw [hread] at hvs eq
    cases hvs
    refine .inl ⟨vs, log.messages, eq, by simpa using length, fun row v hv => ?_⟩
    obtain ⟨row', hrow, reads⟩ := all row v hv
    obtain ⟨lt, rfl⟩ := List.getElem?_eq_some_iff.mp hrow
    rw [List.getElem_range] at reads
    exact ⟨by simpa using lt, reads⟩
  · rcases hread : readRows c start (List.range s.table.rowCount) {} with ⟨_, log⟩
    rw [hread] at hcause eq
    cases hcause
    exact .inr ⟨cause, row, eq, List.mem_range.mp hrow, fails⟩

/-- A value of the kind of the type is one of the type, unless it is MISSING and must not be. -/
theorem Stage.missing_of_misfit {row : Nat} {v : Value} (base : c.base = s.type.base)
    (reads : Reads c start row (.ok v)) (misfit : ¬ v.HasType s.type) :
    v = .missing ∧ s.type.isOptional = false := by
  obtain ⟨log, hv⟩ := reads
  obtain rfl | ⟨k, a, rfl, hk⟩ := Computer.base_of_value hv
  · exact ⟨rfl, Bool.eq_false_iff.mpr fun optional => misfit (.inl ⟨rfl, optional⟩)⟩
  · exact absurd (.inr ⟨k, a, rfl, base ▸ hk⟩) misfit

theorem Stage.Prepared.refused {cause : TableError} (h : s.Prepared vars) (wf : s.table.WellFormed)
    (fails : runOne s.index s.name s.output vars start s.table = .error (.table cause)) :
    s.type.isOptional = false ∧
      ∃ vs warnings row, s.values vars start = .ok (vs, warnings) ∧ row < s.table.rowCount ∧
        vs[row]? = some .missing ∧ s.expr.MeetsNaN (s.table.host vars) ⟨row, start⟩ ∧
        cause = .typeMismatch s.name s.type row .missing := by
  obtain ⟨c, hc, base, keeps⟩ := h.keepsType wf start
  rw [h.runOne_eq start] at fails
  obtain ⟨vs, warnings, values, length, reads⟩ | ⟨_, _, values, _⟩ :=
    Stage.values_eq start hc base
  · rw [values] at fails
    dsimp only at fails
    cases set : s.table.setColumn s.name s.type vs with
    | ok stored =>
        rw [set] at fails
        cases fails
    | error refused =>
        rw [set] at fails
        cases fails
        obtain ⟨row, v, hv, misfit, rfl⟩ := Table.setColumn_error length set
        obtain ⟨hrow, read⟩ := reads row v hv
        -- What misfits the type of its computer is MISSING, for a type that is required.
        obtain ⟨rfl, required⟩ := missing_of_misfit base read misfit
        refine ⟨required, vs, warnings, row, values, hrow, hv, ?_, rfl⟩
        -- A row that meets no NaN would have kept the type.
        by_cases nan : s.expr.MeetsNaN (s.table.host vars) ⟨row, start⟩
        · exact nan
        · obtain ⟨log, hlog⟩ := read
          obtain ⟨w, hw, typed⟩ | ⟨_, hw, _⟩ := keeps row hrow nan log
          · cases hlog.symm.trans hw
            exact absurd typed misfit
          · cases hlog.symm.trans hw
  · rw [values] at fails
    cases fails

theorem Stage.Prepared.refuses {vs : List Value} {warnings : List String} (h : s.Prepared vars)
    (required : s.type.isOptional = false) (values : s.values vars start = .ok (vs, warnings))
    (missing : .missing ∈ vs) :
    ∃ cause, runOne s.index s.name s.output vars start s.table = .error (.table cause) := by
  rw [h.runOne_eq start, values]
  dsimp only
  cases set : s.table.setColumn s.name s.type vs with
  | error cause => exact ⟨cause, rfl⟩
  | ok stored =>
      obtain ⟨_, optional⟩ | ⟨_, _, impossible, _⟩ := (Table.setColumn_ok set).2.1 _ missing
      · exact absurd (optional.symm.trans required) (by simp)
      · cases impossible

theorem Stage.Prepared.failed {cause : EvalError} (h : s.Prepared vars) (wf : s.table.WellFormed)
    (fails : runOne s.index s.name s.output vars start s.table = .error (.evaluation index cause)) :
    s.index = index ∧ (cause.OfRow ∨ s.MeetsNaN vars start) := by
  obtain ⟨c, hc, base, keeps⟩ := h.keepsType wf start
  rw [h.runOne_eq start] at fails
  obtain ⟨vs, warnings, values, _, _⟩ | ⟨_, row, values, hrow, log, read⟩ :=
    Stage.values_eq start hc base
  · rw [values] at fails
    dsimp only at fails
    cases set : s.table.setColumn s.name s.type vs <;> rw [set] at fails <;> cases fails
  · rw [values] at fails
    cases fails
    refine ⟨rfl, ?_⟩
    by_cases nan : s.expr.MeetsNaN (s.table.host vars) ⟨row, start⟩
    · exact .inr ⟨row, hrow, nan⟩
    · obtain ⟨w, hw, _⟩ | ⟨_, hw, ofRow⟩ := keeps row hrow nan log
      · cases read.symm.trans hw
      · cases read.symm.trans hw
        exact .inl ofRow

/-- A run over a table that was built keeps to the types that were declared, but for calls that
round NaN. -/
theorem run_sound (r : Runner) (built : t.Built) (vars : FlowVariables) (start : ZonedDateTime) :
    r.RunSound t vars start where
  keepsType s reaches := reaches.prepared.keepsType (reaches.wellFormed built.wellFormed) start
  missesNaN s reaches := reaches.prepared.missesNaN (reaches.wellFormed built.wellFormed)
  refused cause h := by
    obtain refuses | ⟨s, reaches, fails⟩ := reaches_of_run_error h
    · exact refuses.elim
    · exact ⟨s, reaches, reaches.prepared.refused (reaches.wellFormed built.wellFormed) fails⟩
  refuses s reaches required vs warnings values missing := by
    obtain ⟨cause, fails⟩ := reaches.prepared.refuses required values missing
    exact ⟨cause, reaches.run_error fails⟩
  failed index cause h := by
    obtain refuses | ⟨s, reaches, fails⟩ := reaches_of_run_error h
    · exact refuses.elim
    · obtain ⟨index, reason⟩ :=
        reaches.prepared.failed (reaches.wellFormed built.wellFormed) fails
      exact reason.imp_right fun nan => ⟨s, reaches, index, nan⟩

/-- The error of a table that has stopped a run. -/
def tableError? {α : Type} : Except RunError α → Option TableError
  | .error (.table cause) => some cause
  | _ => none

namespace Sample

/-- One column, which rounds NaN. -/
def roundsNaN : Runner := ⟨[("y", { source := "round(NaN)" })]⟩

/-- A table with one row. -/
def oneRow : Table := { rowIds := #["Row0"] }

theorem roundsNaN_runSound : oneRow.Built ∧ roundsNaN.RunSound oneRow .empty default :=
  have built : oneRow.Built := .new (by decide)
  ⟨built, run_sound roundsNaN built .empty default⟩

/-- The column is refused, because the whole number near NaN is missing. -/
theorem roundsNaN_refused :
    tableError? (roundsNaN.run oneRow .empty default) =
      some (.typeMismatch "y" (.required .integer) 0 .missing) := by
  decide +kernel

end Sample

end Runner

end Rowwise
