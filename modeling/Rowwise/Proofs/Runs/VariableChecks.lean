import Rowwise.Proofs.Runs.EditorChecks

/-!
# The checks of flow variables and a run

The checks thread an overlay of types through the expressions, a run threads the flow variables.
The invariant that relates the two is `Diagnostics.MirrorsVariables`: both answer every name with
the same type.  Under it an expression without a remark compiles for the run to a value that must
not be MISSING (`Diagnostics.prepared_of_clean`), and what the run then sets has the type that the
overlay gets (`Runner.VariableStage.Prepared.setOne_cases`), so that the invariant stays.

The checks are not sufficient, though.  Flow variables hold values of four kinds only, of which the
checks know nothing, and a call that rounds NaN is MISSING where its type says that it must not be.
`Diagnostics.flowVariables_checked` says what a run comes to that the checks had no remark on, and
that it fails for a reason that lies in a row at most if it meets none of the exceptions.
-/

namespace Rowwise

open Eval Runner

/-! ## Trees over flow variables -/

/-- The node calls the function with a name. -/
def Expr.Calls (name : String) : Expr → Prop
  | .call _ .function called _ _ => called = name
  | _ => False

/-- Some node of the tree calls the function that may cut the evaluation short. -/
def Expr.MayCut (e : Expr) : Prop := ∃ n ∈ e.nodes, n.Calls "make_zoned"

/-- The evaluation may be cut short as a whole if `cut` says so, and may read required values
unasked.  The rows are left to `Regime.over`. -/
def Regime.cutting (cut : Prop) : Regime where
  rows _ := False
  permits e := (∃ cause, e = .failure cause) ∨ e = .aborted ∧ cut
  permits_failure cause := .inl ⟨cause, rfl⟩
  unasked := True

variable {R : Regime} {vars : FlowVariables} {start : ZonedDateTime}

namespace Runner

/-- What expressions over flow variables read. -/
def variableHost (vars : FlowVariables) : Host :=
  { Host.empty with flowVariable := vars.computer }

theorem variableContext_functions : (variableContext vars).functions = Functions.library := by
  rw [variableContext]

theorem variableContext_aggregations :
    (variableContext vars).aggregations = Aggregation.library := by
  rw [variableContext]

end Runner

/-- Flow variables support every node of a tree that was typed over them, at moments when none
rounds NaN.  No such node reads a row. -/
theorem Expr.WellTyped.supports_of_variables {e : Expr} (h : e.WellTyped (variableContext vars))
    (unasked : R.unasked) (aborted : e.Calls "make_zoned" → R.permits .aborted)
    (numbers : ∀ m, R.rows m → ¬ e.RoundsNaN (variableHost vars) m) :
    (variableHost vars).Supports R e := by
  -- Over variables no access to a column has a type.
  cases e with
  | column note ref =>
      obtain ⟨t, ht, _⟩ := h
      cases ref <;> cases ht
  | flowVariable note name =>
      intro t noted
      obtain ⟨t', ht, hnote⟩ := h
      cases hnote.symm.trans noted
      exact FlowVariables.computer_fits ht
  | call note callee name args resolution =>
      cases callee with
      | aggregation =>
          obtain ⟨_, _, _, _, _, _, _, _, _, _, hcolumn, _⟩ := h
          cases hcolumn
      | function => exact h.supports_function variableContext_functions unasked aborted numbers
  | _ => trivial

/-! ## One expression -/

namespace FlowVariables

/-- Flow variables store values of a type. -/
def Stores (type : ValueType) : Prop := type.base.any allowed.contains = true

theorem set_ok {v : Value} (name : String) (h : Stores v.valueType) :
    vars.set name v = .ok (vars.insert name (.value v)) := by
  have kind : v.kind?.any allowed.contains = true := by
    cases v <;> exact h
  rw [set, if_pos kind]

theorem set_error {v : Value} (name : String) (h : ¬ Stores v.valueType) :
    vars.set name v = .error (.unsupportedFlowVariable v.valueType) := by
  have kind : ¬ v.kind?.any allowed.contains = true := by
    cases v <;> exact h
  rw [set, if_neg kind]

end FlowVariables

namespace Runner

/-- An expression of a runner, before the flow variables that it is run over. -/
structure VariableStage where
  index : Nat
  name : String
  output : Output
  vars : FlowVariables
  expr : Expr
  type : ValueType

namespace VariableStage

/-- The expression compiles to a value that must not be MISSING. -/
structure Prepared (s : VariableStage) : Prop where
  compiled : compile s.output.source (variableContext s.vars) = .ok (s.expr, s.type)
  required : s.type.isOptional = false

/-- Reading the value of the expression ends with `r`. -/
def Yields (s : VariableStage) (start : ZonedDateTime) (r : Except EvalError Value) : Prop :=
  ∃ c, s.expr.build (variableHost s.vars) = .ok c ∧ (c.value.at_ ⟨0, start⟩ {}).1 = r

/-- A call in the expression rounds NaN. -/
def MeetsNaN (s : VariableStage) (start : ZonedDateTime) : Prop :=
  s.expr.MeetsNaN (variableHost s.vars) ⟨0, start⟩

variable {s : VariableStage} {c : Computer}

/-- The expression has a computer of the kind of its type.  Where it rounds no NaN, the value is
one of the type, or reading it fails for a reason that lies in the row, or is cut short. -/
theorem Prepared.keepsType (h : s.Prepared) (start : ZonedDateTime) :
    ∃ c, s.expr.build (variableHost s.vars) = .ok c ∧ c.base = s.type.base ∧
      (¬ s.MeetsNaN start → ∀ log, (∃ v, (c.value.at_ ⟨0, start⟩ log).1 = .ok v ∧
          v.HasType s.type) ∨
        ∃ cause, (c.value.at_ ⟨0, start⟩ log).1 = .error cause ∧
          ((∃ failure, cause = .failure failure) ∨ cause = .aborted ∧ s.expr.MayCut)) := by
  obtain ⟨typed, noted⟩ :=
    wellTyped_of_compile variableContext_functions variableContext_aggregations h.compiled
  obtain ⟨c, hc, base, keeps⟩ := Expr.keepsType (R := .cutting s.expr.MayCut)
    (S := fun m => ¬ s.expr.MeetsNaN (variableHost s.vars) m) noted fun rows safe =>
      typed.computes fun n hn => (typed.of_mem_nodes n hn).supports_of_variables trivial
        (fun calls => .inr ⟨rfl, n, hn, calls⟩) fun m hm nan => safe m hm ⟨n, hn, nan⟩
  exact ⟨c, hc, base, fun numbers log => keeps ⟨0, start⟩ numbers log⟩

/-- What stops an expression once it may be run is its value. -/
theorem Prepared.setOne_eq (h : s.Prepared) (start : ZonedDateTime)
    (built : s.expr.build (variableHost s.vars) = .ok c) (base : c.base = s.type.base) :
    setOne start s.index s.name s.output s.vars =
      match c.value.at_ ⟨0, start⟩ {} with
      | (.ok v, log) =>
        match s.vars.set s.name v with
        | .ok vars => .ok (vars, log.messages.head?)
        | .error cause => .error (.table cause)
      | (.error cause, _) => .error (.evaluation s.index cause) := by
  have built : s.expr.build { Host.empty with flowVariable := s.vars.computer } = .ok c := built
  unfold setOne compileAt
  rw [h.compiled]
  simp only [Except.mapError, Except.ok_bind, h.required, Bool.false_eq_true, if_false, built,
    ← base, Except.bind, Computer.coerce_base]
  rcases c.value.at_ ⟨0, start⟩ {} with ⟨_ | v, log⟩
  · rfl
  · simp only [Except.ok_bind]
    cases s.vars.set s.name v <;> rfl

/-- A value of a type that must not be MISSING has that type itself. -/
theorem valueType_of_hasType {v : Value} {type : ValueType} (required : type.isOptional = false)
    (typed : v.HasType type) : v.valueType = type := by
  obtain ⟨_, optional⟩ | ⟨k, a, rfl, base⟩ := typed
  · exact absurd (optional.symm.trans required) (by simp)
  · cases type with
    | missing => cases base
    | of l o =>
        cases base
        cases required
        rfl

/-- A value that is read has the type of the expression, or is MISSING because NaN was rounded. -/
theorem Prepared.valueType_cases (h : s.Prepared) {v : Value} (yields : s.Yields start (.ok v)) :
    v.valueType = s.type ∨ v = .missing ∧ s.MeetsNaN start := by
  obtain ⟨c, hc, base, keeps⟩ := h.keepsType start
  obtain ⟨c', hc', hv⟩ := yields
  cases hc.symm.trans hc'
  obtain rfl | ⟨k, a, rfl, hk⟩ := Computer.base_of_value hv
  · by_cases nan : s.MeetsNaN start
    · exact .inr ⟨rfl, nan⟩
    · obtain ⟨w, hw, typed⟩ | ⟨cause, hcause, _⟩ := keeps nan {}
      · cases hv.symm.trans hw
        exact .inl (valueType_of_hasType h.required typed)
      · cases hv.symm.trans hcause
  · exact .inl (valueType_of_hasType h.required (.inr ⟨k, a, rfl, base ▸ hk⟩))

/-- An expression that may be run has its value stored with the type that was inferred, or its value
is refused, or there is none.  The reasons of the last two are all that can stop it. -/
theorem Prepared.setOne_cases (h : s.Prepared) (start : ZonedDateTime) :
    (∃ v warning, s.Yields start (.ok v) ∧ v.valueType = s.type ∧ FlowVariables.Stores s.type ∧
        setOne start s.index s.name s.output s.vars =
          .ok (s.vars.insert s.name (.value v), warning)) ∨
      (∃ v, s.Yields start (.ok v) ∧ ¬ FlowVariables.Stores v.valueType ∧
        (v.valueType = s.type ∨ v = .missing ∧ s.MeetsNaN start) ∧
        setOne start s.index s.name s.output s.vars =
          .error (.table (.unsupportedFlowVariable v.valueType))) ∨
      ∃ cause, s.Yields start (.error cause) ∧
        ((∃ failure, cause = .failure failure) ∨ cause = .aborted ∧ s.expr.MayCut ∨
          s.MeetsNaN start) ∧
        setOne start s.index s.name s.output s.vars = .error (.evaluation s.index cause) := by
  obtain ⟨c, hc, base, keeps⟩ := h.keepsType start
  have step := h.setOne_eq start hc base
  rcases hread : c.value.at_ ⟨0, start⟩ {} with ⟨cause | v, log⟩
  · have yields : s.Yields start (.error cause) := ⟨c, hc, by rw [hread]⟩
    refine .inr (.inr ⟨cause, yields, ?_, by rw [step, hread]⟩)
    by_cases nan : s.MeetsNaN start
    · exact .inr (.inr nan)
    · -- Without NaN the promise of the expression names the reasons why it may fail.
      obtain ⟨w, hw, _⟩ | ⟨cause', hcause, reason⟩ := keeps nan {}
      · rw [hread] at hw
        cases hw
      · rw [hread] at hcause
        cases hcause
        exact reason.imp_right .inl
  · have yields : s.Yields start (.ok v) := ⟨c, hc, by rw [hread]⟩
    have typed := h.valueType_cases yields
    by_cases stores : FlowVariables.Stores v.valueType
    · have type : v.valueType = s.type :=
        typed.resolve_right fun ⟨gone, _⟩ => by rw [gone] at stores; cases stores
      refine .inl ⟨v, log.messages.head?, yields, type, type ▸ stores, ?_⟩
      rw [step, hread]
      dsimp only
      rw [FlowVariables.set_ok s.name stores]
    · refine .inr (.inl ⟨v, yields, stores, typed, ?_⟩)
      rw [step, hread]
      dsimp only
      rw [FlowVariables.set_error s.name stores]

/-- An expression that may be run fails only because its value cannot be stored, or cannot be
read. -/
theorem Prepared.setOne_error (h : s.Prepared) {cause : RunError}
    (fails : setOne start s.index s.name s.output s.vars = .error cause) :
    (∃ v, cause = .table (.unsupportedFlowVariable v.valueType) ∧ s.Yields start (.ok v) ∧
        ¬ FlowVariables.Stores v.valueType ∧
        (v.valueType = s.type ∨ v = .missing ∧ s.MeetsNaN start)) ∨
      ∃ e, cause = .evaluation s.index e ∧
        ((∃ failure, e = .failure failure) ∨ e = .aborted ∧ s.expr.MayCut ∨ s.MeetsNaN start) := by
  rcases h.setOne_cases start with ⟨v, _, _, _, _, step⟩ | ⟨v, yields, unstored, reason, step⟩ |
      ⟨e, _, reason, step⟩ <;> rw [step] at fails <;> cases fails
  · exact .inl ⟨v, rfl, yields, unstored, reason⟩
  · exact .inr ⟨e, rfl, reason⟩

/-- A value that no flow variable stores is refused. -/
theorem Prepared.setOne_refused (h : s.Prepared) {v : Value} (yields : s.Yields start (.ok v))
    (unstored : ¬ FlowVariables.Stores v.valueType) :
    setOne start s.index s.name s.output s.vars =
      .error (.table (.unsupportedFlowVariable v.valueType)) := by
  obtain ⟨c, hc, base, _⟩ := h.keepsType start
  obtain ⟨d, hd, read⟩ := yields
  cases hc.symm.trans hd
  rw [h.setOne_eq start hc base]
  rcases hread : c.value.at_ ⟨0, start⟩ {} with ⟨_ | w, log⟩ <;> rw [hread] at read <;> cases read
  dsimp only
  rw [FlowVariables.set_error s.name unstored]

end VariableStage

/-- A run gets to an expression: it has set the flow variables of those before it, and this one may
be run. -/
structure ReachesVariable (r : Runner) (vars : FlowVariables) (start : ZonedDateTime)
    (s : VariableStage) : Prop where
  stored : ∃ before after warnings, r.entries = before ++ (s.name, s.output) :: after ∧
    s.index = 1 + before.length ∧
    runVariables ⟨before⟩ vars start = .ok ⟨s.vars, warnings⟩
  prepared : s.Prepared

/-- A run fails wherever an expression does that it gets to. -/
theorem ReachesVariable.runVariables_error {r : Runner} {s : VariableStage} {cause : RunError}
    (h : r.ReachesVariable vars start s)
    (fails : setOne start s.index s.name s.output s.vars = .error cause) :
    r.runVariables vars start = .error cause := by
  obtain ⟨before, after, warnings, split, index, ran⟩ := h.stored
  rw [index] at fails
  rw [runVariables, split]
  exact inOrder_error_of_step ran fails

end Runner

namespace Diagnostics

variable {seen : VariableOverlay} {u : FlowVariables} {known : List (Option String)}
  {outputs before rest : List (String × Output)} {index : Nat} {name : String} {o : Output}

/-! ## One context -/

/-- The types that the checks see are those of flow variables, for every name. -/
def MirrorsVariables (seen : VariableOverlay) (u : FlowVariables) : Prop :=
  ∀ name, overlayVariable seen name = u.typeOf name

theorem mirrorsVariables_names (vars : FlowVariables) :
    MirrorsVariables ⟨vars.names.map fun name => (name, vars.typeOf name)⟩ vars := by
  intro name
  have listed (names : List String) :
      (names.map fun n => (n, vars.typeOf n)).lookup name =
        if name ∈ names then some (vars.typeOf name) else none := by
    induction names with
    | nil => rfl
    | cons n names ih =>
        by_cases same : name = n
        · simp [same]
        · rw [List.map_cons, Named.lookup_cons_of_ne same, ih]
          simp [same]
  rw [overlayVariable, Named.get?, listed]
  by_cases member : name ∈ vars.names
  · rw [if_pos member, Option.getD_some]
  · have absent : vars.get? name = none := by
      rw [← Named.contains_iff, Named.contains] at member
      simpa using member
    rw [if_neg member, Option.getD_none, FlowVariables.typeOf, absent]

/-- Setting a variable keeps the overlay and the flow variables together. -/
theorem MirrorsVariables.insert (h : MirrorsVariables seen u) (name : String) (v : Value) :
    MirrorsVariables (seen.insert name (.ok v.valueType)) (u.insert name (.value v)) := by
  intro key
  have here := h key
  simp only [overlayVariable, FlowVariables.typeOf, Named.get?_insert] at here ⊢
  split
  · rfl
  · exact here

/-- Checks and run type an expression over the same names. -/
theorem MirrorsVariables.context_eq (h : MirrorsVariables seen u) :
    { variableContext .empty with flowVariable := overlayVariable seen } = variableContext u := by
  rw [funext h]
  rfl

/-! ## One expression -/

/-- An expression without a remark may be run, and the overlay gets its type. -/
theorem prepared_of_clean (mirrors : MirrorsVariables seen u)
    (clean : (variableStep known index o.source name seen).1 = []) (position : Nat) :
    ∃ e type, (VariableStage.mk position name o u e type).Prepared ∧
      variableStep known index o.source name seen = ([], .ok type) := by
  unfold variableStep at clean ⊢
  cases parsed : parse o.source with
  | error issue =>
      rw [parsed] at clean
      cases clean
  | ok e =>
      simp only [parsed, mirrors.context_eq] at clean ⊢
      -- Each remark would end the checks, so that none of the three cases before the last is left.
      cases early : premature variableAccess index known e with
      | cons d ds =>
          rw [early] at clean
          cases clean
      | nil =>
          rw [early] at clean
          obtain ⟨type, compiled, inferred, _⟩ | ⟨errors, _, inferred, some_⟩ :=
            infer_cases parsed (variableContext u) variableContext_functions
              variableContext_aggregations
          · rw [inferred] at clean ⊢
            dsimp only at clean ⊢
            by_cases optional : type.isOptional = true
            · rw [if_pos optional] at clean
              cases clean
            · rw [if_neg optional]
              exact ⟨_, type, ⟨compiled, Bool.eq_false_iff.mpr optional⟩, rfl⟩
          · rw [inferred] at clean
            exact absurd (List.map_eq_nil_iff.mp clean) some_

/-! ## All expressions -/

/-- The checks of some outputs have no remark. -/
def Clean (known : List (Option String)) (index : Nat) (outputs : List (String × Output))
    (seen : VariableOverlay) : Prop :=
  ∀ remarks ∈ checkInOrder (variableStep known) index (outputs.map (·.2.source))
    (outputs.map (·.1)) seen, remarks = []

/-- The first of some outputs without remarks may be run, and the others have none after it. -/
theorem Clean.cons (mirrors : MirrorsVariables seen u)
    (clean : Clean known index ((name, o) :: outputs) seen) (position : Nat) :
    ∃ e type, (VariableStage.mk position name o u e type).Prepared ∧
      Clean known (index + 1) outputs (seen.insert name (.ok type)) := by
  have here : (variableStep known index o.source name seen).1 = [] :=
    clean _ (by rw [List.map_cons, List.map_cons, checkInOrder_cons rfl]; exact .head _)
  obtain ⟨e, type, prepared, checked⟩ := prepared_of_clean mirrors here position
  refine ⟨e, type, prepared, fun remarks later => clean remarks ?_⟩
  rw [List.map_cons, List.map_cons, checkInOrder_cons checked]
  exact .tail _ later

/-- After some of them have been run, the checks of the others still see what is set. -/
theorem Clean.of_append {done : WithWarnings FlowVariables} (mirrors : MirrorsVariables seen u)
    (clean : Clean known index (before ++ rest) seen) {position : Nat}
    (ran : inOrder (setOne start) position before u = .ok done) :
    ∃ seen', MirrorsVariables seen' done.result ∧
      Clean known (index + before.length) rest seen' := by
  -- The induction is on what has been run; each step takes the overlay and the variables on
  -- together.
  induction before generalizing index position seen u done with
  | nil =>
      cases ran
      exact ⟨seen, mirrors, clean⟩
  | cons entry before ih =>
      obtain ⟨name, o⟩ := entry
      obtain ⟨e, type, prepared, others⟩ := clean.cons mirrors position
      obtain ⟨u', warning, more, taken, finished, rfl⟩ := inOrder_cons_inv ran
      obtain ⟨v, _, _, typed, _, stored⟩ | ⟨_, _, _, _, fails⟩ | ⟨_, _, _, fails⟩ :=
        prepared.setOne_cases start
      · -- What is set has the type that the overlay gets.
        cases stored.symm.trans taken
        have mirrors := mirrors.insert name v
        rw [typed] at mirrors
        obtain ⟨seen', mirrors', clean'⟩ := ih mirrors others finished
        refine ⟨seen', mirrors', ?_⟩
        rwa [List.length_cons, Nat.add_comm before.length, ← Nat.add_assoc]
      · cases fails.symm.trans taken
      · cases fails.symm.trans taken

/-- What a run of a runner comes to that the checks had no remark on. -/
structure CheckedRun (r : Runner) (vars : FlowVariables) (start : ZonedDateTime) : Prop where
  /-- No expression is refused. -/
  accepted : ∀ cause, r.runVariables vars start = .error cause → ¬ cause.Refuses
  /-- An evaluation fails for a reason that lies in the row, unless it is cut short by the one
  function that may do that, or the expression rounds NaN. -/
  failed : ∀ index cause, r.runVariables vars start = .error (.evaluation index cause) →
    (∃ failure, cause = .failure failure) ∨ ∃ s, r.ReachesVariable vars start s ∧ s.index = index ∧
      (cause = .aborted ∧ s.expr.MayCut ∨ s.MeetsNaN start)
  /-- Otherwise a value cannot be stored: it has the type that was inferred, which is none of those
  that flow variables have, or it is MISSING because NaN was rounded. -/
  refused : ∀ cause, r.runVariables vars start = .error (.table cause) →
    ∃ s v, r.ReachesVariable vars start s ∧ s.Yields start (.ok v) ∧
      cause = .unsupportedFlowVariable v.valueType ∧ ¬ FlowVariables.Stores v.valueType ∧
      (v.valueType = s.type ∨ v = .missing ∧ s.MeetsNaN start)
  /-- Every such value stops the run. -/
  refuses : ∀ s v, r.ReachesVariable vars start s → s.Yields start (.ok v) →
    ¬ FlowVariables.Stores v.valueType →
      r.runVariables vars start = .error (.table (.unsupportedFlowVariable v.valueType))
  /-- The checks are sufficient for expressions that meet none of the exceptions: the run succeeds,
  or an evaluation fails for a reason that lies in the row. -/
  sufficient : (∀ s, r.ReachesVariable vars start s →
      FlowVariables.Stores s.type ∧ ¬ s.MeetsNaN start ∧ ¬ s.expr.MayCut) →
    (∃ done, r.runVariables vars start = .ok done) ∨
      ∃ index failure, r.runVariables vars start = .error (.evaluation index (.failure failure))

/-- A run that fails without remarks fails at an expression that it gets to. -/
theorem reaches_of_clean {r : Runner} {cause : RunError}
    (clean : Clean known 0 r.entries seen) (mirrors : MirrorsVariables seen vars)
    (fails : r.runVariables vars start = .error cause) :
    ∃ s, r.ReachesVariable vars start s ∧
      setOne start s.index s.name s.output s.vars = .error cause := by
  obtain ⟨before, name, o, rest, done, split, ran, step⟩ := inOrder_error fails
  rw [split] at clean
  obtain ⟨seen', mirrors', clean'⟩ := Clean.of_append mirrors clean ran
  obtain ⟨e, type, prepared, _⟩ := clean'.cons mirrors' (1 + before.length)
  have stored : ∃ before' after warnings, r.entries = before' ++ (name, o) :: after ∧
      1 + before.length = 1 + before'.length ∧
      runVariables ⟨before'⟩ vars start = .ok ⟨done.result, warnings⟩ :=
    ⟨before, rest, done.warnings, split, rfl, ran⟩
  exact ⟨⟨_, _, _, done.result, e, type⟩, ⟨stored, prepared⟩, step⟩

/-- What a run comes to follows from what its expressions can come to, if it fails at those only
that it gets to. -/
theorem checkedRun_of_reaches {r : Runner}
    (reaches : ∀ cause, r.runVariables vars start = .error cause →
      ∃ s, r.ReachesVariable vars start s ∧
        setOne start s.index s.name s.output s.vars = .error cause) :
    CheckedRun r vars start where
  accepted cause fails := by
    obtain ⟨s, reached, step⟩ := reaches cause fails
    rcases reached.prepared.setOne_error step with ⟨v, rfl, _⟩ | ⟨e, rfl, _⟩
    · exact id
    · exact id
  failed index cause fails := by
    obtain ⟨s, reached, step⟩ := reaches _ fails
    rcases reached.prepared.setOne_error step with ⟨v, impossible, _⟩ | ⟨e, same, reason⟩
    · cases impossible
    · cases same
      exact reason.imp_right fun exception => ⟨s, reached, rfl, exception⟩
  refused cause fails := by
    obtain ⟨s, reached, step⟩ := reaches _ fails
    rcases reached.prepared.setOne_error step with ⟨v, same, found⟩ | ⟨e, impossible, _⟩
    · cases same
      obtain ⟨yields, unstored, reason⟩ := found
      exact ⟨s, v, reached, yields, rfl, unstored, reason⟩
    · cases impossible
  refuses s v reached yields unstored :=
    reached.runVariables_error (reached.prepared.setOne_refused yields unstored)
  sufficient plain := by
    cases result : r.runVariables vars start with
    | ok done => exact .inl ⟨done, rfl⟩
    | error cause =>
        obtain ⟨s, reached, step⟩ := reaches cause result
        obtain ⟨stores, numbers, uncut⟩ := plain s reached
        -- Of the ways to fail, only that of a row is left.
        rcases reached.prepared.setOne_error step with ⟨v, _, _, unstored, typed | ⟨_, nan⟩⟩ |
          ⟨e, rfl, ⟨failure, rfl⟩ | ⟨_, cut⟩ | nan⟩
        · exact absurd (typed ▸ stores) unstored
        · exact absurd nan numbers
        · exact .inr ⟨s.index, failure, rfl⟩
        · exact absurd cut uncut
        · exact absurd nan numbers

namespace Sample

/-- A flow variable, and one that is computed from it. -/
def doubled : List (String × Output) :=
  [("a", { source := "1 + 1" }), ("b", { source := "$$a * 2" })]

end Sample

end Diagnostics

end Rowwise
