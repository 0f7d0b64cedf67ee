import Rowwise.Proofs.Runs.Taint
import Rowwise.Proofs.Typing.Complaints

/-!
# Reading a column before it is appended

An expression over a table reads a column too early if the table does not have it, and the first
output of its name is that of the expression itself or of a later one (`firstProducer`).  The
checks report such a read in its own words, and do so exactly where a node is an access:
`earlyReads_reported`.  The words are not those of any other remark, because no complaint of typing
begins in the same way (`Complaint.begins`), nor does what is said of the outputs of expressions
with errors.

A call of an aggregation that names its column too early is not among them.  It is in error all the
same: what it reads is not there yet, so that it cannot be typed.
-/

namespace Rowwise

namespace Diagnostics

variable {t : Table} {vars : FlowVariables} {expressions outputs : List String}
  {source name : String} {i : Nat} {e : Expr}

/-- The position of the first output of a name that the table does not have. -/
def firstProducer (t : Table) (outputs : List String) (name : String) : Option Nat :=
  if t.hasColumn name then none else outputs.findIdx? (· == name)

/-- What is said of a read that is too early; expressions are numbered from 1. -/
def earlyMessage (name : String) (number : Nat) : String :=
  s!"The column '{name}' was used before it was appended by Expression {number}. " ++
    "Try reordering your expressions."

/-- The remarks on the nodes of expression `i` that read, in the given sense, what only it or a
later one appends. -/
def earlyReads (read? : Expr → Option String) (t : Table) (outputs : List String) (i : Nat)
    (e : Expr) : List Diagnostic :=
  e.nodes.filterMap fun node => do
    let name ← read? node
    let owner ← firstProducer t outputs name
    if owner < i then none else some (.error (earlyMessage name (owner + 1)) (some node.span))

/-! ## Who appends a column -/

/-- An output is appended by the first one of its name, unless the table has it. -/
theorem findIdx?_appended (t : Table) (outputs : List String) (name : String) :
    (appended outputs t.hasColumn).findIdx? (· == some name) = firstProducer t outputs name := by
  have here (output : String) : ((if t.hasColumn output then none else some output) == some name) =
      (!t.hasColumn name && output == name) := by
    by_cases same : output = name
    · subst same
      cases t.hasColumn output <;> simp
    · cases t.hasColumn output <;> simp [same]
  rw [appended, List.findIdx?_map, firstProducer]
  cases there : t.hasColumn name with
  | true =>
      rw [if_pos rfl, List.findIdx?_eq_none_iff]
      intro output _
      rw [Function.comp_apply, here, there]
      rfl
  | false =>
      rw [if_neg Bool.false_ne_true]
      congr 1
      funext output
      rw [Function.comp_apply, here, there]
      rfl

/-- It is among the outputs before an expression if its first one is. -/
theorem contains_take_appended {owner : Nat} (first : firstProducer t outputs name = some owner) :
    ((appended outputs t.hasColumn).take i).contains (some name) = decide (owner < i) := by
  rw [← findIdx?_appended] at first
  obtain ⟨lt, found, before⟩ := List.findIdx?_eq_some_iff_getElem.mp first
  rw [Bool.eq_iff_iff, List.contains_iff_mem, decide_eq_true_iff]
  constructor
  · intro member
    obtain ⟨k, hk, same⟩ := List.mem_take_iff_getElem.mp member
    by_contra later
    exact before k (by omega) (beq_iff_eq.mpr same)
  · intro earlier
    exact List.mem_take_iff_getElem.mpr ⟨owner, by omega, beq_iff_eq.mp found⟩

/-- The checks find the accesses that are too early. -/
theorem premature_eq_earlyReads (t : Table) (outputs : List String) (i : Nat) (e : Expr) :
    premature columnAccess i (appended outputs t.hasColumn) e =
      earlyReads columnAccess.read? t outputs i e := by
  unfold premature earlyReads
  congr 1
  funext node
  cases columnAccess.read? node with
  | none => rfl
  | some name =>
      simp only [Option.bind_eq_bind, Option.bind_some, findIdx?_appended]
      cases first : firstProducer t outputs name with
      | none => rfl
      | some owner =>
          simp only [Option.bind_some, contains_take_appended first, decide_eq_true_iff]
          rfl

/-! ## What other remarks say -/

section Messages

variable {columns : Overlay} {listed : List (Option String)} {index : Nat} {output message : String}

/-- The beginnings of what is said of names over a table. -/
def nameHeads : List String :=
  ["Expression ", "No column ", "Columns of ", "No flow variable ", "Flow variables "]

/-- What is said of the columns that cannot be read. -/
def Announced (columns : Overlay) : Prop :=
  ∀ name message, columns.get? name = some (.error message) → BeginsWith nameHeads message

theorem announced_schema (t : Table) : Announced (t.schema.map .ok) := by
  intro name message broken
  rw [Named.get?_map, Option.map_eq_some_iff] at broken
  obtain ⟨_, _, impossible⟩ := broken
  cases impossible

theorem invalidOutput_begins (index : Nat) (what name : String) :
    BeginsWith nameHeads (invalidOutput index what name) := by
  have begins : BeginsWith nameHeads "Expression " := ⟨_, .head _, List.prefix_refl _⟩
  unfold invalidOutput
  simp only [String.append_assoc]
  exact begins.append _

/-- Each expression adds one more such column at most. -/
theorem Announced.step (h : Announced columns) :
    Announced (columns.insert output
      (mapperStep vars listed index source output columns).2) := by
  intro name message broken
  rw [Named.get?_insert] at broken
  split at broken
  · obtain ⟨d, ds, _, step⟩ | ⟨e, t, _, _, step⟩ :=
      mapperStep_cases vars listed index source output columns
    · rw [step] at broken
      cases broken
      exact invalidOutput_begins ..
    · rw [step] at broken
      cases broken
  · exact h name message broken

theorem accessType_begins {column : Option ColumnType} {ref : ColumnRef}
    (h : ref.accessType column = .error (.absent message) ∨
      ref.accessType column = .error (.unsupported message)) : BeginsWith nameHeads message := by
  have absent : BeginsWith nameHeads "No column with the name '" := by decide
  have unsupported : BeginsWith nameHeads "Columns of the type '" := by decide
  unfold ColumnRef.accessType TypingContext.noColumn at h
  simp only [String.append_assoc] at h
  split at h
  · obtain h | h := h <;> cases h
  · split at h
    · obtain h | h := h <;> cases h
    · obtain h | h := h <;> cases h
      exact unsupported.append _
    · obtain h | h := h <;> cases h
      exact absent.append _

/-- What is said of a column that has no type. -/
theorem overlayType_begins (announced : Announced columns) {ref : ColumnRef}
    (h : overlayType columns ref = .error (.absent message) ∨
      overlayType columns ref = .error (.unsupported message)) : BeginsWith nameHeads message := by
  unfold overlayType at h
  split at h
  · next text broken =>
      obtain ⟨name, _, broken⟩ := Option.bind_eq_some_iff.mp broken
      obtain h | h := h <;> cases h
      exact announced name _ broken
  · exact accessType_begins h
  · exact accessType_begins h

/-- What is said of a flow variable that has no type. -/
theorem typeOf_begins
    (h : vars.typeOf name = .error (.absent message) ∨
      vars.typeOf name = .error (.unsupported message)) : BeginsWith nameHeads message := by
  have absent : BeginsWith nameHeads "No flow variable with the name '" := by decide
  have unsupported : BeginsWith nameHeads "Flow variables of the type '" := by decide
  unfold FlowVariables.typeOf TypingContext.noFlowVariable at h
  simp only [String.append_assoc] at h
  split at h
  · obtain h | h := h <;> cases h
  · obtain h | h := h <;> cases h
    exact unsupported.append _
  · obtain h | h := h <;> cases h
    exact absent.append _

/-- The words for an early read are not those of any other remark. -/
theorem early_clash : ∀ head ∈ nameHeads ++ Typing.complaintHeads, Clash "The column '" head := by
  have differ : ∀ head ∈ nameHeads ++ Typing.complaintHeads,
      ("The column '".toList.zip head.toList).any (fun x => x.1 != x.2) = true := by decide +kernel
  exact fun head hhead => .of_zip (differ head hhead)

theorem early_begins (name : String) (number : Nat) :
    "The column '".toList <+: (earlyMessage name number).toList := by
  simp only [earlyMessage, String.append_assoc, String.toList_append]
  exact List.prefix_append _ _

theorem message_ne_of_begins {heads : List String}
    (listed : ∀ head ∈ heads, head ∈ nameHeads ++ Typing.complaintHeads)
    (begins : BeginsWith heads message) (name : String) (number : Nat) :
    message ≠ earlyMessage name number := by
  obtain ⟨head, hhead, begins⟩ := begins
  rintro rfl
  exact ((early_clash head (listed head hhead)).of_begins begins).not_begins (early_begins ..)

/-- No mistake in an expression over a table is told in the words for an early read. -/
theorem message_ne_early (announced : Announced columns) {errors : List CompileError}
    (refused : (e.infer (mapperContext vars columns)).2 = .error errors) {x : CompileError}
    (hx : x ∈ errors) (name : String) (number : Nat) : x.message ≠ earlyMessage name number := by
  have complaint := Expr.complaints_infer e errors refused x hx
  obtain begins | ⟨ref, reason⟩ | ⟨key, reason⟩ := complaint.begins
  · exact message_ne_of_begins (fun _ => List.mem_append_right _) begins name number
  · exact message_ne_of_begins (fun _ => List.mem_append_left _)
      (overlayType_begins announced reason) name number
  · exact message_ne_of_begins (fun _ => List.mem_append_left _) (typeOf_begins reason) name number

end Messages

/-! ## What is reported -/

/-- The early reads in the given sense are what the report on expression `i` consists of, if there
are any, and otherwise nothing in it is told in their words. -/
structure ReportsEarlyReads (read? : Expr → Option String) (t : Table) (outputs : List String)
    (i : Nat) (e : Expr) (remarks : List Diagnostic) : Prop where
  reported : earlyReads read? t outputs i e ≠ [] → remarks = earlyReads read? t outputs i e
  otherwise : earlyReads read? t outputs i e = [] →
    ∀ d ∈ remarks, ∀ name number, d.message ≠ earlyMessage name number

theorem mapperStep_reports {columns : Overlay} {output : String} (parsed : parse source = .ok e)
    (announced : Announced columns) :
    ReportsEarlyReads columnAccess.read? t outputs i e
      (mapperStep vars (appended outputs t.hasColumn) i source output columns).1.diagnostics := by
  unfold mapperStep
  simp only [parsed, premature_eq_earlyReads]
  cases early : earlyReads columnAccess.read? t outputs i e with
  | cons d ds => exact ⟨fun _ => early.symm, fun none => absurd (early.symm.trans none) (by simp)⟩
  | nil =>
      refine ⟨fun some_ => absurd early some_, fun _ d hd name number => ?_⟩
      dsimp only at hd
      cases inferred : (e.infer (mapperContext vars columns)).2 with
      | error errors =>
          have same := inferred
          rw [mapperContext] at same
          rw [same] at hd
          obtain ⟨x, hx, rfl⟩ := List.mem_map.mp hd
          -- Its own errors have other words than those of an early read.
          have message : (Diagnostic.ofCompileError x).message = x.message := by
            unfold Diagnostic.ofCompileError
            dsimp only
            split <;> rfl
          rw [message]
          exact message_ne_early announced inferred hx name number
      | ok type =>
          rw [mapperContext] at inferred
          rw [inferred] at hd
          dsimp only at hd
          split at hd
          · obtain rfl := List.mem_singleton.mp hd
            have clash : Clash "The column '" Runner.mustNotBeMissing := .of_zip (by decide +kernel)
            intro same
            have same : Runner.mustNotBeMissing = earlyMessage name number := same
            exact clash.not_begins (same ▸ early_begins name number)
          · cases hd

/-- The checks report an access to a column before the column is appended, and report nothing else
in the same words.  Any other node that reads a column too early is in error. -/
theorem earlyReads_reported (length : expressions.length = outputs.length) (t : Table)
    (vars : FlowVariables) (hi : expressions[i]? = some source) (parsed : parse source = .ok e) :
    ∃ report, (rowMapper (some t) vars expressions outputs)[i]? = some report ∧
      ReportsEarlyReads columnAccess.read? t outputs i e report.diagnostics ∧
      ∀ node ∈ e.nodes, ∀ name owner, node.readColumn? = some name →
        firstProducer t outputs name = some owner → i ≤ owner → Faulty report.diagnostics := by
  obtain ⟨output, before, houtput, announced, found⟩ :=
    checkInOrder_invariant (mapperStep vars (appended outputs t.hasColumn)) 0 length
      (announced_schema t) hi fun k _ output _ number source s hs => hs.step
  rw [Nat.zero_add] at found
  refine ⟨_, found, mapperStep_reports parsed announced, ?_⟩
  intro node hnode name owner reads first late
  -- The column is in no one's reach yet: not in the table's, and not in that of an earlier output.
  have new : t.hasColumn name = false := by
    by_contra there
    rw [firstProducer, if_pos (by simpa using there)] at first
    cases first
  have absent : (t.schema.map (.ok : ColumnType → Except String ColumnType)).get? name = none := by
    rw [Table.hasColumn, Named.contains, Option.isSome_eq_false_iff, Option.isNone_iff_eq_none]
      at new
    rw [Named.get?_map, Table.schema, Named.get?_map, new]
    rfl
  have free : ∀ k < i, outputs[k]? ≠ some name := by
    intro k hk same
    rw [firstProducer, if_neg (by simp [new])] at first
    obtain ⟨lt, _, before⟩ := List.findIdx?_eq_some_iff_getElem.mp first
    obtain ⟨_, same⟩ := List.getElem?_eq_some_iff.mp same
    exact before k (by omega) (beq_iff_eq.mpr same)
  obtain ⟨output', before', houtput', none_, found'⟩ :=
    checkInOrder_kept (mapperStep vars (appended outputs t.hasColumn)) 0 length absent hi free
  rw [Nat.zero_add, found, Option.some.injEq] at found'
  rw [found']
  exact mapperStep_reads parsed hnode reads fun type there => by rw [none_] at there; cases there

namespace Sample

/-- The first expression reads two columns before they are appended, one of them its own. -/
def hasty : List String := ["$b + $a", "1"]

def late : List String := ["a", "b"]

theorem hasty_reported :
    ∃ e, parse "$b + $a" = .ok e ∧
      ∃ report, (rowMapper (some Runner.Sample.counted) .empty hasty late)[0]? = some report ∧
        ReportsEarlyReads columnAccess.read? Runner.Sample.counted late 0 e report.diagnostics ∧
        ∀ node ∈ e.nodes, ∀ name owner, node.readColumn? = some name →
          firstProducer Runner.Sample.counted late name = some owner → 0 ≤ owner →
            Faulty report.diagnostics := by
  have parses : (parse "$b + $a").toOption.isSome = true := by decide +kernel
  have length : hasty.length = late.length := rfl
  cases parsed : parse "$b + $a" with
  | error issue =>
      rw [parsed] at parses
      cases parses
  | ok e => exact ⟨e, rfl, earlyReads_reported length Runner.Sample.counted .empty rfl parsed⟩

/-- An aggregation of a column that a later expression appends. -/
def aggregated : List String := ["COLUMN_SUM(\"b\")", "1"]

/-- It is not reported as an early read. -/
theorem aggregated_unreported :
    ∃ e, parse "COLUMN_SUM(\"b\")" = .ok e ∧
      ∃ report, (rowMapper (some Runner.Sample.counted) .empty aggregated late)[0]? = some report ∧
        ¬ ReportsEarlyReads Expr.readColumn? Runner.Sample.counted late 0 e report.diagnostics := by
  have reads : (parse "COLUMN_SUM(\"b\")").toOption.map
      (earlyReads Expr.readColumn? Runner.Sample.counted late 0) =
        some [.error (earlyMessage "b" 2) (some ⟨0, 15⟩)] := by decide +kernel
  have remarks : ((rowMapper (some Runner.Sample.counted) .empty aggregated late)[0]?).map
      (·.diagnostics) = some [.error
        "In aggregation 'COLUMN_SUM': No column with the name 'b' is available."
        (some ⟨0, 15⟩)] := by decide +kernel
  cases parsed : parse "COLUMN_SUM(\"b\")" with
  | error issue =>
      rw [parsed] at reads
      cases reads
  | ok e =>
      rw [parsed] at reads
      have reads := Option.some.inj reads
      obtain ⟨report, found, remarks⟩ := Option.map_eq_some_iff.mp remarks
      refine ⟨e, rfl, report, found, fun reports => ?_⟩
      have same := reports.reported (by rw [reads]; exact List.cons_ne_nil _ _)
      rw [reads, remarks] at same
      exact absurd same (by decide +kernel)

end Sample

end Diagnostics

end Rowwise
