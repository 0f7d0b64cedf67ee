import Rowwise.Proofs.Except
import Rowwise.Proofs.Typing.Inference
import Mathlib.Data.List.Forall2
import Mathlib.Data.List.Nodup

/-!
# What typing reports

Typing a tree reports its mistakes where they are.  A node is named by its path from the root, and
`Expr.places` lists the nodes of a tree with their paths, children from left to right and then their
parent.  A `Reports` is a list of errors at paths that is in this order, blames nodes at their own
spans, has each access that is rejected exactly once, unless it stands below an aggregation, and
blames no node below another one that is blamed, unless that is a call of an unknown function.
`Expr.infer_reports` says that the errors of typing are such a list.

The argument follows the tree.  The reports of the children are put side by side, which
`Reports.children` shows to be a report again, since no path of one child leads into another.  A
node whose children report something adds nothing, unless its function is unknown, and otherwise it
adds at most one error of its own.
-/

namespace Rowwise

open Typing

/-! ## Nodes by their paths -/

/-- The way from the root of a tree to a node, by the number of the child at each step. -/
abbrev Path := List Nat

section Path

variable {α : Type}

/-- What is at paths below the child of a number. -/
def below (i : Nat) (places : List (Path × α)) : List (Path × α) :=
  places.map fun x => (i :: x.1, x.2)

/-- What is at paths below children that are numbered from `i`. -/
def gather : Nat → List (List (Path × α)) → List (Path × α)
  | _, [] => []
  | i, places :: rest => below i places ++ gather (i + 1) rest

theorem mem_below {i : Nat} {places : List (Path × α)} {x : Path × α} :
    x ∈ below i places ↔ ∃ path, x.1 = i :: path ∧ (path, x.2) ∈ places := by
  rw [below, List.mem_map]
  constructor
  · rintro ⟨y, hy, rfl⟩
    exact ⟨y.1, rfl, hy⟩
  · rintro ⟨path, hpath, hx⟩
    exact ⟨_, hx, Prod.ext hpath.symm rfl⟩

theorem mem_gather {i : Nat} {places : List (List (Path × α))} {x : Path × α}
    (h : x ∈ gather i places) : ∃ j path, i ≤ j ∧ x.1 = j :: path := by
  induction places generalizing i with
  | nil => cases h
  | cons l rest ih =>
      obtain h | h := List.mem_append.mp h
      · obtain ⟨path, hpath, _⟩ := mem_below.mp h
        exact ⟨i, path, Nat.le_refl i, hpath⟩
      · obtain ⟨j, path, hj, hpath⟩ := ih h
        exact ⟨j, path, Nat.le_of_succ_le hj, hpath⟩

theorem ne_nil_of_mem_gather {i : Nat} {places : List (List (Path × α))} {x : Path × α}
    (h : x ∈ gather i places) : x.1 ≠ [] := by
  obtain ⟨j, path, _, hpath⟩ := mem_gather h
  rw [hpath]
  exact List.cons_ne_nil j path

/-- Children with distinct paths have distinct paths side by side. -/
theorem nodup_gather {places : List (List (Path × α))}
    (h : ∀ child ∈ places, (child.map (·.1)).Nodup) (i : Nat) :
    ((gather i places).map (·.1)).Nodup := by
  induction places generalizing i with
  | nil => exact List.nodup_nil
  | cons child rest ih =>
      rw [gather, List.map_append, List.nodup_append]
      refine ⟨?_, ih (fun c hc => h c (.tail _ hc)) (i + 1), fun p hp q hq same => ?_⟩
      · have deeper : (below i child).map (·.1) = (child.map (·.1)).map (i :: ·) := by
          rw [below, List.map_map, List.map_map]
          rfl
        rw [deeper]
        exact List.Nodup.map (fun _ _ => List.tail_eq_of_cons_eq) (h child (.head _))
      · obtain ⟨x, hx, rfl⟩ := List.mem_map.mp hp
        obtain ⟨y, hy, rfl⟩ := List.mem_map.mp hq
        obtain ⟨_, hpath, _⟩ := mem_below.mp hx
        obtain ⟨j, _, hj, hpath'⟩ := mem_gather hy
        rw [hpath, hpath', List.cons.injEq] at same
        exact Nat.ne_of_lt hj same.1

/-- A parent has another path than what is below it. -/
theorem nodup_parent {places : List (List (Path × α))} {a : α}
    (h : ∀ child ∈ places, (child.map (·.1)).Nodup) :
    ((gather 0 places ++ [(([] : Path), a)]).map (·.1)).Nodup := by
  rw [List.map_append, List.nodup_append]
  refine ⟨nodup_gather h 0, List.nodup_singleton _, fun p hp q hq same => ?_⟩
  obtain ⟨x, hx, rfl⟩ := List.mem_map.mp hp
  exact ne_nil_of_mem_gather hx (same.trans (List.mem_singleton.mp hq))

end Path

mutual

/-- The nodes of a tree with their paths: the children from left to right, then their parent. -/
def Expr.places : Expr → List (Path × Expr)
  | e@(.constant ..) => [([], e)]
  | e@(.column ..) => [([], e)]
  | e@(.flowVariable ..) => [([], e)]
  | e@(.unary _ _ arg) => gather 0 [arg.places] ++ [([], e)]
  | e@(.binary _ left _ right) => gather 0 [left.places, right.places] ++ [([], e)]
  | e@(.conditional _ condition yes no) =>
    gather 0 [condition.places, yes.places, no.places] ++ [([], e)]
  | e@(.call _ _ _ args _) => gather 0 args.places ++ [([], e)]

/-- The nodes of each argument of a call. -/
def Args.places : Args → List (List (Path × Expr))
  | .nil => []
  | .cons _ value rest => value.places :: rest.places

end

mutual

/-- A path names one node. -/
theorem Expr.nodup_places : ∀ e : Expr, (e.places.map (·.1)).Nodup
  | .constant .. | .column .. | .flowVariable .. => List.nodup_singleton _
  | .unary _ _ arg => by
      rw [Expr.places]
      exact nodup_parent (by simpa using arg.nodup_places)
  | .binary _ left _ right => by
      rw [Expr.places]
      exact nodup_parent (by simpa using ⟨left.nodup_places, right.nodup_places⟩)
  | .conditional _ condition yes no => by
      rw [Expr.places]
      exact nodup_parent (by
        simpa using ⟨condition.nodup_places, yes.nodup_places, no.nodup_places⟩)
  | .call _ _ _ args _ => by
      rw [Expr.places]
      exact nodup_parent args.nodup_places

theorem Args.nodup_places : ∀ args : Args, ∀ child ∈ args.places, (child.map (·.1)).Nodup
  | .nil => fun _ h => absurd h List.not_mem_nil
  | .cons _ value rest => List.forall_mem_cons.mpr ⟨value.nodup_places, rest.nodup_places⟩

end

/-- Whether a node is a call of an aggregation. -/
def Expr.isAggregation : Expr → Bool
  | .call _ .aggregation .. => true
  | _ => false

/-- The error of an access to a column or a flow variable that has no type. -/
def Expr.rejection? (ctx : TypingContext) : Expr → Option CompileError
  | .column note ref =>
    match ctx.column ref with
    | .ok _ => none
    | .error (.absent message) => some ⟨.missingColumn, message, note.span⟩
    | .error (.unsupported message) => some ⟨.unsupportedType, message, note.span⟩
  | .flowVariable note name =>
    match ctx.flowVariable name with
    | .ok _ => none
    | .error (.absent message) => some ⟨.missingFlowVariable, message, note.span⟩
    | .error (.unsupported message) => some ⟨.unsupportedType, message, note.span⟩
  | _ => none

/-! ## Reports -/

/-- A report on some nodes: errors, each with the path of the node that it blames. -/
structure Reports (ctx : TypingContext) (places : List (Path × Expr))
    (report : List (Path × CompileError)) : Prop where
  /-- The nodes that are blamed come in the order of the nodes. -/
  ordered : (report.map (·.1)).Sublist (places.map (·.1))
  /-- An error has the span of the node that it blames. -/
  located : ∀ x ∈ report, ∃ node, (x.1, node) ∈ places ∧ x.2.span = node.span
  /-- An access that is rejected is reported exactly once, if no aggregation is above it. -/
  complete : ∀ path node err, (path, node) ∈ places → node.rejection? ctx = some err →
    (∀ q call, (q, call) ∈ places → call.isAggregation = true → ¬ q <+: path) →
    report.filter (·.1 == path) = [(path, err)]
  /-- No node is blamed below another one, unless that is a call of an unknown function. -/
  apart : ∀ x ∈ report, x.2.kind ≠ .unknownFunction → ∀ y ∈ report, x.1 <+: y.1 → y.1 = x.1

section Reports

variable {ctx : TypingContext} {places rest : List (Path × Expr)}
  {report others : List (Path × CompileError)} {e : Expr}

theorem Reports.nil : Reports ctx [] [] :=
  ⟨.slnil, fun _ h => absurd h List.not_mem_nil, fun _ _ _ h => absurd h List.not_mem_nil,
    fun _ h => absurd h List.not_mem_nil⟩

/-- The paths of a report are paths of nodes. -/
theorem Reports.path_mem (h : Reports ctx places report) {x : Path × CompileError}
    (hx : x ∈ report) : ∃ node, (x.1, node) ∈ places := by
  obtain ⟨node, hnode, _⟩ := h.located x hx
  exact ⟨node, hnode⟩

theorem Reports.deeper (h : Reports ctx places report) (i : Nat) :
    Reports ctx (below i places) (below i report) where
  ordered := by
    have paths {α : Type} (l : List (Path × α)) :
        (below i l).map (·.1) = (l.map (·.1)).map (i :: ·) := by
      rw [below, List.map_map, List.map_map]
      rfl
    rw [paths, paths]
    exact h.ordered.map _
  located := by
    intro x hx
    obtain ⟨path, hpath, hx⟩ := mem_below.mp hx
    obtain ⟨node, hnode, span⟩ := h.located _ hx
    exact ⟨node, mem_below.mpr ⟨path, hpath, hnode⟩, span⟩
  complete := by
    intro path node err hnode rejected uncovered
    obtain ⟨path, rfl, hnode⟩ := mem_below.mp hnode
    -- Every path has the same first step, so that nothing else comes above or below.
    have once := h.complete path node err hnode rejected fun q call hcall aggregation above =>
      uncovered (i :: q) call (mem_below.mpr ⟨q, rfl, hcall⟩) aggregation
        (List.cons_prefix_cons.mpr ⟨rfl, above⟩)
    rw [below, List.filter_map]
    have same : ((fun x : Path × CompileError => x.1 == i :: path) ∘
        fun x : Path × CompileError => (i :: x.1, x.2)) = fun x => x.1 == path := by
      funext x
      simp
    rw [same, once]
    rfl
  apart := by
    intro x hx kind y hy above
    obtain ⟨p, hp, hx⟩ := mem_below.mp hx
    obtain ⟨q, hq, hy⟩ := mem_below.mp hy
    rw [hp, hq, List.cons_prefix_cons] at above
    rw [hp, hq]
    exact congrArg (i :: ·) (h.apart _ hx kind _ hy above.2)

/-- Reports on nodes that are not below each other make one. -/
theorem Reports.append (h : Reports ctx places report) (h' : Reports ctx rest others)
    (separate : ∀ x ∈ places, ∀ y ∈ rest, ¬ x.1 <+: y.1 ∧ ¬ y.1 <+: x.1) :
    Reports ctx (places ++ rest) (report ++ others) where
  ordered := by
    rw [List.map_append, List.map_append]
    exact h.ordered.append h'.ordered
  located := by
    intro x hx
    obtain hx | hx := List.mem_append.mp hx
    · obtain ⟨node, hnode, span⟩ := h.located x hx
      exact ⟨node, List.mem_append_left _ hnode, span⟩
    · obtain ⟨node, hnode, span⟩ := h'.located x hx
      exact ⟨node, List.mem_append_right _ hnode, span⟩
  complete := by
    intro path node err hnode rejected uncovered
    rw [List.filter_append]
    obtain hnode | hnode := List.mem_append.mp hnode
    · have elsewhere : others.filter (·.1 == path) = [] := by
        refine List.filter_eq_nil_iff.mpr fun x hx same => ?_
        obtain ⟨there, hthere⟩ := h'.path_mem hx
        exact (separate _ hnode _ hthere).1 (beq_iff_eq.mp same ▸ List.prefix_rfl)
      rw [elsewhere, List.append_nil]
      exact h.complete path node err hnode rejected fun q call hcall =>
        uncovered q call (List.mem_append_left _ hcall)
    · have elsewhere : report.filter (·.1 == path) = [] := by
        refine List.filter_eq_nil_iff.mpr fun x hx same => ?_
        obtain ⟨there, hthere⟩ := h.path_mem hx
        exact (separate _ hthere _ hnode).1 (beq_iff_eq.mp same ▸ List.prefix_rfl)
      rw [elsewhere, List.nil_append]
      exact h'.complete path node err hnode rejected fun q call hcall =>
        uncovered q call (List.mem_append_right _ hcall)
  apart := by
    -- No path of one part leads into the other.
    intro x hx kind y hy above
    obtain hx | hx := List.mem_append.mp hx <;> obtain hy | hy := List.mem_append.mp hy
    · exact h.apart x hx kind y hy above
    · obtain ⟨_, hp⟩ := h.path_mem hx
      obtain ⟨_, hq⟩ := h'.path_mem hy
      exact absurd above (separate _ hp _ hq).1
    · obtain ⟨_, hp⟩ := h'.path_mem hx
      obtain ⟨_, hq⟩ := h.path_mem hy
      exact absurd above (separate _ hq _ hp).2
    · exact h'.apart x hx kind y hy above

/-- A parent that adds nothing to the report on its children. -/
theorem Reports.parent (h : Reports ctx places report) (accepted : e.rejection? ctx = none) :
    Reports ctx (places ++ [([], e)]) report where
  ordered := by
    rw [List.map_append]
    exact h.ordered.trans (List.sublist_append_left _ _)
  located := by
    intro x hx
    obtain ⟨node, hnode, span⟩ := h.located x hx
    exact ⟨node, List.mem_append_left _ hnode, span⟩
  complete := by
    intro path node err hnode rejected uncovered
    obtain hnode | hnode := List.mem_append.mp hnode
    · exact h.complete path node err hnode rejected fun q call hcall =>
        uncovered q call (List.mem_append_left _ hcall)
    · obtain ⟨rfl, rfl⟩ := Prod.mk.inj (List.mem_singleton.mp hnode)
      rw [accepted] at rejected
      cases rejected
  apart := h.apart

/-- A call of an unknown function is added to the report on its arguments. -/
theorem Reports.unknownFunction {err : CompileError} (h : Reports ctx places report)
    (inner : ∀ x ∈ places, x.1 ≠ []) (accepted : e.rejection? ctx = none)
    (kind : err.kind = .unknownFunction) (span : err.span = e.span) :
    Reports ctx (places ++ [([], e)]) (report ++ [([], err)]) where
  ordered := by
    rw [List.map_append, List.map_append]
    exact h.ordered.append (List.Sublist.refl _)
  located := by
    intro x hx
    obtain hx | hx := List.mem_append.mp hx
    · exact (h.parent accepted).located x hx
    · obtain rfl := List.mem_singleton.mp hx
      exact ⟨e, List.mem_append_right _ (.head _), span⟩
  complete := by
    intro path node err' hnode rejected uncovered
    -- The new error stands at the root, and no access does.
    have once := (h.parent accepted).complete path node err' hnode rejected uncovered
    obtain hnode | hnode := List.mem_append.mp hnode
    · have elsewhere : (([] : Path) == path) = false :=
        beq_eq_false_iff_ne.mpr fun root => inner _ hnode root.symm
      rw [List.filter_append, once, List.filter_cons, elsewhere]
      rfl
    · obtain ⟨rfl, rfl⟩ := Prod.mk.inj (List.mem_singleton.mp hnode)
      rw [accepted] at rejected
      cases rejected
  apart := by
    intro x hx other y hy above
    obtain hx | hx := List.mem_append.mp hx
    · obtain hy | hy := List.mem_append.mp hy
      · exact h.apart x hx other y hy above
      · obtain rfl := List.mem_singleton.mp hy
        exact (List.prefix_nil.mp above).symm
    · obtain rfl := List.mem_singleton.mp hx
      exact absurd kind other

/-- A node is blamed if nothing else is. -/
theorem Reports.blame {err : CompileError} {path : Path} (h : Reports ctx places [])
    (he : (path, e) ∈ places) (span : err.span = e.span) : Reports ctx places [(path, err)] where
  ordered := List.singleton_sublist.mpr (List.mem_map_of_mem he)
  located := by
    intro x hx
    obtain rfl := List.mem_singleton.mp hx
    exact ⟨e, he, span⟩
  complete := by
    intro q node err' hnode rejected uncovered
    exact nomatch h.complete q node err' hnode rejected uncovered
  apart := by
    intro x hx _ y hy _
    rw [List.mem_singleton.mp hx, List.mem_singleton.mp hy]

/-- A report on an aggregation may say anything about its arguments. -/
theorem Reports.aggregation (he : ([], e) ∈ places) (aggregation : e.isAggregation = true)
    (ordered : (report.map (·.1)).Sublist (places.map (·.1)))
    (located : ∀ x ∈ report, ∃ node, (x.1, node) ∈ places ∧ x.2.span = node.span)
    (apart : ∀ x ∈ report, ∀ y ∈ report, x.1 <+: y.1 → y.1 = x.1) :
    Reports ctx places report :=
  ⟨ordered, located, fun _ _ _ _ _ uncovered =>
    absurd List.nil_prefix (uncovered [] e he aggregation), fun x hx _ => apart x hx⟩

theorem Reports.silent (he : ([], e) ∈ places) (aggregation : e.isAggregation = true) :
    Reports ctx places [] :=
  .aggregation he aggregation (List.nil_sublist _) (fun _ h => absurd h List.not_mem_nil)
    fun _ h => absurd h List.not_mem_nil

end Reports

/-! ## Reports on what is typed -/

/-- The errors of a node, or of its children. -/
def Typing.errorsOf {α : Type} : Except (List CompileError) α → List CompileError
  | .ok _ => []
  | .error errors => errors

/-- The errors of a node are a report, with something in it if typing fails. -/
def Reported (ctx : TypingContext) (places : List (Path × Expr)) (r : Inferred) : Prop :=
  r ≠ .error [] ∧ ∃ report, errorsOf r = report.map (·.2) ∧ Reports ctx places report

/-- A rule that fails with one error, about the node that it types. -/
def Blames (e : Expr) (r : Inferred) : Prop :=
  ∀ errors, r = .error errors → ∃ err, errors = [err] ∧ err.span = e.span

section Reported

variable {ctx : TypingContext} {places : List (Path × Expr)} {e : Expr}

theorem Blames.ok (t : ValueType) : Blames e (.ok t) := fun _ h => nomatch h

theorem Blames.fault {kind : CompileErrorKind} {message : String} {span : Span}
    (h : span = e.span) : Blames e (fault kind message span) := by
  intro errors herrors
  cases herrors
  exact ⟨_, rfl, h⟩

theorem Blames.mismatched {span : Span} {x : Except String ValueType} (h : span = e.span) :
    Blames e (mismatched span x) := by
  cases x with
  | ok t => exact .ok t
  | error message => exact .fault h

theorem blames_bindCall {name : String} {span : Span} {old : Option Resolution} {new : Resolution}
    {t : ValueType} (h : span = e.span) : Blames e (bindCall name span old new t).2 := by
  unfold bindCall
  split
  · exact .ok t
  · split
    · exact .ok t
    · exact .fault h

/-- A node that nothing is reported about may be refused. -/
theorem Reports.reported (h : Reports ctx places []) (he : ([], e) ∈ places) {r : Inferred}
    (blames : Blames e r) : Reported ctx places r := by
  cases r with
  | ok t => exact ⟨nofun, [], rfl, h⟩
  | error errors =>
      obtain ⟨err, rfl, span⟩ := blames errors rfl
      exact ⟨nofun, [([], err)], rfl, h.blame he span⟩

theorem Reported.settle (h : Reported ctx places r) (he : ([], e) ∈ places) {e' : Expr}
    (span : e'.span = e.span) : Reported ctx places (settle e' r).2 := by
  cases r with
  | error errors => exact h
  | ok t =>
      obtain ⟨_, report, none, reports⟩ := h
      obtain rfl : report = [] := List.map_eq_nil_iff.mp none.symm
      refine reports.reported he ?_
      rw [Typing.settle]
      cases e'.type? with
      | none => exact .ok t
      | some s =>
          dsimp only
          split
          · exact .ok t
          · exact .fault span

/-- The reports on children make one. -/
theorem Reports.children {children : List (List (Path × Expr))} {results : List Inferred}
    (h : List.Forall₂ (Reported ctx) children results) (i : Nat) :
    ∃ report, results.flatMap errorsOf = report.map (·.2) ∧
      Reports ctx (gather i children) report := by
  induction h generalizing i with
  | nil => exact ⟨[], rfl, .nil⟩
  | @cons places r children results first _ ih =>
      obtain ⟨_, report, errors, reports⟩ := first
      obtain ⟨others, errors', reports'⟩ := ih (i + 1)
      refine ⟨below i report ++ others, ?_, (reports.deeper i).append reports' fun x hx y hy => ?_⟩
      · rw [List.flatMap_cons, errors, errors', List.map_append, below, List.map_map]
        rfl
      · obtain ⟨p, hp, _⟩ := mem_below.mp hx
        obtain ⟨j, q, hj, hq⟩ := mem_gather hy
        rw [hp, hq, List.cons_prefix_cons, List.cons_prefix_cons]
        exact ⟨fun h => Nat.ne_of_lt hj h.1, fun h => Nat.ne_of_gt hj h.1⟩

theorem errors_allTypes (results : List Inferred) :
    errorsOf (allTypes results) = results.flatMap errorsOf := by
  unfold allTypes
  dsimp only
  split
  · next none =>
      refine (List.isEmpty_iff.mp none).symm.trans (List.flatMap_congr fun r _ => ?_)
      cases r <;> rfl
  · refine List.flatMap_congr fun r _ => ?_
    cases r <;> rfl

theorem allTypes_ok_self (types : List ValueType) : allTypes (types.map .ok) = .ok types := by
  unfold allTypes
  simp [List.filterMap_map]

/-- The rule of a node with one child. -/
theorem allTypes_singleton {r : Inferred} (honest : r ≠ .error []) (rule : ValueType → Inferred) :
    ((allTypes [r]).bind fun types => rule (types.getD 0 .missing)) = r.bind rule := by
  cases r with
  | ok t => rfl
  | error errors =>
      cases errors with
      | nil => exact absurd rfl honest
      | cons err errors => simp [allTypes, Except.bind]

/-- A node that is typed by a rule from the types of its children. -/
theorem Reported.rule {children : List (List (Path × Expr))} {results : List Inferred}
    (h : List.Forall₂ (Reported ctx) children results) (accepted : e.rejection? ctx = none)
    {rule : List ValueType → Inferred} (blames : ∀ types, Blames e (rule types)) :
    Reported ctx (gather 0 children ++ [([], e)]) ((allTypes results).bind rule) := by
  obtain ⟨report, errors, reports⟩ := Reports.children h 0
  rw [← errors_allTypes] at errors
  cases ht : allTypes results with
  | error es =>
      rw [ht] at errors
      refine ⟨fun he => allTypes_honest (ht.trans (congrArg _ (Except.error.inj he))), report, ?_,
        reports.parent accepted⟩
      exact errors
  | ok types =>
      rw [ht] at errors
      obtain rfl : report = [] := List.map_eq_nil_iff.mp errors.symm
      exact (reports.parent accepted).reported (List.mem_append_right _ (.head _)) (blames types)

/-! ## Calls -/

/-- A call of a function that is not known is reported after its arguments. -/
theorem Reported.call {name : String} {names : List (Option String)}
    {children : List (List (Path × Expr))} {results : List Inferred} {old : Option Resolution}
    (h : List.Forall₂ (Reported ctx) children results) (accepted : e.rejection? ctx = none) :
    Reported ctx (gather 0 children ++ [([], e)])
      (inferCall ctx name e.span names results old).2 := by
  cases found : ctx.functions.get? name with
  | none =>
      unfold inferCall
      rw [found]
      -- The arguments are reported all the same.
      obtain ⟨report, errors, reports⟩ := Reports.children h 0
      refine ⟨by simp, report ++ [([], unknownName ctx .unknownFunction "function" name e.span)],
        ?_, reports.unknownFunction (fun x => ne_nil_of_mem_gather) accepted rfl rfl⟩
      rw [List.map_append, ← errors, ← errors_allTypes]
      cases allTypes results <;> rfl
  | some f =>
      -- Once the function is known, the call is like any other rule for the types of its children.
      have blames (types : List ValueType) :
          Blames e (inferCall ctx name e.span names (types.map .ok) old).2 := by
        unfold inferCall
        rw [found, allTypes_ok_self]
        dsimp only
        split
        · exact blames_bindCall rfl
        · exact .fault rfl
      have ruled := Reported.rule h accepted blames
      unfold inferCall at ruled ⊢
      rw [found] at ruled ⊢
      cases ht : allTypes results with
      | error es =>
          rw [ht] at ruled
          exact ruled
      | ok types =>
          simp only [ht, allTypes_ok_self] at ruled
          exact ruled

/-- An aggregation reports its arguments that are no literals, or one error of its own. -/
theorem inferAggregation_blames (a : Aggregation) (name : String)
    (args : List (Option String × Expr)) (old : Option Resolution) :
    (∃ errors, errors ≠ [] ∧
        (inferAggregation ctx a name e.span args old).2 = .error errors ∧
        (literals name 0 args).filterMap (fun
          | .ok _ => none
          | .error err => some err) = errors) ∨
      Blames e (inferAggregation ctx a name e.span args old).2 := by
  unfold inferAggregation
  dsimp only
  split
  · next some =>
      refine .inl ⟨_, fun none => ?_, rfl, rfl⟩
      rw [none] at some
      cases some
  · refine .inr ?_
    split
    · exact .fault rfl
    · split
      · exact .fault rfl
      · split
        · exact .fault rfl
        · exact .fault rfl
        · split
          · exact .fault rfl
          · exact blames_bindCall rfl

theorem root_mem_places (e : Expr) : ([], e) ∈ e.places := by
  cases e <;> simp [Expr.places]

/-- The arguments of an aggregation that are no literals, by their paths. -/
theorem exists_report_literals (name : String) (i : Nat) : ∀ args : Args,
    ∃ report : List (Path × CompileError),
      (literals name i args.toList).filterMap (fun
        | .ok _ => none
        | .error err => some err) = report.map (·.2) ∧
      (report.map (·.1)).Sublist ((gather i args.places).map (·.1)) ∧
      ∀ x ∈ report, (∃ j, x.1 = [j]) ∧
        ∃ node, (x.1, node) ∈ gather i args.places ∧ x.2.span = node.span
  | .nil => ⟨[], rfl, .slnil, fun _ h => absurd h List.not_mem_nil⟩
  | .cons label value rest => by
      obtain ⟨report, errors, ordered, located⟩ := exists_report_literals name (i + 1) rest
      have behind : ∀ x ∈ report, (∃ j, x.1 = [j]) ∧
          ∃ node, (x.1, node) ∈ gather i (Args.cons label value rest).places ∧
            x.2.span = node.span := by
        intro x hx
        obtain ⟨path, node, hnode, span⟩ := located x hx
        exact ⟨path, node, List.mem_append_right _ hnode, span⟩
      have later : (report.map (·.1)).Sublist
          ((gather i (Args.cons label value rest).places).map (·.1)) := by
        rw [Args.places, gather, List.map_append]
        exact ordered.trans (List.sublist_append_right _ _)
      by_cases constant : ∃ note c, value = .constant note c
      · obtain ⟨note, c, rfl⟩ := constant
        exact ⟨report, errors, later, behind⟩
      · have here : ([i], value) ∈ below i value.places :=
          mem_below.mpr ⟨[], rfl, root_mem_places value⟩
        refine ⟨([i], ⟨.literalRequired,
          s!"In aggregation '{name}': {argumentLabel i label} must be a literal value.",
          value.span⟩) :: report, ?_, ?_, fun x hx => ?_⟩
        · cases value with
          | constant note c => exact absurd ⟨note, c, rfl⟩ constant
          | _ => exact congrArg (_ :: ·) errors
        · rw [Args.places, gather, List.map_append]
          have path : [i] ∈ (below i value.places).map (·.1) := List.mem_map_of_mem here
          exact (List.singleton_sublist.mpr path).append ordered
        · obtain rfl | hx := List.mem_cons.mp hx
          · exact ⟨⟨i, rfl⟩, value, List.mem_append_left _ here, rfl⟩
          · exact behind x hx

/-- A call of an aggregation. -/
theorem Reported.aggregation {a : Aggregation} {name : String} {args : Args}
    {old : Option Resolution} (aggregation : e.isAggregation = true) :
    Reported ctx (gather 0 args.places ++ [([], e)])
      (inferAggregation ctx a name e.span args.noteLiterals.toList old).2 := by
  have root : ([], e) ∈ gather 0 args.places ++ [([], e)] := List.mem_append_right _ (.head _)
  obtain ⟨errors, some, failed, literals⟩ | blames :=
    @inferAggregation_blames ctx e a name args.noteLiterals.toList old
  · rw [Args.literals_noteLiterals] at literals
    obtain ⟨report, reported, ordered, located⟩ := exists_report_literals name 0 args
    rw [failed]
    refine ⟨fun none => some (Except.error.inj none), report, literals.symm.trans reported,
      .aggregation root aggregation ?_ (fun x hx => ?_) fun x hx y hy above => ?_⟩
    · rw [List.map_append]
      exact ordered.trans (List.sublist_append_left _ _)
    · obtain ⟨_, node, hnode, span⟩ := located x hx
      exact ⟨node, List.mem_append_left _ hnode, span⟩
    · -- The arguments of a call are not below each other.
      obtain ⟨⟨i, hi⟩, _⟩ := located x hx
      obtain ⟨⟨j, hj⟩, _⟩ := located y hy
      rw [hi, hj] at above ⊢
      exact (above.eq_of_length rfl).symm
  · exact (Reports.silent root aggregation).reported root blames

/-- A leaf is refused if it is an access that is rejected. -/
theorem Reported.leaf {r : Inferred}
    (h : (∃ t, r = .ok t ∧ e.rejection? ctx = none) ∨
      ∃ err, r = .error [err] ∧ e.rejection? ctx = some err ∧ err.span = e.span) :
    Reported ctx [([], e)] r := by
  obtain ⟨t, rfl, accepted⟩ | ⟨err, rfl, rejected, span⟩ := h
  · exact ⟨nofun, [], rfl, Reports.nil.parent accepted⟩
  · refine ⟨nofun, [([], err)], rfl, List.Sublist.refl _, fun x hx => ⟨e, ?_⟩,
      fun path node err' hnode rejected' _ => ?_, fun x hx _ y hy _ => ?_⟩
    · rw [List.mem_singleton.mp hx]
      exact ⟨.head _, span⟩
    · obtain ⟨rfl, rfl⟩ := Prod.mk.inj (List.mem_singleton.mp hnode)
      obtain rfl := Option.some.inj (rejected.symm.trans rejected')
      rfl
    · rw [List.mem_singleton.mp hx, List.mem_singleton.mp hy]

end Reported

section Infer

variable {ctx : TypingContext}

mutual

theorem Expr.reported : ∀ e : Expr, Reported ctx e.places (e.infer ctx).2
  | .constant note c => by
      rw [Expr.infer]
      exact .settle (.leaf (.inl ⟨_, rfl, rfl⟩)) (.head _) rfl
  | .column note ref => by
      rw [Expr.infer]
      refine .settle (.leaf ?_) (.head _) rfl
      rw [Expr.rejection?]
      cases ctx.column ref with
      | ok t => exact .inl ⟨t, rfl, rfl⟩
      | error reason => cases reason <;> exact .inr ⟨_, rfl, rfl, rfl⟩
  | .flowVariable note name => by
      rw [Expr.infer]
      refine .settle (.leaf ?_) (.head _) rfl
      rw [Expr.rejection?]
      cases ctx.flowVariable name with
      | ok t => exact .inl ⟨t, rfl, rfl⟩
      | error reason => cases reason <;> exact .inr ⟨_, rfl, rfl, rfl⟩
  | .unary note op arg => by
      have child := Expr.reported arg
      rw [Expr.infer]
      dsimp only
      -- A rule for one child is one for a list of children.
      rw [← allTypes_singleton child.1]
      exact .settle (.rule (e := .unary note op arg) (.cons child .nil) rfl fun types =>
        .mismatched rfl) (List.mem_append_right _ (.head _)) rfl
  | .binary note left op right => by
      rw [Expr.infer]
      have children := List.Forall₂.cons (Expr.reported left) (.cons (Expr.reported right) .nil)
      refine .settle (.rule (e := .binary note left op right) children rfl fun types =>
        .mismatched rfl) (List.mem_append_right _ (.head _)) rfl
  | .conditional note condition yes no => by
      rw [Expr.infer]
      have children := List.Forall₂.cons (Expr.reported condition)
        (.cons (Expr.reported yes) (.cons (Expr.reported no) .nil))
      refine .settle (.rule (e := .conditional note condition yes no) children rfl fun types =>
        .mismatched rfl) (List.mem_append_right _ (.head _)) rfl
  | .call note .function name args old => by
      rw [Expr.infer_functionCall]
      refine .settle (.call (e := .call note .function name args old) (Args.reported args) rfl)
        (List.mem_append_right _ (.head _)) rfl
  | .call note .aggregation name args old => by
      have root := root_mem_places (.call note .aggregation name args old)
      cases ha : ctx.aggregations.get? name with
      | none =>
          rw [Expr.infer_unknownAggregation ha]
          refine (Reports.silent root rfl).reported root ?_
          intro errors herrors
          cases herrors
          exact ⟨_, rfl, rfl⟩
      | some a =>
          rw [Expr.infer_aggregationCall ha]
          exact .settle (.aggregation (e := .call note .aggregation name args old) rfl) root rfl

theorem Args.reported : ∀ args : Args,
    List.Forall₂ (Reported ctx) args.places (args.infer ctx).2
  | .nil => .nil
  | .cons _ value rest => by
      rw [Args.infer, Args.places]
      exact .cons (Expr.reported value) (Args.reported rest)

end

/-- Every mistake of a tree is reported once, where it is, and nothing is reported because of
another mistake. -/
theorem Expr.infer_reports (e : Expr) :
    (∀ errors, (e.infer ctx).2 = .error errors → errors ≠ []) ∧
      (e.places.map (·.1)).Nodup ∧
      ∃ report, errorsOf (e.infer ctx).2 = report.map (·.2) ∧ Reports ctx e.places report := by
  obtain ⟨honest, report⟩ : Reported ctx e.places (e.infer ctx).2 := e.reported
  exact ⟨fun errors failed none => honest (none ▸ failed), e.nodup_places, report⟩

end Infer

/-! ## Children of accepted nodes -/

section Accepted

variable {ctx : TypingContext} {note : Note} {t : ValueType}

theorem Expr.infer_unary_ok {op : UnaryOp} {arg : Expr}
    (accepted : ((Expr.unary note op arg).infer ctx).2 = .ok t) :
    ∃ a, (arg.infer ctx).2 = .ok a ∧ unaryType op a = .ok t := by
  rw [Expr.infer] at accepted
  obtain ⟨a, ha, ruled⟩ := Except.bind_ok (settle_ok accepted).1
  exact ⟨a, ha, mismatched_ok ruled⟩

theorem Expr.infer_binary_ok {op : BinaryOp} {left right : Expr}
    (accepted : ((Expr.binary note left op right).infer ctx).2 = .ok t) :
    ∃ a b, (left.infer ctx).2 = .ok a ∧ (right.infer ctx).2 = .ok b ∧ binaryType op a b = .ok t := by
  rw [Expr.infer] at accepted
  obtain ⟨types, typed, ruled⟩ := Except.bind_ok (settle_ok accepted).1
  have each := allTypes_ok (by simpa using ⟨left.reported.1, right.reported.1⟩) typed
  obtain ⟨a, b, rfl⟩ : ∃ a b, types = [a, b] :=
    List.length_eq_two.mp (by simpa using (congrArg List.length each).symm)
  obtain ⟨ha, each⟩ := List.cons.inj each
  exact ⟨a, b, ha, (List.cons.inj each).1, mismatched_ok ruled⟩

theorem Expr.infer_conditional_ok {condition yes no : Expr}
    (accepted : ((Expr.conditional note condition yes no).infer ctx).2 = .ok t) :
    ∃ c y n, (condition.infer ctx).2 = .ok c ∧ (yes.infer ctx).2 = .ok y ∧
      (no.infer ctx).2 = .ok n ∧ conditionalType c y n = .ok t := by
  rw [Expr.infer] at accepted
  obtain ⟨types, typed, ruled⟩ := Except.bind_ok (settle_ok accepted).1
  have each := allTypes_ok
    (by simpa using ⟨condition.reported.1, yes.reported.1, no.reported.1⟩) typed
  obtain ⟨c, y, n, rfl⟩ : ∃ c y n, types = [c, y, n] :=
    List.length_eq_three.mp (by simpa using (congrArg List.length each).symm)
  obtain ⟨hc, each⟩ := List.cons.inj each
  obtain ⟨hy, each⟩ := List.cons.inj each
  exact ⟨c, y, n, hc, hy, (List.cons.inj each).1, mismatched_ok ruled⟩

theorem Args.infer_honest : ∀ args : Args, ∀ r ∈ (args.infer ctx).2, r ≠ .error []
  | .nil => fun _ hr => absurd hr List.not_mem_nil
  | .cons _ value rest => List.forall_mem_cons.mpr ⟨value.reported.1, rest.infer_honest⟩

variable {name : String} {args : Args} {old : Option Resolution}

/-- A call of a function that is accepted is bound to an overload that applies to its arguments. -/
theorem Expr.infer_functionCall_ok
    (accepted : ((Expr.call note .function name args old).infer ctx).2 = .ok t) :
    ∃ f types i o bound u, ctx.functions.get? name = some f ∧
      (args.infer ctx).2 = types.map .ok ∧ f.overloads[i]? = some o ∧
      tryOverload o ((args.infer ctx).1.names.zip types) = .ok (bound, u) ∧
      ∀ old, inferCall ctx name note.span (args.infer ctx).1.names (args.infer ctx).2 old =
        bindCall name note.span old (.function f i bound) u := by
  rw [Expr.infer_functionCall] at accepted
  obtain ⟨es, _, refused⟩ | bound :=
    inferCall_cases ctx name note.span (args.infer ctx).1.names args.infer_honest
  · rw [refused] at accepted
    cases accepted
  · exact bound

/-- A call of an aggregation that is accepted has literals which name a column that it takes. -/
theorem Expr.infer_aggregationCall_ok
    (accepted : ((Expr.call note .aggregation name args old).infer ctx).2 = .ok t) :
    ∃ a bound n column u, ctx.aggregations.get? name = some a ∧
      (∀ b ∈ args.noteLiterals.toList, ∃ note c, b.2 = .constant note c) ∧
      bindLiterals a name args.noteLiterals.toList = some bound ∧
      Aggregation.columnName? bound = some n ∧ ctx.column (.named n 0) = .ok column ∧
      a.returnType column = .ok u ∧
      ∀ old, inferAggregation ctx a name note.span args.noteLiterals.toList old =
        bindCall name note.span old (.aggregation a column bound) u := by
  cases ha : ctx.aggregations.get? name with
  | none =>
      rw [Expr.infer_unknownAggregation ha] at accepted
      cases accepted
  | some a =>
      rw [Expr.infer_aggregationCall ha] at accepted
      obtain ⟨es, _, refused⟩ | ⟨bound, n, column, u, found⟩ :=
        inferAggregation_cases ctx a name note.span args.noteLiterals.toList
      · rw [refused] at accepted
        cases accepted
      · exact ⟨a, bound, n, column, u, rfl, found⟩

end Accepted

end Rowwise
