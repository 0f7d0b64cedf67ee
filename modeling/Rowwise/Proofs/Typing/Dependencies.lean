import Rowwise.Proofs.Typing.Binding
import Rowwise.Proofs.Typing.Reports
import Rowwise.Runner

/-!
# What the type of an expression depends on

Typing asks for columns in two ways.  An access asks for its own column, and a call of an
aggregation for the one that its arguments name, once they are bound to parameters: that is the
literal of the first argument which has no name or the name of the parameter, since such an
argument is the only one that can be bound to it (`bindArguments_first`).

`Expr.readColumn?` says this of a node without binding anything, and typing in two contexts that
answer alike for what the nodes read comes to the same tree and the same outcome:
`Expr.infer_congr`.  An accepted tree has found all that its nodes read: `Expr.column_of_accepted`.

The names that `Expr.columnNames` collects are all of these but one kind: it looks at the first
argument of an aggregation only, and misses a column that comes after an argument with another
name.  `Expr.lateColumns` lists those, and with them nothing is missing
(`Expr.infer_eq_of_listed`).
-/

namespace Rowwise

open Typing

/-! ## What the first parameter of a call is bound to -/

/-- Whether an argument can be meant for the first parameter: it has no name, or that of the
parameter. -/
def meantFor (parameter : String) (name : Option String) : Bool :=
  name.isNone || name == some parameter

/-- The first parameter takes the first positional argument. -/
theorem assignPositional_first {p : Param} {ps : List Param} {indices : List Nat}
    {assigned : List Assigned} (single : p.isVariadic = false)
    (h : assignPositional (p :: ps) indices = some assigned) :
    ∃ rest, assigned = (p, indices.take 1) :: rest := by
  cases indices with
  | nil =>
      rw [assignPositional, single] at h
      cases h
      exact ⟨_, rfl⟩
  | cons i indices =>
      rw [assignPositional, single] at h
      obtain ⟨rest, _, rfl⟩ := Option.map_eq_some_iff.mp h
      exact ⟨rest, rfl⟩

/-- It takes the arguments of its name as well, and no more than one argument in all. -/
theorem assignNamed_first {p : Param} (single : p.isVariadic = false)
    {named : List (String × Nat)} {indices : List Nat} {rest after : List Assigned}
    (atMostOne : indices.length ≤ 1)
    (h : named.foldlM (fun (assigned : List Assigned) x => assignNamed x.1 x.2 assigned)
      ((p, indices) :: rest) = .ok after) :
    ∃ rest', after = (p, indices ++ (named.filter (·.1 == p.name)).map (·.2)) :: rest' ∧
      (indices ++ (named.filter (·.1 == p.name)).map (·.2)).length ≤ 1 := by
  -- The first parameter takes a named argument only while it has none.
  induction named generalizing indices rest with
  | nil =>
      cases h
      exact ⟨rest, by simp, by simpa using atMostOne⟩
  | cons x named ih =>
      obtain ⟨name, index⟩ := x
      rw [List.foldlM_cons] at h
      obtain ⟨next, hnext, hrest⟩ := Except.bind_ok h
      rw [assignNamed] at hnext
      by_cases hname : p.name = name
      · subst hname
        rw [if_pos rfl, single] at hnext
        cases indices with
        | cons => cases hnext
        | nil =>
            cases hnext
            have one : [index].length ≤ 1 := Nat.le_refl 1
            simpa using ih one hrest
      · rw [if_neg hname] at hnext
        obtain ⟨tail, _, htail⟩ := Except.bind_ok hnext
        cases htail
        have other : (name == p.name) = false := beq_eq_false_iff_ne.mpr (Ne.symm hname)
        simpa only [List.filter_cons, other, Bool.false_eq_true, if_false] using ih atMostOne hrest

/-- The check of a parameter leaves what is bound to other names. -/
theorem all_bindParam {types : List ValueType} {bound after : Arguments Binding} {x : Assigned}
    {key : String} (h : bindParam types bound x = .ok after) (other : x.1.name ≠ key) :
    after.all key = bound.all key := by
  obtain ⟨p, indices⟩ := x
  cases indices with
  | nil =>
      rw [bindParam] at h
      split at h <;> cases h
      · rw [Arguments.all_push, if_neg (Ne.symm other), List.append_nil]
      · rfl
      · rfl
  | cons i rest =>
      obtain ⟨_, rfl⟩ := bindIndices_ok h
      rw [Arguments.all_pushAll, if_neg (Ne.symm other), List.append_nil]

/-- Named arguments of one name, by their positions. -/
theorem filter_named {name : String} (positions : List (ArgumentType × Nat)) :
    ((positions.filterMap fun (a, i) => a.1.map (·, i)).filter (·.1 == name)).map (·.2) =
      (positions.filter (·.1.1 == some name)).map (·.2) := by
  induction positions with
  | nil => rfl
  | cons x positions ih =>
      obtain ⟨⟨_ | n, t⟩, i⟩ := x
      · exact ih
      · by_cases h : n = name <;> simpa [h] using ih

/-- If the first positional argument and those of one name are a single one, it is the first that is
meant for a parameter of that name. -/
theorem findIdx?_meantFor {name : String} {args : List ArgumentType} {i : Nat}
    (h : ((args.zipIdx.filter (·.1.1.isNone)).map (·.2)).take 1 ++
      (args.zipIdx.filter (·.1.1 == some name)).map (·.2) = [i]) :
    (args.map (·.1)).findIdx? (meantFor name) = some i := by
  have found : (args.map (·.1)).findIdx? (meantFor name) =
      ((args.zipIdx.filter fun x => meantFor name x.1.1).map (·.2)).head? := by
    rw [List.findIdx?_map, List.findIdx?_eq_fst_find?_zipIdx, List.head?_map, List.head?_filter]
    rfl
  rw [found]
  obtain ⟨positional, named⟩ | ⟨positional, named⟩ := List.append_eq_singleton_iff.mp h
  · -- No argument has no name, so that the names decide.
    have unnamed : args.zipIdx.filter (·.1.1.isNone) = [] := by simpa using positional
    have same : args.zipIdx.filter (fun x => meantFor name x.1.1) =
        args.zipIdx.filter (·.1.1 == some name) := by
      refine List.filter_congr fun x hx => ?_
      rw [meantFor, Bool.eq_false_iff.mpr (List.filter_eq_nil_iff.mp unnamed x hx), Bool.false_or]
    rw [same, named]
    rfl
  · -- No argument has the name, so that the first one without a name is meant.
    have unnamed : args.zipIdx.filter (·.1.1 == some name) = [] := List.map_eq_nil_iff.mp named
    have same : args.zipIdx.filter (fun x => meantFor name x.1.1) =
        args.zipIdx.filter (·.1.1.isNone) := by
      refine List.filter_congr fun x hx => ?_
      rw [meantFor, Bool.eq_false_iff.mpr (List.filter_eq_nil_iff.mp unnamed x hx), Bool.or_false]
    rw [same]
    have first := congrArg List.head? positional
    rwa [List.head?_take, if_neg Nat.one_ne_zero] at first

/-- A required first parameter is bound to the first argument that is meant for it. -/
theorem bindArguments_first {p : Param} {ps : List Param} {args : List ArgumentType}
    {bound : Arguments Binding} (required : p.arity = .required)
    (distinct : ∀ q ∈ ps, q.name ≠ p.name) (h : bindArguments (p :: ps) args = .ok bound) :
    ∃ i, (args.map (·.1)).findIdx? (meantFor p.name) = some i ∧
      bound.all p.name = [.argument i] := by
  have single : p.isVariadic = false := by rw [Param.isVariadic, required]
  unfold bindArguments at h
  dsimp only at h
  split at h
  case h_2 => cases h
  case h_1 start hstart =>
  obtain ⟨_, ⟨⟩, h⟩ := Except.bind_ok h
  obtain ⟨assigned, hassigned, hbind⟩ := Except.bind_ok h
  have params : assigned.map (·.1) = p :: ps := by
    refine Except.foldlM_invariant (I := fun t : List Assigned => t.map (·.1) = p :: ps) hassigned
      (fun x _ before after hbefore step => ?_) (assignPositional_ok hstart).1
    exact (assignNamed_ok step).1.trans hbefore
  -- It is assigned the first positional argument and the named ones of its name, and takes one.
  obtain ⟨rest, rfl⟩ := assignPositional_first single hstart
  obtain ⟨rest', rfl, atMostOne⟩ :=
    assignNamed_first single (List.length_take_le 1 _) hassigned
  rw [filter_named] at atMostOne hbind
  have others : ∀ x ∈ rest', x.1.name ≠ p.name := by
    intro x hx
    refine distinct x.1 ?_
    rw [← (List.cons.inj params).2]
    exact List.mem_map_of_mem hx
  rw [List.foldlM_cons] at hbind
  obtain ⟨first, hfirst, hrest⟩ := Except.bind_ok hbind
  -- The checks of the other parameters leave its slot alone.
  have kept : bound.all p.name = first.all p.name :=
    Except.foldlM_invariant (I := fun t => t.all p.name = first.all p.name) hrest
      (fun x hx before after hbefore step => (all_bindParam step (others x hx)).trans hbefore) rfl
  generalize hindices : List.take 1 _ ++ _ = indices at hfirst atMostOne
  match indices, atMostOne, hindices with
  | [], _, _ =>
      rw [bindParam, required] at hfirst
      cases hfirst
  | [i], _, hindices =>
      obtain ⟨_, rfl⟩ := bindIndices_ok hfirst
      refine ⟨i, findIdx?_meantFor hindices, ?_⟩
      rw [kept, Arguments.all_pushAll, if_pos rfl]
      rfl

/-! ## What an expression reads -/

/-- The argument of a call that is its column if there is one. -/
def Args.column? : Args → Option Expr
  | .nil => none
  | .cons name value rest => if meantFor "column" name then some value else rest.column?

/-- The text of a literal string. -/
def Expr.literalText? : Expr → Option String
  | .constant _ (.string s) => some s
  | _ => none

/-- The column that the arguments of an aggregation name. -/
def Args.columnName? (args : Args) : Option String := args.column?.bind Expr.literalText?

/-- The column that a node itself reads: that of an access or of an aggregation. -/
def Expr.readColumn? : Expr → Option String
  | .column _ ref => ref.name?
  | .call _ .aggregation _ args _ => args.columnName?
  | _ => none

namespace Args

theorem column?_of_findIdx? {args : Args} {i : Nat}
    (h : args.names.findIdx? (meantFor "column") = some i) :
    args.column? = (args.toList[i]?).map (·.2) := by
  induction args using Args.induction generalizing i with
  | nil => simp at h
  | cons name value rest ih =>
      rw [names_cons, List.findIdx?_cons] at h
      rw [column?]
      by_cases hname : meantFor "column" name = true
      · rw [if_pos hname] at h ⊢
        cases h
        rfl
      · rw [if_neg hname] at h ⊢
        obtain ⟨j, hj, rfl⟩ := Option.map_eq_some_iff.mp h
        exact ih hj

theorem columnName?_cons (name : Option String) (value : Expr) (rest : Args) :
    (Args.cons name value rest).columnName? =
      if meantFor "column" name then value.literalText? else rest.columnName? := by
  rw [columnName?, column?]
  split <;> rfl

theorem columnName?_noteLiterals (args : Args) :
    args.noteLiterals.columnName? = args.columnName? := by
  induction args using Args.induction with
  | nil => rfl
  | cons name value rest ih =>
      simp only [noteLiterals, columnName?_cons, ih]
      by_cases hname : meantFor "column" name = true
      · rw [if_pos hname, if_pos hname]
        cases value with
        | constant note c => cases c <;> rfl
        | _ => rfl
      · rw [if_neg hname, if_neg hname]

end Args

/-- The first parameter of an aggregation is its column, and the others have other names. -/
theorem Aggregation.name_ne_column (a : Aggregation) : ∀ p ∈ a.params.tail, p.name ≠ "column" := by
  intro p hp
  obtain rfl := List.mem_singleton.mp hp
  change (if a.statistic = .count then "ignore_missing" else "ignore_nan") ≠ "column"
  split <;> decide

namespace Typing

/-- The value of a literal. -/
def literalValue : Expr → Value
  | .constant _ c => c.toValue
  | _ => .missing

theorem as?_literalValue (e : Expr) : (literalValue e).as? .string = e.literalText? := by
  cases e with
  | constant note c => cases c <;> rfl
  | _ => rfl

theorem literals_of_constants {name : String} {position : Nat} {args : List (Option String × Expr)}
    (constants : ∀ b ∈ args, ∃ note c, b.2 = .constant note c) :
    literals name position args = args.map fun b => .ok (literalValue b.2) := by
  induction args generalizing position with
  | nil => rfl
  | cons b args ih =>
      obtain ⟨label, value⟩ := b
      obtain ⟨note, c, rfl⟩ := constants _ (.head _)
      rw [literals, ih fun b hb => constants b (.tail _ hb)]
      rfl

/-- The column that bound literals name is the one that the call reads. -/
theorem columnName?_bindLiterals {a : Aggregation} {name : String} {args : Args}
    {bound : Arguments Value} (constants : ∀ b ∈ args.toList, ∃ note c, b.2 = .constant note c)
    (h : bindLiterals a name args.toList = some bound) :
    Aggregation.columnName? bound = args.columnName? := by
  unfold bindLiterals at h
  rw [literals_of_constants constants] at h
  simp only [List.filterMap_map, Function.comp_def, List.filterMap_eq_map', List.map_map] at h
  cases hbind : bindArguments a.params
      ((args.toList.map (·.1)).zip (args.toList.map fun b => (literalValue b.2).valueType)) with
  | error failure => rw [hbind] at h; cases h
  | ok positions =>
      rw [hbind] at h
      cases h
      have names : (((args.toList.map (·.1)).zip
          (args.toList.map fun b => (literalValue b.2).valueType)).map (·.1)) = args.names :=
        List.map_fst_zip (by simp)
      obtain ⟨i, hi, hall⟩ := bindArguments_first rfl a.name_ne_column hbind
      rw [names] at hi
      have hall : positions.all "column" = [.argument i] := hall
      rw [Aggregation.columnName?, Arguments.get?_map, Arguments.get?, hall, Args.columnName?,
        Args.column?_of_findIdx? hi]
      simp only [List.head?_cons, Option.map_some, Option.bind_some, List.getD_eq_getElem?_getD,
        List.getElem?_map]
      cases args.toList[i]? with
      | none => rfl
      | some b => exact as?_literalValue b.2

/-- Typing a call of an aggregation asks for no other column. -/
theorem inferAggregation_congr {ctx ctx' : TypingContext} {a : Aggregation} {name : String}
    {span : Span} {args : Args} {old : Option Resolution}
    (same : ∀ n, args.columnName? = some n →
      ctx.column (.named n 0) = ctx'.column (.named n 0)) :
    inferAggregation ctx a name span args.toList old =
      inferAggregation ctx' a name span args.toList old := by
  have column {bound : Arguments Value} {n : String}
      (constants : ∀ b ∈ args.toList, ∃ note c, b.2 = .constant note c)
      (literal : bindLiterals a name args.toList = some bound)
      (named : Aggregation.columnName? bound = some n) :
      ctx.column (.named n 0) = ctx'.column (.named n 0) :=
    same n (columnName?_bindLiterals constants literal ▸ named)
  unfold inferAggregation
  dsimp only
  generalize herrors : (literals name 0 args.toList).filterMap _ = errors
  cases errors with
  | cons e es => rfl
  | nil =>
      have column := @column
      unfold bindLiterals at column
      dsimp only at column
      generalize bindArguments a.params _ = binding at column ⊢
      cases binding with
      | error failure => rfl
      | ok bound =>
          dsimp only at column ⊢
          generalize bound.map _ = bound at column ⊢
          cases hn : Aggregation.columnName? bound with
          | none => rfl
          | some n =>
              dsimp only
              rw [column (constant_of_no_error herrors) rfl hn]

/-- So does binding a call of a function, which asks for its callee. -/
theorem inferCall_congr {ctx ctx' : TypingContext} (functions : ctx.functions = ctx'.functions)
    (aggregations : ctx.aggregations = ctx'.aggregations) {name : String} {span : Span}
    {names : List (Option String)} {results : List Inferred} {old : Option Resolution} :
    inferCall ctx name span names results old = inferCall ctx' name span names results old := by
  simp only [inferCall, unknownName, functions, aggregations]

end Typing

/-! ## Typing in two contexts -/

/-- Whether two contexts answer alike for what a node itself reads. -/
def Expr.ReadsAlike (ctx ctx' : TypingContext) : Expr → Prop
  | .column _ ref => ctx.column ref = ctx'.column ref
  | .flowVariable _ name => ctx.flowVariable name = ctx'.flowVariable name
  | .call _ .aggregation _ args _ => ∀ n, args.columnName? = some n →
      ctx.column (.named n 0) = ctx'.column (.named n 0)
  | _ => True

section Congruence

variable {ctx ctx' : TypingContext}

mutual

/-- A tree is typed in the same way in two contexts that answer alike for what its nodes read. -/
theorem Expr.infer_congr (functions : ctx.functions = ctx'.functions)
    (aggregations : ctx.aggregations = ctx'.aggregations) :
    ∀ {e : Expr}, (∀ n ∈ e.nodes, n.ReadsAlike ctx ctx') → e.infer ctx = e.infer ctx'
  | .constant _ _, _ => rfl
  | .column _ ref, h => by
      have answer : ctx.column ref = ctx'.column ref := h _ (.head _)
      rw [Expr.infer, Expr.infer, answer]
  | .flowVariable _ name, h => by
      have answer : ctx.flowVariable name = ctx'.flowVariable name := h _ (.head _)
      rw [Expr.infer, Expr.infer, answer]
  | .unary _ _ arg, h => by
      have ha : arg.infer ctx = arg.infer ctx' :=
        Expr.infer_congr functions aggregations fun n hn => h n (.tail _ hn)
      rw [Expr.infer, Expr.infer, ha]
  | .binary _ left _ right, h => by
      have hl : left.infer ctx = left.infer ctx' :=
        Expr.infer_congr functions aggregations
          fun n hn => h n (.tail _ (List.mem_append_left _ hn))
      have hr : right.infer ctx = right.infer ctx' :=
        Expr.infer_congr functions aggregations
          fun n hn => h n (.tail _ (List.mem_append_right _ hn))
      rw [Expr.infer, Expr.infer, hl, hr]
  | .conditional _ condition yes no, h => by
      have hc : condition.infer ctx = condition.infer ctx' :=
        Expr.infer_congr functions aggregations
          fun n hn => h n (.tail _ (List.mem_append_left _ (List.mem_append_left _ hn)))
      have hy : yes.infer ctx = yes.infer ctx' :=
        Expr.infer_congr functions aggregations
          fun n hn => h n (.tail _ (List.mem_append_left _ (List.mem_append_right _ hn)))
      have hn : no.infer ctx = no.infer ctx' :=
        Expr.infer_congr functions aggregations
          fun n hn => h n (.tail _ (List.mem_append_right _ hn))
      rw [Expr.infer, Expr.infer, hc, hy, hn]
  | .call note .function name args old, h => by
      have hargs : args.infer ctx = args.infer ctx' :=
        Args.infer_congr functions aggregations fun n hn => h n (.tail _ hn)
      rw [Expr.infer_functionCall, Expr.infer_functionCall, hargs,
        inferCall_congr functions aggregations]
  | .call note .aggregation name args old, h => by
      have own := h _ (.head _)
      cases ha : ctx.aggregations.get? name with
      | none =>
          rw [Expr.infer_unknownAggregation ha,
            Expr.infer_unknownAggregation (aggregations ▸ ha)]
          simp only [unknownName, functions, aggregations]
      | some a =>
          have step : inferAggregation ctx a name note.span args.noteLiterals.toList old =
              inferAggregation ctx' a name note.span args.noteLiterals.toList old :=
            inferAggregation_congr fun n hn => own n (args.columnName?_noteLiterals ▸ hn)
          rw [Expr.infer_aggregationCall ha, Expr.infer_aggregationCall (aggregations ▸ ha), step]

theorem Args.infer_congr (functions : ctx.functions = ctx'.functions)
    (aggregations : ctx.aggregations = ctx'.aggregations) :
    ∀ {args : Args}, (∀ n ∈ args.nodes, n.ReadsAlike ctx ctx') → args.infer ctx = args.infer ctx'
  | .nil, _ => rfl
  | .cons _ value rest, h => by
      have hv : value.infer ctx = value.infer ctx' :=
        Expr.infer_congr functions aggregations fun n hn => h n (List.mem_append_left _ hn)
      have hr : rest.infer ctx = rest.infer ctx' :=
        Args.infer_congr functions aggregations fun n hn => h n (List.mem_append_right _ hn)
      rw [Args.infer, Args.infer, hv, hr]

end

end Congruence

/-! ## What an accepted tree has read -/

theorem Expr.Coherent.infer_constant {ctx : TypingContext} {contexts : List TypingContext}
    {note : Note} {c : Constant} (h : (Expr.constant note c).Coherent contexts) :
    ((Expr.constant note c).infer ctx).2 = .ok c.valueType := by
  rw [Expr.infer, settle]
  cases noted : (Expr.constant note c).type? with
  | none => rfl
  | some s =>
      dsimp only
      rw [if_pos (h s noted)]

theorem Args.constant_of_noteLiterals {args : Args}
    (noted : ∀ b ∈ args.noteLiterals.toList, ∃ note c, b.2 = .constant note c) :
    ∀ b ∈ args.toList, ∃ note c, b.2 = .constant note c := by
  induction args using Args.induction with
  | nil => exact fun b hb => absurd hb List.not_mem_nil
  | cons name value rest ih =>
      intro b hb
      obtain rfl | hb := List.mem_cons.mp hb
      · cases value with
        | constant note c => exact ⟨note, c, rfl⟩
        | _ => exact noted _ (.head _)
      · exact ih (fun b hb => noted b (.tail _ hb)) b hb

/-- The nodes of literal arguments are accepted. -/
theorem Args.Coherent.accepted_of_constants {ctx : TypingContext} {contexts : List TypingContext}
    {args : Args} (h : args.Coherent contexts)
    (constants : ∀ b ∈ args.toList, ∃ note c, b.2 = .constant note c) :
    ∀ n ∈ args.nodes, ∃ s, (n.infer ctx).2 = .ok s := by
  induction args using Args.induction with
  | nil => exact fun n hn => absurd hn List.not_mem_nil
  | cons name value rest ih =>
      intro n hn
      obtain ⟨note, c, hvalue⟩ := constants _ (.head _)
      obtain rfl : value = .constant note c := hvalue
      rw [Args.nodes, List.mem_append] at hn
      obtain hn | hn := hn
      · obtain rfl := List.mem_singleton.mp hn
        exact ⟨_, h.1.infer_constant⟩
      · exact ih h.2 (fun b hb => constants b (.tail _ hb)) n hn

section Accepted

variable {ctx : TypingContext} {contexts : List TypingContext}

mutual

/-- Every node of an accepted tree is accepted. -/
theorem Expr.accepted_of_mem_nodes : ∀ {e : Expr} {t : ValueType}, e.Coherent contexts →
    (e.infer ctx).2 = .ok t → ∀ n ∈ e.nodes, ∃ s, (n.infer ctx).2 = .ok s
  | .constant _ _, t, _, accepted, n, hn | .column _ _, t, _, accepted, n, hn
  | .flowVariable _ _, t, _, accepted, n, hn => by
      rw [Expr.nodes, List.mem_singleton] at hn
      exact ⟨t, hn ▸ accepted⟩
  | .unary _ _ arg, t, h, accepted, n, hn => by
      rw [Expr.nodes, List.mem_cons] at hn
      obtain rfl | hn := hn
      · exact ⟨t, accepted⟩
      · obtain ⟨a, ha, _⟩ := Expr.infer_unary_ok accepted
        exact Expr.accepted_of_mem_nodes (e := arg) h ha n hn
  | .binary _ left _ right, t, h, accepted, n, hn => by
      rw [Expr.nodes, List.mem_cons, List.mem_append] at hn
      obtain rfl | hn := hn
      · exact ⟨t, accepted⟩
      · obtain ⟨a, b, ha, hb, _⟩ := Expr.infer_binary_ok accepted
        obtain hn | hn := hn
        · exact Expr.accepted_of_mem_nodes h.1 ha n hn
        · exact Expr.accepted_of_mem_nodes h.2 hb n hn
  | .conditional _ condition yes no, t, h, accepted, n, hn => by
      rw [Expr.nodes, List.mem_cons, List.mem_append, List.mem_append] at hn
      obtain rfl | hn := hn
      · exact ⟨t, accepted⟩
      · obtain ⟨a, b, c, ha, hb, hc, _⟩ := Expr.infer_conditional_ok accepted
        obtain (hn | hn) | hn := hn
        · exact Expr.accepted_of_mem_nodes h.1 ha n hn
        · exact Expr.accepted_of_mem_nodes h.2.1 hb n hn
        · exact Expr.accepted_of_mem_nodes h.2.2 hc n hn
  | .call note .function name args old, t, h, accepted, n, hn => by
      rw [Expr.nodes, List.mem_cons] at hn
      obtain rfl | hn := hn
      · exact ⟨t, accepted⟩
      · obtain ⟨_, types, _, _, _, _, _, typed, _⟩ := Expr.infer_functionCall_ok accepted
        exact Args.accepted_of_mem_nodes h.1 typed n hn
  | .call note .aggregation name args old, t, h, accepted, n, hn => by
      rw [Expr.nodes, List.mem_cons] at hn
      obtain rfl | hn := hn
      · exact ⟨t, accepted⟩
      · obtain ⟨_, _, _, _, _, _, constants, _⟩ := Expr.infer_aggregationCall_ok accepted
        exact h.1.accepted_of_constants (Args.constant_of_noteLiterals constants) n hn

theorem Args.accepted_of_mem_nodes : ∀ {args : Args} {types : List ValueType},
    args.Coherent contexts → (args.infer ctx).2 = types.map .ok →
      ∀ n ∈ args.nodes, ∃ s, (n.infer ctx).2 = .ok s
  | .nil, _, _, _, n, hn => absurd hn List.not_mem_nil
  | .cons _ value rest, [], _, typed, n, hn => by
      rw [Args.infer] at typed
      cases typed
  | .cons _ value rest, t :: types, h, typed, n, hn => by
      rw [Args.infer] at typed
      obtain ⟨hv, hr⟩ := List.cons.inj typed
      rw [Args.nodes, List.mem_append] at hn
      obtain hn | hn := hn
      · exact Expr.accepted_of_mem_nodes h.1 hv n hn
      · exact Args.accepted_of_mem_nodes h.2 hr n hn

end

/-- An accepted tree has found all columns that its nodes read. -/
theorem Expr.column_of_accepted {e : Expr} {t : ValueType} (coherent : e.Coherent contexts)
    (accepted : (e.infer ctx).2 = .ok t) {node : Expr} (hnode : node ∈ e.nodes) {n : String}
    (reads : node.readColumn? = some n) : ∃ offset s, ctx.column (.named n offset) = .ok s := by
  obtain ⟨s, hs⟩ := Expr.accepted_of_mem_nodes coherent accepted node hnode
  cases node with
  | column note ref =>
      cases ref with
      | named m offset =>
          obtain rfl : m = n := Option.some.inj reads
          exact ⟨offset, s, resolved_ok (settle_ok hs).1⟩
      | rowId | rowIndex | rowNumber => cases reads
  | call note callee name args old =>
      cases callee with
      | function => cases reads
      | aggregation =>
          obtain ⟨_, _, m, column, _, _, constants, literal, named, found, _⟩ :=
            Expr.infer_aggregationCall_ok hs
          -- The column that is found is the one which the arguments name.
          have same : some m = args.columnName? := by
            rw [← named, columnName?_bindLiterals constants literal,
              Args.columnName?_noteLiterals]
          obtain rfl : m = n := Option.some.inj (same.trans reads)
          exact ⟨0, column, found⟩
  | _ => cases reads

/-- It has found all flow variables. -/
theorem Expr.flowVariable_of_accepted {e : Expr} {t : ValueType} (coherent : e.Coherent contexts)
    (accepted : (e.infer ctx).2 = .ok t) {node : Expr} (hnode : node ∈ e.nodes) {n : String}
    (reads : node.ownFlowVariable? = some n) : ∃ s, ctx.flowVariable n = .ok s := by
  obtain ⟨s, hs⟩ := Expr.accepted_of_mem_nodes coherent accepted node hnode
  cases node with
  | flowVariable note m =>
      obtain rfl : m = n := Option.some.inj reads
      exact ⟨s, resolved_ok (settle_ok hs).1⟩
  | _ => cases reads

end Accepted

/-! ## The names that a tree lists -/

/-- The column of an aggregation whose first argument is given by another name, so that the column
stands behind it. -/
def Expr.lateColumn? : Expr → Option String
  | .call _ .aggregation _ (.cons name _ rest) _ =>
    if meantFor "column" name then none else rest.columnName?
  | _ => none

/-- The columns that a tree reads and does not list. -/
def Expr.lateColumns (e : Expr) : List String := e.nodes.filterMap Expr.lateColumn?

/-- A node lists the column that it reads unless it is one of those. -/
theorem Expr.listed_of_readColumn? {e : Expr} {n : String} (h : e.readColumn? = some n) :
    e.ownColumn? = some n ∨ e.lateColumn? = some n := by
  cases e with
  | column note ref => exact .inl h
  | call note callee name args old =>
      cases callee with
      | function => cases h
      | aggregation =>
          cases args with
          | nil => cases h
          | cons label value rest =>
              rw [readColumn?, Args.columnName?_cons] at h
              rw [lateColumn?]
              by_cases first : meantFor "column" label = true
              · rw [if_pos first] at h
                cases value with
                | constant note c =>
                    cases c with
                    | string s => exact .inl h
                    | _ => cases h
                | _ => cases h
              · rw [if_neg first] at h ⊢
                exact .inr h
  | _ => cases h

/-- Two contexts with the same callables type a tree in the same way if they answer alike for the
properties of rows, for the columns and flow variables that it lists, and for the columns of
aggregations that it does not list. -/
theorem Expr.infer_eq_of_listed {ctx ctx' : TypingContext} {e : Expr}
    (functions : ctx.functions = ctx'.functions)
    (aggregations : ctx.aggregations = ctx'.aggregations)
    (rows : ∀ ref : ColumnRef, ref.name? = none → ctx.column ref = ctx'.column ref)
    (columns : ∀ n ∈ e.columnNames, ∀ offset,
      ctx.column (.named n offset) = ctx'.column (.named n offset))
    (late : ∀ n ∈ e.lateColumns, ctx.column (.named n 0) = ctx'.column (.named n 0))
    (vars : ∀ n ∈ e.flowVariableNames, ctx.flowVariable n = ctx'.flowVariable n) :
    e.infer ctx = e.infer ctx' := by
  refine Expr.infer_congr functions aggregations fun node hnode => ?_
  cases node with
  | column note ref =>
      cases ref with
      | named n offset => exact columns n (List.mem_filterMap.mpr ⟨_, hnode, rfl⟩) offset
      | rowId | rowIndex | rowNumber => exact rows _ rfl
  | flowVariable note n => exact vars n (List.mem_filterMap.mpr ⟨_, hnode, rfl⟩)
  | call note callee name args old =>
      cases callee with
      | function => trivial
      | aggregation =>
          intro n hn
          have reads : (Expr.call note .aggregation name args old).readColumn? = some n := hn
          obtain own | behind := Expr.listed_of_readColumn? reads
          · exact columns n (List.mem_filterMap.mpr ⟨_, hnode, own⟩) 0
          · exact late n (List.mem_filterMap.mpr ⟨_, hnode, behind⟩)
  | _ => trivial

namespace Sample

/-- Rows with some columns, and the callables that are built in. -/
def rowsOver (columns : List (String × ValueType)) : TypingContext :=
  { column := fun ref => ref.accessType (ref.name?.bind fun n => (columns.lookup n).map .supported)
    flowVariable := TypingContext.noFlowVariables
    functions := Functions.library
    aggregations := Aggregation.library }

/-- `COLUMN_MAX(ignore_nan=TRUE, column="b")` -/
def greatest : Expr :=
  .call {} .aggregation "COLUMN_MAX"
    (.cons (some "ignore_nan") (.constant {} (.boolean true))
      (.cons (some "column") (.constant {} (.string "b")) .nil)) none

/-- `$a + COLUMN_MAX(ignore_nan=TRUE, column="b")` lists only one of the two columns that it
reads. -/
def raised : Expr := .binary {} (.column {} (.named "a" 0)) .plus greatest

/-- Contexts that differ in a column which the expression does not read. -/
theorem raised_alike :
    raised.columnNames = ["a"] ∧ raised.lateColumns = ["b"] ∧ raised.flowVariableNames = [] ∧
      raised.infer (rowsOver [("a", .required .integer), ("b", .required .integer)]) =
        raised.infer (rowsOver [("a", .required .integer), ("b", .required .integer),
          ("c", .required .string)]) := by
  have columns : raised.columnNames = ["a"] := by decide
  have late : raised.lateColumns = ["b"] := by decide
  have vars : raised.flowVariableNames = [] := by decide
  refine ⟨columns, late, vars, Expr.infer_eq_of_listed rfl rfl (fun ref unnamed => ?_)
    (fun n hn offset => ?_) (fun n hn => ?_) fun n hn => ?_⟩
  · cases ref with
    | named => cases unnamed
    | rowId | rowIndex | rowNumber => rfl
  · rw [columns, List.mem_singleton] at hn
    rw [hn]
    rfl
  · rw [late, List.mem_singleton] at hn
    rw [hn]
    rfl
  · rw [vars] at hn
    cases hn

/-- Contexts that differ in a column which the expression reads and does not list. -/
theorem greatest_unlike :
    greatest.Untyped ∧
      (∀ ref : ColumnRef, (∀ n, ref.name? = some n → n ∈ greatest.columnNames) →
        (rowsOver [("b", .required .integer)]).column ref = (rowsOver []).column ref) ∧
      (∀ n, (rowsOver [("b", .required .integer)]).flowVariable n = (rowsOver []).flowVariable n) ∧
      (greatest.infer (rowsOver [("b", .required .integer)])).2.toOption =
        some (.optionalOf .integer) ∧
      (greatest.infer (rowsOver [])).2.toOption = none := by
  have columns : greatest.columnNames = [] := by decide
  refine ⟨⟨rfl, rfl, rfl, rfl, trivial⟩, fun ref listed => ?_, fun _ => rfl, by decide +kernel,
    by decide +kernel⟩
  cases ref with
  | named n offset =>
      have impossible := listed n rfl
      rw [columns] at impossible
      cases impossible
  | rowId | rowIndex | rowNumber => rfl

end Sample

end Rowwise
