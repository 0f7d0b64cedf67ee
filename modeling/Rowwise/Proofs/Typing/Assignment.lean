import Rowwise.Proofs.Typing.Binding
import Mathlib.Data.List.Nodup

/-!
# What the steps of binding assign

Binding assigns positional arguments from left to right, then named arguments one after the other,
and then checks one parameter after the other.  Each step is a recursion over the parameters; if
these have distinct names, what it leaves can be written down as a function of the name of a
parameter.  `assignPositional_eq` says which positional arguments a parameter gets,
`assignAllNamed_ok_iff` which named ones and when they may be given, and `bindParams_ok_iff` when
the checks pass and what the slots are then.
-/

namespace Rowwise

/-! ## Positional arguments -/

/-- The parameter for the positional argument number `k`: the first variadic one that is not behind
the parameter number `k`, or else that parameter itself. -/
def positionalTarget? (params : List Param) (k : Nat) : Option Param :=
  ((params.take (k + 1)).find? Param.isVariadic).or params[k]?

section Positional

variable {p : Param} {ps params : List Param}

theorem positionalTarget?_variadic (h : p.isVariadic = true) (k : Nat) :
    positionalTarget? (p :: ps) k = some p := by
  simp [positionalTarget?, h]

theorem positionalTarget?_zero (h : p.isVariadic = false) :
    positionalTarget? (p :: ps) 0 = some p := by
  simp [positionalTarget?, h]

theorem positionalTarget?_succ (h : p.isVariadic = false) (k : Nat) :
    positionalTarget? (p :: ps) (k + 1) = positionalTarget? ps k := by
  simp [positionalTarget?, h]

/-- A parameter that is not variadic takes one positional argument; the others are placed behind. -/
theorem placed_succ (h : p.isVariadic = false) (n : Nat) :
    (∀ k < n + 1, (positionalTarget? (p :: ps) k).isSome) ↔
      ∀ k < n, (positionalTarget? ps k).isSome := by
  refine ⟨fun placed k hk => ?_, fun placed k hk => ?_⟩
  · rw [← positionalTarget?_succ h]
    exact placed (k + 1) (Nat.succ_lt_succ hk)
  · cases k with
    | zero => rw [positionalTarget?_zero h, Option.isSome_some]
    | succ k =>
        rw [positionalTarget?_succ h]
        exact placed k (Nat.lt_of_succ_lt_succ hk)

theorem mem_of_positionalTarget? {k : Nat} (h : positionalTarget? params k = some p) :
    p ∈ params := by
  rw [positionalTarget?, Option.or_eq_some_iff] at h
  obtain h | ⟨_, h⟩ := h
  · exact List.mem_of_mem_take (List.mem_of_find?_eq_some h)
  · exact List.mem_of_getElem? h

/-- The positional arguments for the parameter of a name.  They are given by their positions in the
call. -/
def positionalFor (params : List Param) (indices : List Nat) (name : String) : List Nat :=
  (indices.zipIdx.filter fun x => (positionalTarget? params x.2).map Param.name == some name).map
    (·.1)

/-- A parameter that is not there takes nothing. -/
theorem positionalFor_of_ne {indices : List Nat} {name : String} (h : ∀ p ∈ params, p.name ≠ name) :
    positionalFor params indices name = [] := by
  rw [positionalFor, List.map_eq_nil_iff, List.filter_eq_nil_iff]
  intro x _ hx
  obtain ⟨p, hp, rfl⟩ := Option.map_eq_some_iff.mp (beq_iff_eq.mp hx)
  exact h p (mem_of_positionalTarget? hp) rfl

theorem positionalFor_variadic (h : p.isVariadic = true) (indices : List Nat) (name : String) :
    positionalFor (p :: ps) indices name = if p.name = name then indices else [] := by
  simp only [positionalFor, positionalTarget?_variadic h, Option.map_some]
  by_cases hn : p.name = name <;> simp [hn]

theorem positionalFor_cons (h : p.isVariadic = false) (i : Nat) (rest : List Nat) (name : String) :
    positionalFor (p :: ps) (i :: rest) name =
      (if p.name = name then [i] else []) ++ positionalFor ps rest name := by
  have shifted : ((rest.zipIdx 1).filter fun x =>
        (positionalTarget? (p :: ps) x.2).map Param.name == some name).map (·.1) =
      positionalFor ps rest name := by
    rw [List.zipIdx_succ, List.filter_map, List.map_map, positionalFor]
    simp only [Function.comp_def, positionalTarget?_succ h]
  rw [positionalFor, List.zipIdx_cons, List.filter_cons, positionalTarget?_zero h, Option.map_some]
  by_cases hn : p.name = name
  · rw [if_pos (beq_iff_eq.mpr (congrArg some hn)), if_pos hn, List.map_cons, shifted]
    rfl
  · rw [if_neg fun he => hn (Option.some.inj (beq_iff_eq.mp he)), if_neg hn, shifted]
    rfl

theorem assignPositional_variadic (h : p.isVariadic = true) (indices : List Nat) :
    assignPositional (p :: ps) indices = some ((p, indices) :: ps.map (·, [])) := by
  cases indices <;> simp [assignPositional, h]

/-- Positional arguments are assigned if all of them have a parameter, and then to that. -/
theorem assignPositional_eq (distinct : (params.map Param.name).Nodup) (indices : List Nat) :
    assignPositional params indices =
      if ∀ k < indices.length, (positionalTarget? params k).isSome then
        some (params.map fun p => (p, positionalFor params indices p.name))
      else none := by
  induction params generalizing indices with
  | nil =>
      cases indices with
      | nil => rfl
      | cons i rest =>
          have unplaced : ¬∀ k < (i :: rest).length, (positionalTarget? [] k).isSome := fun h => by
            simpa [positionalTarget?] using h 0 (by simp)
          rw [if_neg unplaced]
          rfl
  | cons p ps ih =>
      rw [List.map_cons, List.nodup_cons] at distinct
      have others : ∀ q ∈ ps, p.name ≠ q.name := fun q hq h =>
        distinct.1 (h ▸ List.mem_map_of_mem hq)
      -- A variadic parameter takes all that are left, and any other one the first of them.
      cases hp : p.isVariadic with
      | true =>
          have placed : ∀ k < indices.length, (positionalTarget? (p :: ps) k).isSome :=
            fun k _ => by rw [positionalTarget?_variadic hp, Option.isSome_some]
          have rest : ps.map (fun q => (q, positionalFor (p :: ps) indices q.name)) =
              ps.map (·, []) := List.map_congr_left fun q hq => by
            rw [positionalFor_variadic hp, if_neg (others q hq)]
          rw [assignPositional_variadic hp, if_pos placed, List.map_cons, rest,
            positionalFor_variadic hp, if_pos rfl]
      | false =>
          cases indices with
          | nil =>
              have placed : ∀ k < ([] : List Nat).length, (positionalTarget? (p :: ps) k).isSome :=
                fun k hk => absurd hk (Nat.not_lt_zero k)
              rw [if_pos placed, assignPositional, hp]
              rfl
          | cons i rest =>
              have tail : ps.map (fun q => (q, positionalFor (p :: ps) (i :: rest) q.name)) =
                  ps.map (fun q => (q, positionalFor ps rest q.name)) :=
                List.map_congr_left fun q hq => by
                  rw [positionalFor_cons hp, if_neg (others q hq), List.nil_append]
              have head : positionalFor (p :: ps) (i :: rest) p.name = [i] := by
                rw [positionalFor_cons hp, if_pos rfl,
                  positionalFor_of_ne fun q hq h => others q hq h.symm, List.append_nil]
              rw [assignPositional, hp, if_neg Bool.false_ne_true, ih distinct.2, List.map_cons,
                tail, head, List.length_cons]
              by_cases h : ∀ k < rest.length, (positionalTarget? ps k).isSome
              · rw [if_pos h, if_pos ((placed_succ hp rest.length).mpr h)]
                rfl
              · rw [if_neg h, if_neg ((placed_succ hp rest.length).not.mpr h)]
                rfl

end Positional

/-! ## Named arguments -/

section Named

variable {params : List Param}

/-- One more argument for the parameter of a name. -/
def give (name : String) (index : Nat) (f : String → List Nat) (n : String) : List Nat :=
  f n ++ if n = name then [index] else []

/-- A named argument is assigned if there is a parameter of its name that can be given by name and
has not been given. -/
theorem assignNamed_ok_iff (distinct : (params.map Param.name).Nodup) (f : String → List Nat)
    {name : String} {index : Nat} {after : List Assigned} :
    assignNamed name index (params.map fun p => (p, f p.name)) = .ok after ↔
      (∃ p ∈ params, p.name = name ∧ p.isVariadic = false ∧ f name = []) ∧
        after = params.map fun p => (p, give name index f p.name) := by
  induction params generalizing after with
  | nil => simp [assignNamed]
  | cons p ps ih =>
      rw [List.map_cons, List.nodup_cons] at distinct
      rw [List.map_cons, assignNamed]
      -- The names are distinct, so that no parameter behind the one of that name is meant.
      by_cases hn : p.name = name
      · have others : ∀ q ∈ ps, q.name ≠ name := fun q hq h =>
          distinct.1 (hn ▸ h ▸ List.mem_map_of_mem hq)
        have kept : ps.map (fun q => (q, give name index f q.name)) =
            ps.map (fun q => (q, f q.name)) := List.map_congr_left fun q hq => by
          rw [give, if_neg (others q hq), List.append_nil]
        have only : (∃ q ∈ p :: ps, q.name = name ∧ q.isVariadic = false ∧ f name = []) ↔
            p.isVariadic = false ∧ f name = [] := by
          constructor
          · rintro ⟨q, hq, hqn, h⟩
            obtain rfl | hq := List.mem_cons.mp hq
            · exact h
            · exact absurd hqn (others q hq)
          · exact fun h => ⟨p, .head _, hn, h⟩
        rw [if_pos hn, only, List.map_cons, kept, give, if_pos hn, hn]
        cases hp : p.isVariadic with
        | true => simp
        | false =>
            cases hf : f name with
            | nil => simp [eq_comm]
            | cons => simp
      · have others : (∃ q ∈ p :: ps, q.name = name ∧ q.isVariadic = false ∧ f name = []) ↔
            ∃ q ∈ ps, q.name = name ∧ q.isVariadic = false ∧ f name = [] := by
          simp [hn]
        rw [if_neg hn, others, List.map_cons, give, if_neg hn, List.append_nil]
        constructor
        · intro h
          obtain ⟨tail, htail, h⟩ := Except.bind_ok h
          obtain ⟨target, rfl⟩ := (ih distinct.2).mp htail
          cases h
          exact ⟨target, rfl⟩
        · rintro ⟨target, rfl⟩
          rw [(ih distinct.2).mpr ⟨target, rfl⟩]
          rfl

theorem give_eq_nil {name n : String} {index : Nat} {f : String → List Nat} :
    give name index f n = [] ↔ f n = [] ∧ n ≠ name := by
  simp [give]

/-- The named arguments of one name come after what its parameter has already. -/
def giveAll (named : List (String × Nat)) (f : String → List Nat) (n : String) : List Nat :=
  f n ++ (named.filter (·.1 == n)).map (·.2)

theorem giveAll_cons (name : String) (index : Nat) (named : List (String × Nat))
    (f : String → List Nat) (n : String) :
    giveAll ((name, index) :: named) f n = giveAll named (give name index f) n := by
  by_cases h : n = name
  · simp [giveAll, give, h]
  · simp [giveAll, give, h, Ne.symm h]

/-- Once an argument of a name is given, the others can be given if they can be given to begin with
and have other names. -/
theorem givable_give {name : String} {index : Nat} {named : List (String × Nat)}
    {f : String → List Nat} :
    (∀ x ∈ named, ∃ p ∈ params, p.name = x.1 ∧ p.isVariadic = false ∧
        give name index f x.1 = []) ↔
      (∀ x ∈ named, ∃ p ∈ params, p.name = x.1 ∧ p.isVariadic = false ∧ f x.1 = []) ∧
        name ∉ named.map (·.1) := by
  simp only [give_eq_nil]
  constructor
  · intro h
    refine ⟨fun x hx => ?_, fun hmem => ?_⟩
    · obtain ⟨p, hp, hn, hv, hf, _⟩ := h x hx
      exact ⟨p, hp, hn, hv, hf⟩
    · obtain ⟨x, hx, rfl⟩ := List.mem_map.mp hmem
      obtain ⟨_, _, _, _, _, other⟩ := h x hx
      exact other rfl
  · rintro ⟨h, new⟩ x hx
    obtain ⟨p, hp, hn, hv, hf⟩ := h x hx
    exact ⟨p, hp, hn, hv, hf, fun he => new (he ▸ List.mem_map_of_mem hx)⟩

theorem assignAllNamed_ok_iff (distinct : (params.map Param.name).Nodup) (f : String → List Nat)
    {named : List (String × Nat)} {after : List Assigned} :
    named.foldlM (fun assigned x => assignNamed x.1 x.2 assigned)
        (params.map fun p => (p, f p.name)) = .ok after ↔
      (∀ x ∈ named, ∃ p ∈ params, p.name = x.1 ∧ p.isVariadic = false ∧ f x.1 = []) ∧
        (named.map (·.1)).Nodup ∧ after = params.map fun p => (p, giveAll named f p.name) := by
  -- The induction is on the named arguments; what has been assigned so far is general.
  induction named generalizing f with
  | nil =>
      have same : (params.map fun p => (p, giveAll [] f p.name)) =
          params.map fun p => (p, f p.name) := List.map_congr_left fun p _ => by
        rw [giveAll, List.filter_nil, List.map_nil, List.append_nil]
      rw [same]
      constructor
      · rintro ⟨⟩
        exact ⟨fun x hx => absurd hx List.not_mem_nil, List.nodup_nil, rfl⟩
      · rintro ⟨_, _, rfl⟩
        rfl
  | cons x named ih =>
      obtain ⟨name, index⟩ := x
      rw [List.foldlM_cons, List.forall_mem_cons, List.map_cons, List.nodup_cons]
      simp only [giveAll_cons]
      constructor
      · intro h
        obtain ⟨next, hnext, hrest⟩ := Except.bind_ok h
        obtain ⟨target, rfl⟩ := (assignNamed_ok_iff distinct f).mp hnext
        obtain ⟨targets, nodup, rfl⟩ := (ih (give name index f)).mp hrest
        obtain ⟨targets, new⟩ := givable_give.mp targets
        exact ⟨⟨target, targets⟩, ⟨new, nodup⟩, rfl⟩
      · rintro ⟨⟨target, targets⟩, ⟨new, nodup⟩, rfl⟩
        rw [(assignNamed_ok_iff distinct f).mpr ⟨target, rfl⟩, Except.ok_bind]
        exact (ih (give name index f)).mpr ⟨givable_give.mpr ⟨targets, new⟩, nodup, rfl⟩

end Named

/-! ## Checks -/

section Checks

variable {types : List ValueType} {bound after : Arguments Binding}

/-- What a parameter is bound to, given the arguments assigned to it: these, or its default. -/
def taken (p : Param) : List Nat → List Binding
  | [] =>
    match p.arity with
    | .optional (some v) => [.default v]
    | _ => []
  | indices => indices.map .argument

theorem bindIndices_ok_iff {p : Param} {indices : List Nat} :
    indices.foldlM
        (fun bound i =>
          let t := types.getD i .missing
          if p.matcher.accepts t then Except.ok (bound.push p.name (.argument i))
          else Except.error (BindFailure.unaccepted p.name p.matcher.description t))
        bound = .ok after ↔
      (∀ i ∈ indices, p.matcher.accepts (types.getD i .missing) = true) ∧
        after = bound.pushAll p.name (indices.map .argument) := by
  refine ⟨bindIndices_ok, ?_⟩
  rintro ⟨accepted, rfl⟩
  induction indices generalizing bound with
  | nil => rfl
  | cons i rest ih =>
      rw [List.foldlM_cons]
      dsimp only
      rw [if_pos (accepted i (.head _)), Except.ok_bind, ih fun j hj => accepted j (.tail _ hj)]
      rfl

/-- A parameter passes the check if it is given where it has to be and accepts what it is given. -/
theorem bindParam_ok_iff {p : Param} {indices : List Nat} :
    bindParam types bound (p, indices) = .ok after ↔
      ((p.arity = .required → indices ≠ []) ∧
          ∀ i ∈ indices, p.matcher.accepts (types.getD i .missing) = true) ∧
        after = bound.pushAll p.name (taken p indices) := by
  cases indices with
  | nil =>
      have empty : bound.pushAll p.name [] = bound := rfl
      have one (v : Value) :
          bound.pushAll p.name [.default v] = bound.push p.name (.default v) := rfl
      rw [bindParam, taken]
      cases p.arity with
      | required => simp
      | optional default => cases default <;> simp [empty, one] <;> exact eq_comm
      | variadic => simpa [empty] using eq_comm
  | cons i rest =>
      have given : (p.arity = .required → i :: rest ≠ []) ↔ True :=
        iff_true_intro fun _ => List.cons_ne_nil i rest
      rw [given, true_and]
      exact bindIndices_ok_iff

/-- The slot of a parameter that is bound to something. -/
def slot? (p : Param) (bindings : List Binding) : Option (String × List Binding) :=
  if bindings.isEmpty then none else some (p.name, bindings)

theorem pushSlot_fresh {α : Type} {name : String} {a : α} {slots : List (String × List α)}
    (fresh : name ∉ slots.map (·.1)) :
    Arguments.pushSlot name a slots = slots ++ [(name, [a])] := by
  induction slots with
  | nil => rfl
  | cons slot slots ih =>
      obtain ⟨n, as⟩ := slot
      rw [List.map_cons, List.mem_cons, not_or] at fresh
      rw [Arguments.pushSlot, if_neg fun h => fresh.1 h.symm, ih fresh.2]
      rfl

theorem pushSlot_last {α : Type} {name : String} {a : α} {as : List α}
    {slots : List (String × List α)} (fresh : name ∉ slots.map (·.1)) :
    Arguments.pushSlot name a (slots ++ [(name, as)]) = slots ++ [(name, as ++ [a])] := by
  induction slots with
  | nil => simp [Arguments.pushSlot]
  | cons slot slots ih =>
      obtain ⟨n, bs⟩ := slot
      rw [List.map_cons, List.mem_cons, not_or] at fresh
      rw [List.cons_append, Arguments.pushSlot, if_neg fun h => fresh.1 h.symm, ih fresh.2]
      rfl

/-- What is bound to a new name becomes its slot, at the end. -/
theorem slots_pushAll {p : Param} (fresh : p.name ∉ bound.slots.map (·.1))
    (bindings : List Binding) :
    (bound.pushAll p.name bindings).slots = bound.slots ++ (slot? p bindings).toList := by
  have longer : ∀ (bindings as : List Binding),
      (Arguments.pushAll ⟨bound.slots ++ [(p.name, as)]⟩ p.name bindings).slots =
        bound.slots ++ [(p.name, as ++ bindings)] := by
    intro bindings
    induction bindings with
    | nil => intro as; rw [List.append_nil]; rfl
    | cons b bindings ih =>
        intro as
        rw [Arguments.pushAll, List.foldl_cons, ← Arguments.pushAll, Arguments.push,
          pushSlot_last fresh, ih, List.append_assoc]
        rfl
  cases bindings with
  | nil => simp [Arguments.pushAll, slot?]
  | cons b bindings =>
      rw [Arguments.pushAll, List.foldl_cons, ← Arguments.pushAll, Arguments.push,
        pushSlot_fresh fresh, longer]
      rfl

theorem bindParams_ok_iff {params : List Param} (distinct : (params.map Param.name).Nodup)
    (f : String → List Nat) (fresh : ∀ p ∈ params, p.name ∉ bound.slots.map (·.1)) :
    (params.map fun p => (p, f p.name)).foldlM (bindParam types) bound = .ok after ↔
      (∀ p ∈ params, (p.arity = .required → f p.name ≠ []) ∧
          ∀ i ∈ f p.name, p.matcher.accepts (types.getD i .missing) = true) ∧
        after.slots = bound.slots ++ params.filterMap fun p => slot? p (taken p (f p.name)) := by
  induction params generalizing bound with
  | nil =>
      constructor
      · rintro ⟨⟩
        exact ⟨fun p hp => absurd hp List.not_mem_nil, (List.append_nil _).symm⟩
      · rintro ⟨_, same⟩
        rw [List.filterMap_nil, List.append_nil] at same
        cases bound
        cases after
        cases same
        rfl
  | cons p ps ih =>
      rw [List.map_cons, List.nodup_cons] at distinct
      have hp : p.name ∉ bound.slots.map (·.1) := fresh p (.head _)
      have slots := slots_pushAll hp (taken p (f p.name))
      -- What is bound next has no slot yet, since the names are distinct.
      have freshNext : ∀ q ∈ ps, q.name ∉
          (bound.pushAll p.name (taken p (f p.name))).slots.map (·.1) := by
        intro q hq hmem
        rw [slots, List.map_append, List.mem_append] at hmem
        obtain hmem | hmem := hmem
        · exact fresh q (.tail _ hq) hmem
        · obtain ⟨slot, hslot, hname⟩ := List.mem_map.mp hmem
          rw [Option.mem_toList, slot?] at hslot
          split at hslot <;> cases hslot
          have hname : p.name = q.name := hname
          exact distinct.1 (hname ▸ List.mem_map_of_mem hq)
      have joined : bound.slots ++ (p :: ps).filterMap (fun q => slot? q (taken q (f q.name))) =
          (bound.pushAll p.name (taken p (f p.name))).slots ++
            ps.filterMap fun q => slot? q (taken q (f q.name)) := by
        rw [slots, List.append_assoc, List.filterMap_cons]
        cases slot? p (taken p (f p.name)) <;> rfl
      rw [List.map_cons, List.foldlM_cons, List.forall_mem_cons, joined]
      constructor
      · intro h
        obtain ⟨next, hnext, hrest⟩ := Except.bind_ok h
        obtain ⟨passes, rfl⟩ := bindParam_ok_iff.mp hnext
        obtain ⟨pass, same⟩ := (ih distinct.2 freshNext).mp hrest
        exact ⟨⟨passes, pass⟩, same⟩
      · rintro ⟨⟨passes, pass⟩, same⟩
        rw [bindParam_ok_iff.mpr ⟨passes, rfl⟩, Except.ok_bind]
        exact (ih distinct.2 freshNext).mpr ⟨pass, same⟩

end Checks

end Rowwise
