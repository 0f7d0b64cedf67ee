import Rowwise.Proofs.Typing.Assignment
import Mathlib.Data.List.Induction

/-!
# Calls that match a signature

`target?` says which parameter an argument of a call is for: a positional argument is for the
parameter of its number, or for a variadic one before that, and a named argument for the parameter
of its name.  `Matches` lists the conditions under which the arguments of a call match a signature,
and `Lossless` what it means that bound arguments are those of the call, each under its parameter,
with defaults for the rest.  `bindArguments_matches` says that binding succeeds exactly under the
former, and that it then has the latter.

The steps of binding number the positional arguments, whereas `target?` counts those in front of
one; `numbered_positions` passes from one to the other.  `bindArguments_ok_iff` puts the steps
together: what is bound are the arguments for each parameter, or its default, in the order of the
parameters.
-/

namespace Rowwise

/-! ## The arguments for a parameter -/

/-- The parameter for the argument at position `i` of a call. -/
def target? (params : List Param) (args : List ArgumentType) (i : Nat) : Option Param :=
  match args[i]? with
  | none => none
  | some (none, _) => positionalTarget? params ((args.take i).countP (·.1.isNone))
  | some (some name, _) => params.find? (·.name == name)

/-- The conditions under which the arguments of a call match a signature. -/
structure Matches (params : List Param) (args : List ArgumentType) : Prop where
  /-- Every positional argument gets a parameter. -/
  positional : ∀ i t, args[i]? = some (none, t) → (target? params args i).isSome
  /-- Every named argument names a parameter that may be given by name, and that no other argument
  is for. -/
  named : ∀ i name t, args[i]? = some (some name, t) →
    ∃ p, target? params args i = some p ∧ p.isVariadic = false ∧
      ∀ j, target? params args j = some p → j = i
  required : ∀ p ∈ params, p.arity = .required → ∃ i, target? params args i = some p
  accepted : ∀ i p a, target? params args i = some p → args[i]? = some a →
    p.matcher.accepts a.2 = true

/-- The argument of a binding. -/
def Binding.argument? : Binding → Option Nat
  | .argument i => some i
  | .default _ => none

/-- Nothing is lost in bound arguments. -/
structure Lossless (params : List Param) (args : List ArgumentType) (bound : Arguments Binding) :
    Prop where
  /-- Every argument of the call occurs exactly once. -/
  once : (bound.values.filterMap Binding.argument?).Perm (List.range args.length)
  /-- It occurs under the parameter that it is for. -/
  under : ∀ p ∈ params, ∀ i, .argument i ∈ bound.all p.name ↔ target? params args i = some p
  /-- The arguments of a parameter are in the order of the source. -/
  ordered : ∀ p ∈ params, ((bound.all p.name).filterMap Binding.argument?).Pairwise (· < ·)
  /-- A parameter that is not variadic has one entry. -/
  single : ∀ p ∈ params, p.isVariadic = false → ∀ bindings, (p.name, bindings) ∈ bound.slots →
    bindings.length = 1
  /-- A parameter that no argument is for has its default. -/
  default : ∀ p ∈ params, (∀ i, target? params args i ≠ some p) →
    ∀ v, p.arity = .optional (some v) → (p.name, [.default v]) ∈ bound.slots
  /-- Without one it has no slot. -/
  absent : ∀ p ∈ params, (∀ i, target? params args i ≠ some p) →
    (∀ v, p.arity ≠ .optional (some v)) → p.name ∉ bound.slots.map (·.1)
  /-- The slots are in the order of the parameters. -/
  inOrder : (bound.slots.map (·.1)).Sublist (params.map Param.name)

/-! ## Positions -/

section Positions

variable {α : Type} (q : α → Bool)

/-- The positions of the elements with a property, numbered in their order: the number of each is
how many there are before it. -/
theorem numbered_positions (g : Nat → Bool) (l : List α) :
    (((l.zipIdx.filter fun x => q x.1).map (·.2)).zipIdx.filter fun x => g x.2).map (·.1) =
      (List.range l.length).filter fun i => l[i]?.any q && g ((l.take i).countP q) := by
  induction l using List.reverseRecOn with
  | nil => rfl
  | append_singleton l a ih =>
      have count : ((l.zipIdx.filter fun x => q x.1).map (·.2)).length = l.countP q := by
        rw [List.length_map, ← List.countP_eq_length_filter]
        conv_rhs => rw [← List.zipIdx_map_fst 0 l, List.countP_map]
        rfl
      have before : (List.range l.length).filter (fun i => (l ++ [a])[i]?.any q &&
            g (((l ++ [a]).take i).countP q)) =
          (List.range l.length).filter fun i => l[i]?.any q && g ((l.take i).countP q) := by
        refine List.filter_congr fun i hi => ?_
        have hi := List.mem_range.mp hi
        rw [List.getElem?_append_left hi, List.take_append_of_le_length (Nat.le_of_lt hi)]
      rw [List.zipIdx_append, List.filter_append, List.map_append, List.zipIdx_append,
        List.filter_append, List.map_append, ih, List.length_append, List.length_singleton,
        List.range_succ, List.filter_append, before, count]
      congr 1
      cases hq : q a <;> cases hg : g (l.countP q) <;> simp [hq, hg]

/-- Without the numbers. -/
theorem positions_eq (l : List α) :
    (l.zipIdx.filter fun x => q x.1).map (·.2) =
      (List.range l.length).filter fun i => l[i]?.any q := by
  simpa using numbered_positions q (fun _ => true) l

end Positions

/-! ## Arguments by their parameters -/

/-- The arguments for the parameter of a name, by their positions. -/
def assignedTo (params : List Param) (args : List ArgumentType) (name : String) : List Nat :=
  (List.range args.length).filter fun i => (target? params args i).map Param.name == some name

section Targets

variable {params : List Param} {args : List ArgumentType} {p q : Param} {i : Nat} {name : String}

theorem target?_positional {t : ValueType} (h : args[i]? = some (none, t)) :
    target? params args i = positionalTarget? params ((args.take i).countP (·.1.isNone)) := by
  rw [target?, h]

theorem target?_named {t : ValueType} (h : args[i]? = some (some name, t)) :
    target? params args i = params.find? (·.name == name) := by
  rw [target?, h]

theorem mem_of_target? (h : target? params args i = some p) : p ∈ params := by
  rw [target?] at h
  split at h
  · cases h
  · exact mem_of_positionalTarget? h
  · exact List.mem_of_find?_eq_some h

theorem lt_of_target? (h : target? params args i = some p) : i < args.length := by
  rw [target?] at h
  split at h
  · cases h
  · next ha => exact (List.getElem?_eq_some_iff.mp ha).1
  · next ha => exact (List.getElem?_eq_some_iff.mp ha).1

theorem target?_eq_iff (distinct : (params.map Param.name).Nodup) (hp : p ∈ params) :
    target? params args i = some p ↔ (target? params args i).map Param.name = some p.name := by
  refine ⟨fun h => by rw [h, Option.map_some], fun h => ?_⟩
  obtain ⟨q, hq, name⟩ := Option.map_eq_some_iff.mp h
  rw [hq, List.inj_on_of_nodup_map distinct (mem_of_target? hq) hp name]

theorem mem_assignedTo (distinct : (params.map Param.name).Nodup) (hp : p ∈ params) :
    i ∈ assignedTo params args p.name ↔ target? params args i = some p := by
  rw [assignedTo, List.mem_filter, List.mem_range, beq_iff_eq, ← target?_eq_iff distinct hp]
  exact and_iff_right_of_imp lt_of_target?

/-- The positional arguments of a call, by their positions. -/
def positionals (args : List ArgumentType) : List Nat :=
  (args.zipIdx.filter fun x => x.1.1.isNone).map (·.2)

/-- The named arguments of a call, with their positions. -/
def nameds (args : List ArgumentType) : List (String × Nat) :=
  args.zipIdx.filterMap fun x => x.1.1.map (·, x.2)

/-- Whether the argument at a position has no name. -/
def isPositional (args : List ArgumentType) (i : Nat) : Bool := args[i]?.any (·.1.isNone)

theorem mem_nameds : (name, i) ∈ nameds args ↔ ∃ t, args[i]? = some (some name, t) := by
  rw [nameds, List.mem_filterMap]
  constructor
  · rintro ⟨⟨⟨label, t⟩, j⟩, hx, h⟩
    obtain ⟨n, hn, rfl, rfl⟩ : ∃ n, label = some n ∧ n = name ∧ j = i := by
      obtain ⟨n, hn, h⟩ := Option.map_eq_some_iff.mp h
      exact ⟨n, hn, congrArg Prod.fst h, congrArg Prod.snd h⟩
    subst hn
    exact ⟨t, List.mem_zipIdx_iff_getElem?.mp hx⟩
  · rintro ⟨t, h⟩
    exact ⟨((some name, t), i), List.mem_zipIdx_iff_getElem?.mpr h, rfl⟩

theorem positionalFor_positionals (name : String) :
    positionalFor params (positionals args) name =
      (assignedTo params args name).filter (isPositional args) := by
  rw [positionalFor, positionals, numbered_positions (fun a : ArgumentType => a.1.isNone)
    (fun k => (positionalTarget? params k).map Param.name == some name), assignedTo,
    List.filter_filter]
  refine List.filter_congr fun i _ => ?_
  rw [isPositional]
  cases ha : args[i]? with
  | none => rfl
  | some a =>
      obtain ⟨_ | label, t⟩ := a
      · rw [target?_positional ha]
      · rfl

/-- A named argument is for the parameter of that name. -/
theorem find?_name_eq_some (hp : p ∈ params) :
    (params.find? (·.name == name)).map Param.name = some p.name ↔ name = p.name := by
  constructor
  · intro h
    obtain ⟨q, hq, same⟩ := Option.map_eq_some_iff.mp h
    have found := List.find?_some hq
    rw [← same, beq_iff_eq.mp found]
  · rintro rfl
    obtain ⟨q, hq⟩ : ∃ q, params.find? (·.name == p.name) = some q :=
      Option.isSome_iff_exists.mp (List.find?_isSome.mpr ⟨p, hp, beq_self_eq_true _⟩)
    have found := List.find?_some hq
    rw [hq, Option.map_some, beq_iff_eq.mp found]

theorem filter_nameds (hp : p ∈ params) :
    ((nameds args).filter (·.1 == p.name)).map (·.2) =
      (assignedTo params args p.name).filter (!isPositional args ·) := by
  have labelled : ∀ positions : List (ArgumentType × Nat),
      ((positions.filterMap fun x => x.1.1.map (·, x.2)).filter (·.1 == p.name)).map (·.2) =
        (positions.filter (·.1.1 == some p.name)).map (·.2) := by
    intro positions
    induction positions with
    | nil => rfl
    | cons x positions ih =>
        obtain ⟨⟨_ | n, t⟩, i⟩ := x
        · exact ih
        · by_cases h : n = p.name <;> simpa [h] using ih
  rw [nameds, labelled, positions_eq (fun a : ArgumentType => a.1 == some p.name), assignedTo,
    List.filter_filter]
  refine List.filter_congr fun i hi => ?_
  obtain ⟨⟨label, t⟩, ha⟩ : ∃ a, args[i]? = some a :=
    ⟨_, List.getElem?_eq_getElem (List.mem_range.mp hi)⟩
  rw [isPositional, ha]
  cases label with
  | none => rfl
  | some label =>
      rw [target?_named ha, Bool.eq_iff_iff]
      simp [find?_name_eq_some hp]

/-- What the steps of binding assign to a parameter are the arguments for it, if it is not both
given by position and by name. -/
theorem giveAll_eq (hp : p ∈ params)
    (exclusive : (∃ i, (p.name, i) ∈ nameds args) →
      positionalFor params (positionals args) p.name = []) :
    giveAll (nameds args) (positionalFor params (positionals args)) p.name =
      assignedTo params args p.name := by
  rw [giveAll, filter_nameds hp]
  cases hn : (assignedTo params args p.name).filter (!isPositional args ·) with
  | nil =>
      rw [List.append_nil, positionalFor_positionals, List.filter_eq_self]
      intro i hi
      simpa using List.filter_eq_nil_iff.mp hn i hi
  | cons i rest =>
      have given : ∃ i, (p.name, i) ∈ nameds args := by
        have hi : i ∈ ((nameds args).filter (·.1 == p.name)).map (·.2) := by
          rw [filter_nameds hp, hn]
          exact .head _
        obtain ⟨⟨name, _⟩, hx, rfl⟩ := List.mem_map.mp hi
        obtain ⟨hx, hname⟩ := List.mem_filter.mp hx
        obtain rfl : name = p.name := beq_iff_eq.mp hname
        exact ⟨_, hx⟩
      rw [exclusive given, List.nil_append, ← hn, List.filter_eq_self]
      have none := exclusive given
      rw [positionalFor_positionals] at none
      intro i hi
      simpa using List.filter_eq_nil_iff.mp none i hi

/-- The positional arguments that are numbered have parameters. -/
theorem positionals_placed :
    (∀ k < (positionals args).length, (positionalTarget? params k).isSome) ↔
      ∀ i t, args[i]? = some (none, t) → (target? params args i).isSome := by
  have numbered := numbered_positions (fun a : ArgumentType => a.1.isNone)
    (fun k => (positionalTarget? params k).isNone) args
  rw [← positionals] at numbered
  -- Neither side has a positional argument without a parameter.
  have left : (∀ k < (positionals args).length, (positionalTarget? params k).isSome) ↔
      ((positionals args).zipIdx.filter fun x => (positionalTarget? params x.2).isNone).map (·.1) =
        [] := by
    rw [List.map_eq_nil_iff, List.filter_eq_nil_iff]
    constructor
    · rintro h ⟨j, k⟩ hx
      have hk : k < (positionals args).length := by simpa using List.snd_lt_of_mem_zipIdx hx
      simpa [Option.isSome_iff_ne_none] using h k hk
    · intro h k hk
      have hx : ((positionals args)[k], k) ∈ (positionals args).zipIdx :=
        List.mem_zipIdx_iff_getElem?.mpr (List.getElem?_eq_getElem hk)
      simpa [Option.isSome_iff_ne_none] using h _ hx
  rw [left, numbered, List.filter_eq_nil_iff]
  constructor
  · intro h i t ha
    have hi : i ∈ List.range args.length := List.mem_range.mpr (List.getElem?_eq_some_iff.mp ha).1
    rw [target?_positional ha]
    simpa [ha, Option.isSome_iff_ne_none] using h i hi
  · intro h i _
    cases ha : args[i]? with
    | none => simp
    | some a =>
        obtain ⟨_ | label, t⟩ := a
        · have placed := h i t ha
          rw [target?_positional ha] at placed
          simpa [Option.isSome_iff_ne_none] using placed
        · simp

theorem nodup_nameds (args : List ArgumentType) : (nameds args).Nodup := by
  have positions : (nameds args).map (·.2) =
      (args.zipIdx.filter fun x => x.1.1.isSome).map (·.2) := by
    rw [nameds]
    induction args.zipIdx with
    | nil => rfl
    | cons x positions ih =>
        obtain ⟨⟨_ | n, t⟩, i⟩ := x
        · exact ih
        · simpa using ih
  refine List.Nodup.of_map (·.2) ?_
  rw [positions, positions_eq (fun a : ArgumentType => a.1.isSome)]
  exact List.nodup_range.filter _

/-- A named argument is for the parameter of its name. -/
theorem target?_named_eq_some (distinct : (params.map Param.name).Nodup) (hp : p ∈ params)
    {name : String} {t : ValueType} (h : args[i]? = some (some name, t)) :
    target? params args i = some p ↔ name = p.name := by
  rw [target?_eq_iff distinct hp, target?_named h, find?_name_eq_some hp]

/-- Named arguments are assigned where their parameters are for no other argument. -/
theorem nameds_alone (distinct : (params.map Param.name).Nodup) :
    ((∀ x ∈ nameds args, ∃ p ∈ params, p.name = x.1 ∧ p.isVariadic = false ∧
          positionalFor params (positionals args) x.1 = []) ∧
        ((nameds args).map (·.1)).Nodup) ↔
      ∀ i name t, args[i]? = some (some name, t) →
        ∃ p, target? params args i = some p ∧ p.isVariadic = false ∧
          ∀ j, target? params args j = some p → j = i := by
  constructor
  · rintro ⟨targets, nodup⟩ i name t ha
    have given := mem_nameds.mpr ⟨t, ha⟩
    obtain ⟨p, hp, rfl, single, free⟩ := targets _ given
    refine ⟨p, (target?_named_eq_some distinct hp ha).mpr rfl, single, fun j hj => ?_⟩
    -- Another argument for the parameter would be positional, or one of the same name.
    rw [positionalFor_positionals] at free
    have byName := List.filter_eq_nil_iff.mp free j ((mem_assignedTo distinct hp).mpr hj)
    obtain ⟨⟨label, u⟩, hb⟩ : ∃ a, args[j]? = some a :=
      ⟨_, List.getElem?_eq_getElem (lt_of_target? hj)⟩
    cases label with
    | none => simp [isPositional, hb] at byName
    | some label =>
        obtain rfl := (target?_named_eq_some distinct hp hb).mp hj
        have both := List.inj_on_of_nodup_map nodup (mem_nameds.mpr ⟨u, hb⟩) given rfl
        exact congrArg Prod.snd both
  · intro alone
    refine ⟨fun x hx => ?_, (nodup_nameds args).map_on fun x hx y hy same => ?_⟩
    · obtain ⟨name, i⟩ := x
      obtain ⟨t, ha⟩ := mem_nameds.mp hx
      obtain ⟨p, here, single, only⟩ := alone i name t ha
      have hp := mem_of_target? here
      obtain rfl := (target?_named_eq_some distinct hp ha).mp here
      refine ⟨p, hp, rfl, single, ?_⟩
      rw [positionalFor_positionals, List.filter_eq_nil_iff]
      intro j hj
      rw [only j ((mem_assignedTo distinct hp).mp hj), isPositional, ha]
      simp
    · obtain ⟨name, i⟩ := x
      obtain ⟨other, j⟩ := y
      obtain rfl : name = other := same
      obtain ⟨t, ha⟩ := mem_nameds.mp hx
      obtain ⟨u, hb⟩ := mem_nameds.mp hy
      obtain ⟨p, here, _, only⟩ := alone i name t ha
      have there : target? params args j = some p := by
        rw [← here, target?_named ha, target?_named hb]
      rw [only j there]

end Targets

/-! ## Binding -/

section Bound

variable {params : List Param} {args : List ArgumentType} {bound : Arguments Binding}

theorem mem_args {i : Nat} {a : ArgumentType} (h : args[i]? = some a) :
    (args.map (·.2)).getD i .missing = a.2 := by
  rw [List.getD_eq_getElem?_getD, List.getElem?_map, h]
  rfl

/-- The three steps of binding. -/
theorem bindArguments_steps (distinct : (params.map Param.name).Nodup) :
    bindArguments params args = .ok bound ↔
      (∀ k < (positionals args).length, (positionalTarget? params k).isSome) ∧
        ((∀ x ∈ nameds args, ∃ p ∈ params, p.name = x.1 ∧ p.isVariadic = false ∧
            positionalFor params (positionals args) x.1 = []) ∧
          ((nameds args).map (·.1)).Nodup) ∧
        (params.map fun p => (p, giveAll (nameds args) (positionalFor params (positionals args))
          p.name)).foldlM (bindParam (args.map (·.2))) .empty = .ok bound := by
  -- The function as a sequence of three steps, each of which may fail.
  have unfolded : bindArguments params args = (do
      let assigned ← (assignPositional params (positionals args)).elim
        (Except.error (BindFailure.tooMany params.length)) Except.ok
      let assigned ← (nameds args).foldlM (fun assigned x => assignNamed x.1 x.2 assigned) assigned
      assigned.foldlM (bindParam (args.map (·.2))) .empty) := by
    unfold bindArguments positionals nameds
    dsimp only
    split <;> next placed => rw [placed]; rfl
  rw [unfolded, assignPositional_eq distinct]
  by_cases placed : ∀ k < (positionals args).length, (positionalTarget? params k).isSome
  · rw [if_pos placed, Option.elim_some, Except.ok_bind]
    constructor
    · intro h
      obtain ⟨assigned, hassigned, hbind⟩ := Except.bind_ok h
      obtain ⟨targets, nodup, rfl⟩ := (assignAllNamed_ok_iff distinct _).mp hassigned
      exact ⟨placed, ⟨targets, nodup⟩, hbind⟩
    · rintro ⟨_, ⟨targets, nodup⟩, hbind⟩
      rw [(assignAllNamed_ok_iff distinct _).mpr ⟨targets, nodup, rfl⟩, Except.ok_bind, hbind]
  · rw [if_neg placed, Option.elim_none]
    constructor
    · intro h
      cases h
    · exact fun h => absurd h.1 placed

/-- Binding succeeds where the arguments match the signature, and binds to each parameter the
arguments for it, or its default. -/
theorem bindArguments_ok_iff (distinct : (params.map Param.name).Nodup) :
    bindArguments params args = .ok bound ↔
      Matches params args ∧
        bound.slots =
          params.filterMap fun p => slot? p (taken p (assignedTo params args p.name)) := by
  rw [bindArguments_steps distinct, positionals_placed]
  -- Under the first two conditions the steps assign to each parameter the arguments for it.
  have checks (alone : (∀ x ∈ nameds args, ∃ p ∈ params, p.name = x.1 ∧ p.isVariadic = false ∧
        positionalFor params (positionals args) x.1 = []) ∧ ((nameds args).map (·.1)).Nodup) :
      (params.map fun p => (p, giveAll (nameds args) (positionalFor params (positionals args))
          p.name)).foldlM (bindParam (args.map (·.2))) .empty = .ok bound ↔
        ((∀ p ∈ params, p.arity = .required → ∃ i, target? params args i = some p) ∧
          ∀ i p a, target? params args i = some p → args[i]? = some a →
            p.matcher.accepts a.2 = true) ∧
        bound.slots =
          params.filterMap fun p => slot? p (taken p (assignedTo params args p.name)) := by
    have assigned : (params.map fun p => (p, giveAll (nameds args)
          (positionalFor params (positionals args)) p.name)) =
        params.map fun p => (p, assignedTo params args p.name) :=
      List.map_congr_left fun p hp => by
        rw [giveAll_eq hp]
        rintro ⟨i, hi⟩
        obtain ⟨_, _, _, _, free⟩ := alone.1 _ hi
        exact free
    rw [assigned, bindParams_ok_iff distinct _ fun p _ => List.not_mem_nil]
    refine and_congr ⟨fun h => ⟨fun p hp required => ?_, fun i p a hi ha => ?_⟩,
      fun ⟨given, accepted⟩ p hp => ⟨fun required => ?_, fun i hi => ?_⟩⟩ Iff.rfl
    · obtain ⟨i, hi⟩ := List.exists_mem_of_ne_nil _ ((h p hp).1 required)
      exact ⟨i, (mem_assignedTo distinct hp).mp hi⟩
    · have hp := mem_of_target? hi
      rw [← mem_args ha]
      exact (h p hp).2 i ((mem_assignedTo distinct hp).mpr hi)
    · obtain ⟨i, hi⟩ := given p hp required
      exact List.ne_nil_of_mem ((mem_assignedTo distinct hp).mpr hi)
    · have hi := (mem_assignedTo distinct hp).mp hi
      have ha := List.getElem?_eq_getElem (lt_of_target? hi)
      rw [mem_args ha]
      exact accepted i p _ hi ha
  constructor
  · rintro ⟨placed, alone, checked⟩
    obtain ⟨⟨required, accepted⟩, slots⟩ := (checks alone).mp checked
    exact ⟨⟨placed, (nameds_alone distinct).mp alone, required, accepted⟩, slots⟩
  · rintro ⟨⟨placed, named, required, accepted⟩, slots⟩
    have alone := (nameds_alone distinct).mpr named
    exact ⟨placed, alone, (checks alone).mpr ⟨⟨required, accepted⟩, slots⟩⟩

/-! ## What is bound -/

theorem filterMap_taken (p : Param) (indices : List Nat) :
    (taken p indices).filterMap Binding.argument? = indices := by
  cases indices with
  | nil =>
      rw [taken]
      split <;> rfl
  | cons i rest => simp [taken, Binding.argument?, Function.comp_def]

theorem argument_mem_taken {p : Param} {indices : List Nat} {i : Nat} :
    .argument i ∈ taken p indices ↔ i ∈ indices := by
  have member : i ∈ (taken p indices).filterMap Binding.argument? ↔
      .argument i ∈ taken p indices := by
    rw [List.mem_filterMap]
    refine ⟨fun ⟨b, hb, hi⟩ => ?_, fun h => ⟨_, h, rfl⟩⟩
    cases b with
    | argument j =>
        cases hi
        exact hb
    | default v => cases hi
  rw [← member, filterMap_taken]

theorem slot?_eq_some {p : Param} {bindings : List Binding} {slot : String × List Binding} :
    slot? p bindings = some slot ↔ bindings ≠ [] ∧ (p.name, bindings) = slot := by
  cases bindings <;> simp [slot?]

section Slots

variable (g : Param → List Binding)

theorem values_slots :
    (Arguments.mk (params.filterMap fun p => slot? p (g p))).values = params.flatMap g := by
  induction params with
  | nil => rfl
  | cons p ps ih =>
      rw [Arguments.values] at ih ⊢
      cases hg : g p with
      | nil => simpa [slot?, hg] using ih
      | cons b rest => simpa [slot?, hg] using ih

theorem names_slots :
    ((params.filterMap fun p => slot? p (g p)).map (·.1)).Sublist (params.map Param.name) := by
  induction params with
  | nil => exact .slnil
  | cons p ps ih =>
      cases hg : g p with
      | nil => simpa [slot?, hg] using ih.cons p.name
      | cons b rest => simpa [slot?, hg] using ih.cons_cons p.name

theorem all_slots (distinct : (params.map Param.name).Nodup) {p : Param} (hp : p ∈ params) :
    (Arguments.mk (params.filterMap fun p => slot? p (g p))).all p.name = g p := by
  have found : (params.filterMap fun q => slot? q (g q)).find? (·.1 == p.name) = slot? p (g p) := by
    cases hs : (params.filterMap fun q => slot? q (g q)).find? (·.1 == p.name) with
    | none =>
        cases hp' : slot? p (g p) with
        | none => rfl
        | some slot =>
            have member : slot ∈ params.filterMap fun q => slot? q (g q) :=
              List.mem_filterMap.mpr ⟨p, hp, hp'⟩
            obtain ⟨_, rfl⟩ := slot?_eq_some.mp hp'
            simpa using List.find?_eq_none.mp hs _ member
    | some slot =>
        obtain ⟨q, hq, slot_q⟩ := List.mem_filterMap.mp (List.mem_of_find?_eq_some hs)
        obtain ⟨_, rfl⟩ := slot?_eq_some.mp slot_q
        have same := List.find?_some hs
        rw [List.inj_on_of_nodup_map distinct hp hq (beq_iff_eq.mp same).symm, slot_q]
  rw [Arguments.all, found]
  cases g p <;> rfl

end Slots

/-- Under a matching signature every argument is for one parameter. -/
theorem Matches.exists_target (h : Matches params args) {i : Nat} (hi : i < args.length) :
    ∃ p ∈ params, target? params args i = some p := by
  obtain ⟨⟨label, t⟩, ha⟩ : ∃ a, args[i]? = some a := ⟨_, List.getElem?_eq_getElem hi⟩
  have some : ∃ p, target? params args i = some p := by
    cases label with
    | none => exact Option.isSome_iff_exists.mp (h.positional i t ha)
    | some name =>
        obtain ⟨p, hp, _⟩ := h.named i name t ha
        exact ⟨p, hp⟩
  obtain ⟨p, hp⟩ := some
  exact ⟨p, mem_of_target? hp, hp⟩

/-- The arguments for all parameters are all arguments. -/
theorem Matches.assignedTo_perm (h : Matches params args)
    (distinct : (params.map Param.name).Nodup) :
    (params.flatMap fun p => assignedTo params args p.name).Perm (List.range args.length) := by
  have apart : params.Pairwise fun p q =>
      (assignedTo params args p.name).Disjoint (assignedTo params args q.name) := by
    refine (List.pairwise_map.mp distinct).imp fun {p q} different i hi hj => different ?_
    have first := beq_iff_eq.mp (List.mem_filter.mp hi).2
    have second := beq_iff_eq.mp (List.mem_filter.mp hj).2
    exact Option.some.inj (first.symm.trans second)
  have nodup : (params.flatMap fun p => assignedTo params args p.name).Nodup :=
    List.nodup_flatMap.mpr ⟨fun p _ => List.nodup_range.filter _, apart⟩
  refine (List.perm_ext_iff_of_nodup nodup List.nodup_range).mpr fun i => ?_
  rw [List.mem_flatMap, List.mem_range]
  constructor
  · rintro ⟨p, hp, hi⟩
    exact lt_of_target? ((mem_assignedTo distinct hp).mp hi)
  · intro hi
    obtain ⟨p, hp, target⟩ := h.exists_target hi
    exact ⟨p, hp, (mem_assignedTo distinct hp).mpr target⟩

/-- Two positional arguments for a parameter that is not variadic are one. -/
theorem positionalTarget?_inj (distinct : (params.map Param.name).Nodup) {p : Param}
    (single : p.isVariadic = false) {k l : Nat} (hk : positionalTarget? params k = some p)
    (hl : positionalTarget? params l = some p) : k = l := by
  have place {k : Nat} (h : positionalTarget? params k = some p) : params[k]? = some p := by
    rw [positionalTarget?, Option.or_eq_some_iff] at h
    obtain h | ⟨_, h⟩ := h
    · rw [List.find?_some h] at single
      cases single
    · exact h
  have here := place hk
  refine (List.getElem?_inj (List.getElem?_eq_some_iff.mp here).1 distinct.of_map).mp ?_
  rw [here, place hl]

/-- There are more positional arguments before an argument than before one that precedes it. -/
theorem countP_take_lt {i j : Nat} {t : ValueType} (ha : args[i]? = some (none, t)) (h : i < j) :
    (args.take i).countP (·.1.isNone) < (args.take j).countP (·.1.isNone) := by
  have counted : (args.take (i + 1)).countP (·.1.isNone) =
      (args.take i).countP (·.1.isNone) + 1 := by
    rw [List.take_add_one, ha, List.countP_append]
    rfl
  have sub : (args.take (i + 1)).Sublist (args.take j) := (List.take_prefix_take_left h).sublist
  have more := sub.countP_le (p := (·.1.isNone))
  omega

/-- A parameter that is not variadic is for at most one argument. -/
theorem Matches.target_inj (h : Matches params args) (distinct : (params.map Param.name).Nodup)
    {p : Param} (single : p.isVariadic = false) {i j : Nat}
    (hi : target? params args i = some p) (hj : target? params args j = some p) : i = j := by
  have argument {i : Nat} (hi : target? params args i = some p) :
      (∀ j, target? params args j = some p → j = i) ∨ ∃ t, args[i]? = some (none, t) := by
    obtain ⟨⟨_ | name, t⟩, ha⟩ : ∃ a, args[i]? = some a :=
      ⟨_, List.getElem?_eq_getElem (lt_of_target? hi)⟩
    · exact .inr ⟨t, ha⟩
    · obtain ⟨q, hq, _, only⟩ := h.named i name t ha
      obtain rfl : p = q := Option.some.inj (hi.symm.trans hq)
      exact .inl only
  obtain only | ⟨t, ha⟩ := argument hi
  · exact (only j hj).symm
  obtain only | ⟨u, hb⟩ := argument hj
  · exact only i hi
  rw [target?_positional ha] at hi
  rw [target?_positional hb] at hj
  have same := positionalTarget?_inj distinct single hi hj
  obtain before | rfl | after := Nat.lt_trichotomy i j
  · exact absurd same (Nat.ne_of_lt (countP_take_lt ha before))
  · rfl
  · exact absurd same.symm (Nat.ne_of_lt (countP_take_lt hb after))

theorem Matches.length_assignedTo (h : Matches params args)
    (distinct : (params.map Param.name).Nodup) {p : Param} (hp : p ∈ params)
    (single : p.isVariadic = false) : (assignedTo params args p.name).length ≤ 1 := by
  have nodup : (assignedTo params args p.name).Nodup := List.nodup_range.filter _
  have one : ∀ i ∈ assignedTo params args p.name, ∀ j ∈ assignedTo params args p.name, i = j :=
    fun i hi j hj => h.target_inj distinct single ((mem_assignedTo distinct hp).mp hi)
      ((mem_assignedTo distinct hp).mp hj)
  match assignedTo params args p.name, nodup, one with
  | [], _, _ => exact Nat.zero_le 1
  | [i], _, _ => exact Nat.le_refl 1
  | i :: j :: rest, nodup, one =>
      have same : i = j := one i (.head _) j (.tail _ (.head _))
      exact absurd (same ▸ .head _) (List.nodup_cons.mp nodup).1

/-- What a matching signature binds. -/
theorem Matches.lossless (h : Matches params args) (distinct : (params.map Param.name).Nodup)
    (slots : bound.slots =
      params.filterMap fun p => slot? p (taken p (assignedTo params args p.name))) :
    Lossless params args bound := by
  obtain rfl : bound = ⟨_⟩ := congrArg Arguments.mk slots
  have all {p : Param} (hp : p ∈ params) := all_slots
    (fun p => taken p (assignedTo params args p.name)) distinct hp
  have unassigned {p : Param} (hp : p ∈ params) (none : ∀ i, target? params args i ≠ some p) :
      assignedTo params args p.name = [] :=
    List.eq_nil_iff_forall_not_mem.mpr fun i hi => none i ((mem_assignedTo distinct hp).mp hi)
  exact {
    once := by
      rw [values_slots, List.filterMap_flatMap]
      simp only [filterMap_taken]
      exact h.assignedTo_perm distinct
    under := fun p hp i => by rw [all hp, argument_mem_taken, mem_assignedTo distinct hp]
    ordered := fun p hp => by
      rw [all hp, filterMap_taken]
      exact List.pairwise_lt_range.filter _
    single := fun p hp single bindings hslot => by
      obtain ⟨q, hq, slot⟩ := List.mem_filterMap.mp hslot
      obtain ⟨nonempty, same⟩ := slot?_eq_some.mp slot
      obtain rfl : q = p := List.inj_on_of_nodup_map distinct hq hp (congrArg Prod.fst same)
      obtain rfl : _ = bindings := congrArg Prod.snd same
      have bounded := h.length_assignedTo distinct hp single
      match assignedTo params args q.name, nonempty, bounded with
      | [], nonempty, _ =>
          rw [taken] at nonempty ⊢
          split
          · rfl
          · next other => simp at nonempty
      | [i], _, _ => rfl
    default := fun p hp none v arity => by
      refine List.mem_filterMap.mpr ⟨p, hp, ?_⟩
      rw [unassigned hp none, taken, arity]
      rfl
    absent := fun p hp none arity hmem => by
      obtain ⟨slot, hslot, name⟩ := List.mem_map.mp hmem
      obtain ⟨q, hq, slot⟩ := List.mem_filterMap.mp hslot
      obtain ⟨nonempty, rfl⟩ := slot?_eq_some.mp slot
      obtain rfl : q = p := List.inj_on_of_nodup_map distinct hq hp name
      rw [unassigned hp none, taken] at nonempty
      split at nonempty
      · next v ha => exact arity v ha
      · exact nonempty rfl
    inOrder := names_slots _ }

/-- Binding succeeds exactly where the arguments match the signature, and then it loses nothing. -/
theorem bindArguments_matches (distinct : (params.map Param.name).Nodup) :
    ((∃ bound, bindArguments params args = .ok bound) ↔ Matches params args) ∧
      ∀ bound, bindArguments params args = .ok bound → Lossless params args bound := by
  refine ⟨⟨fun ⟨bound, h⟩ => ((bindArguments_ok_iff distinct).mp h).1, fun matching =>
    ⟨⟨_⟩, (bindArguments_ok_iff distinct).mpr ⟨matching, rfl⟩⟩⟩, fun bound h => ?_⟩
  obtain ⟨matching, slots⟩ := (bindArguments_ok_iff distinct).mp h
  exact matching.lossless distinct slots

end Bound

/-- A signature with a parameter of every kind. -/
def mixedParams : List Param :=
  [.required "head" .anything, .variadic "rest" .timePart,
    .withDefault "mode" .numeric (.integer 1), .optional "tail" (.kind .string)]

/-- A call of it in which the last parameter comes first, by name. -/
def mixedCall : List ArgumentType :=
  [(some "tail", .required .string), (none, .missing), (none, .required .localTime),
    (none, .required .localDateTime)]

theorem bindArguments_matches_mixed :
    (mixedParams.map Param.name).Nodup ∧ Matches mixedParams mixedCall ∧
      Lossless mixedParams mixedCall
        ⟨[("head", [.argument 1]), ("rest", [.argument 2, .argument 3]),
          ("mode", [.default (.integer 1)]), ("tail", [.argument 0])]⟩ := by
  have distinct : (mixedParams.map Param.name).Nodup := by decide
  have bound : bindArguments mixedParams mixedCall =
      .ok ⟨[("head", [.argument 1]), ("rest", [.argument 2, .argument 3]),
        ("mode", [.default (.integer 1)]), ("tail", [.argument 0])]⟩ := rfl
  obtain ⟨succeeds, lossless⟩ := bindArguments_matches distinct
  exact ⟨distinct, succeeds.mp ⟨_, bound⟩, lossless _ bound⟩

end Rowwise
