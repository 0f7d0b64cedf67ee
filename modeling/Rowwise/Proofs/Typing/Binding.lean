import Rowwise.Function
import Rowwise.Proofs.Except

/-!
# What binding the arguments of a call gives

Binding assigns the positions of the arguments to parameters, checks them parameter after
parameter, and lists what each parameter is bound to.  `bindArguments_ok` reads this back: the
bound arguments are put together from what each parameter takes, in the order of the parameters,
where `Param.Takes` says what that may be.

If the parameters have distinct names, everything that is bound to the name of a parameter is what
that parameter takes.
-/

namespace Rowwise

/-! ## Bound arguments as lists -/

namespace Arguments

variable {α β ε : Type}

/-- Adds values to the slot of a name, one after the other. -/
def pushAll (args : Arguments α) (name : String) (as : List α) : Arguments α :=
  as.foldl (fun args a => args.push name a) args

theorem mem_pushSlot {name : String} {a b : α} {slots : List (String × List α)} :
    b ∈ (pushSlot name a slots).flatMap (·.2) ↔ b ∈ slots.flatMap (·.2) ∨ b = a := by
  induction slots with
  | nil => simp [pushSlot]
  | cons slot slots ih =>
      obtain ⟨n, as⟩ := slot
      rw [pushSlot]
      split
      · simp only [List.flatMap_cons, List.mem_append, List.mem_singleton]
        grind
      · simp only [List.flatMap_cons, List.mem_append, ih, or_assoc]

theorem mem_values_push {args : Arguments α} {name : String} {a b : α} :
    b ∈ (args.push name a).values ↔ b ∈ args.values ∨ b = a := mem_pushSlot

theorem mem_values_pushAll {args : Arguments α} {name : String} {as : List α} {b : α} :
    b ∈ (args.pushAll name as).values ↔ b ∈ args.values ∨ b ∈ as := by
  induction as generalizing args with
  | nil => simp [pushAll]
  | cons a as ih =>
      rw [pushAll, List.foldl_cons, ← pushAll, ih, mem_values_push, List.mem_cons, or_assoc]

theorem find_pushSlot {name key : String} {a : α} {slots : List (String × List α)} :
    (((pushSlot name a slots).find? (·.1 == key)).map (·.2)).getD [] =
      ((slots.find? (·.1 == key)).map (·.2)).getD [] ++ (if key = name then [a] else []) := by
  induction slots with
  | nil =>
      by_cases h : name = key
      · simp [pushSlot, h]
      · simp [pushSlot, h, Ne.symm h]
  | cons slot slots ih =>
      obtain ⟨n, as⟩ := slot
      rw [pushSlot]
      by_cases hn : n = name
      · subst hn
        by_cases hk : n = key
        · subst hk
          simp
        · simp [hk, Ne.symm hk]
      · rw [if_neg hn]
        by_cases hk : n = key
        · subst hk
          simp [hn]
        · simpa [hk] using ih

theorem all_push (args : Arguments α) (name key : String) (a : α) :
    (args.push name a).all key = args.all key ++ (if key = name then [a] else []) := find_pushSlot

theorem all_pushAll (args : Arguments α) (name key : String) (as : List α) :
    (args.pushAll name as).all key = args.all key ++ (if key = name then as else []) := by
  induction as generalizing args with
  | nil => simp [pushAll]
  | cons a as ih =>
      rw [pushAll, List.foldl_cons, ← pushAll, ih, all_push]
      split <;> simp

/-- Everything that is bound to a name is among the bound values. -/
theorem mem_values_of_mem_all {args : Arguments α} {name : String} {a : α}
    (h : a ∈ args.all name) : a ∈ args.values := by
  unfold all at h
  cases hs : args.slots.find? (·.1 == name) with
  | none => simp [hs] at h
  | some slot =>
      rw [hs] at h
      exact List.mem_flatMap.mpr ⟨slot, List.mem_of_find?_eq_some hs, h⟩

@[simp] theorem values_map (f : α → β) (args : Arguments α) :
    (args.map f).values = args.values.map f := by
  simp [values, map, List.flatMap_map, List.map_flatMap]

@[simp] theorem all_map (f : α → β) (args : Arguments α) (name : String) :
    (args.map f).all name = (args.all name).map f := by
  simp only [all, map, List.find?_map, Function.comp_def]
  cases args.slots.find? (·.1 == name) <;> rfl

@[simp] theorem get?_map (f : α → β) (args : Arguments α) (name : String) :
    (args.map f).get? name = (args.get? name).map f := by
  simp [get?, List.head?_map]

theorem map_map {γ : Type} (g : β → γ) (f : α → β) (args : Arguments α) :
    (args.map f).map g = args.map (g ∘ f) := by
  simp [map, Function.comp_def]

theorem map_congr {f g : α → β} {args : Arguments α} (h : ∀ a ∈ args.values, f a = g a) :
    args.map f = args.map g := by
  simp only [map, mk.injEq, List.map_inj_left, Prod.mk.injEq, true_and]
  intro slot hslot a ha
  exact h a (List.mem_flatMap.mpr ⟨slot, hslot, ha⟩)

/-- A function that succeeds on all bound values succeeds on the arguments. -/
theorem mapExcept_ok {f : α → Except ε β} {g : α → β} {args : Arguments α}
    (h : ∀ a ∈ args.values, f a = .ok (g a)) : args.mapExcept f = .ok (args.map g) := by
  have slots : ∀ slot ∈ args.slots,
      (do pure (slot.1, ← slot.2.mapM f) : Except ε (String × List β)) =
        .ok (slot.1, slot.2.map g) := by
    intro slot hslot
    rw [Except.mapM_ok fun a ha => h a (List.mem_flatMap.mpr ⟨slot, hslot, ha⟩)]
    rfl
  unfold mapExcept
  rw [Except.mapM_ok slots]
  rfl

end Arguments

/-! ## What a parameter takes -/

/-- What a parameter may be bound to, for arguments of the given types. -/
inductive Param.Takes (types : List ValueType) (p : Param) : List Binding → Prop where
  | nothing (arity : p.arity = .optional none ∨ p.arity = .variadic) : Takes types p []
  | default {v : Value} (arity : p.arity = .optional (some v)) : Takes types p [.default v]
  | given {indices : List Nat} (nonempty : indices ≠ [])
      (accepted : ∀ i ∈ indices, ∃ t, types[i]? = some t ∧ p.matcher.accepts t = true) :
      Takes types p (indices.map .argument)

/-- Positional arguments are assigned to the parameters, and only they. -/
theorem assignPositional_ok {params : List Param} {indices : List Nat} {assigned : List Assigned}
    (h : assignPositional params indices = some assigned) :
    assigned.map (·.1) = params ∧ ∀ a ∈ assigned, ∀ i ∈ a.2, i ∈ indices := by
  induction params generalizing indices assigned with
  | nil => cases indices <;> simp [assignPositional] at h; subst h; simp
  | cons p params ih =>
      unfold assignPositional at h
      split at h
      · cases h
        refine ⟨by simp [Function.comp_def], ?_⟩
        simp
      · cases indices with
        | nil =>
            cases h
            simp [Function.comp_def]
        | cons i rest =>
            obtain ⟨tail, htail, rfl⟩ := Option.map_eq_some_iff.mp h
            obtain ⟨hparams, hmem⟩ := ih htail
            refine ⟨by simp [hparams], ?_⟩
            intro a ha j hj
            obtain rfl | ha := List.mem_cons.mp ha
            · obtain rfl := List.mem_singleton.mp hj
              exact .head _
            · exact .tail _ (hmem a ha j hj)

/-- Positions below `n`, assigned to the given parameters. -/
def Assigns (params : List Param) (n : Nat) (assigned : List Assigned) : Prop :=
  assigned.map (·.1) = params ∧ ∀ a ∈ assigned, ∀ i ∈ a.2, i < n

/-- A named argument is assigned to one parameter; the others keep theirs. -/
theorem assignNamed_ok {name : String} {index : Nat} {before after : List Assigned}
    (h : assignNamed name index before = .ok after) :
    after.map (·.1) = before.map (·.1) ∧
      ∀ a ∈ after, ∀ i ∈ a.2, i = index ∨ ∃ b ∈ before, i ∈ b.2 := by
  induction before generalizing after with
  | nil => cases h
  | cons b before ih =>
      obtain ⟨p, indices⟩ := b
      rw [assignNamed] at h
      split at h
      · split at h
        · cases h
        · split at h
          · cases h
            refine ⟨rfl, fun a ha i hi => ?_⟩
            obtain rfl | ha := List.mem_cons.mp ha
            · exact .inl (by simpa using hi)
            · exact .inr ⟨a, .tail _ ha, hi⟩
          · cases h
      · cases ht : assignNamed name index before with
        | error e => rw [ht] at h; cases h
        | ok tail =>
            rw [ht] at h
            cases h
            obtain ⟨hparams, hmem⟩ := ih ht
            refine ⟨by simp [hparams], fun a ha i hi => ?_⟩
            obtain rfl | ha := List.mem_cons.mp ha
            · exact .inr ⟨_, .head _, hi⟩
            · obtain hi | ⟨b, hb, hi⟩ := hmem a ha i hi
              · exact .inl hi
              · exact .inr ⟨b, .tail _ hb, hi⟩

/-- The arguments that are assigned to a parameter are accepted and bound in order. -/
theorem bindIndices_ok {types : List ValueType} {p : Param} {indices : List Nat}
    {bound bound' : Arguments Binding}
    (h : indices.foldlM
      (fun bound i =>
        let t := types.getD i .missing
        if p.matcher.accepts t then Except.ok (bound.push p.name (.argument i))
        else Except.error (BindFailure.unaccepted p.name p.matcher.description t))
      bound = .ok bound') :
    (∀ i ∈ indices, p.matcher.accepts (types.getD i .missing) = true) ∧
      bound' = bound.pushAll p.name (indices.map .argument) := by
  induction indices generalizing bound with
  | nil =>
      cases h
      exact ⟨fun i hi => absurd hi List.not_mem_nil, rfl⟩
  | cons i rest ih =>
      rw [List.foldlM_cons] at h
      dsimp only at h
      by_cases hi : p.matcher.accepts (types.getD i .missing) = true
      · rw [if_pos hi] at h
        obtain ⟨haccepts, hbound⟩ := ih h
        refine ⟨fun j hj => ?_, hbound⟩
        obtain rfl | hj := List.mem_cons.mp hj
        · exact hi
        · exact haccepts j hj
      · rw [if_neg hi] at h
        cases h

/-- The check of a parameter adds what it takes. -/
theorem bindParam_ok {types : List ValueType} {bound bound' : Arguments Binding} {p : Param}
    {indices : List Nat} (h : bindParam types bound (p, indices) = .ok bound')
    (hlt : ∀ i ∈ indices, i < types.length) :
    ∃ taken, p.Takes types taken ∧ bound' = bound.pushAll p.name taken := by
  cases indices with
  | nil =>
      rw [bindParam] at h
      split at h
      · cases h
      · next v ha =>
          cases h
          exact ⟨_, .default ha, rfl⟩
      · next ha =>
          cases h
          exact ⟨_, .nothing (.inl ha), rfl⟩
      · next ha =>
          cases h
          exact ⟨_, .nothing (.inr ha), rfl⟩
  | cons i rest =>
      obtain ⟨haccepts, hbound⟩ := bindIndices_ok h
      refine ⟨_, .given (List.cons_ne_nil i rest) fun j hj => ?_, hbound⟩
      have hj' := hlt j hj
      refine ⟨types[j], List.getElem?_eq_getElem hj', ?_⟩
      have := haccepts j hj
      rwa [List.getD_eq_getElem?_getD, List.getElem?_eq_getElem hj', Option.getD_some] at this

/-- The checks of all parameters add what each of them takes. -/
theorem bindParams_ok {types : List ValueType} {assigned : List Assigned}
    {bound bound' : Arguments Binding} (h : assigned.foldlM (bindParam types) bound = .ok bound')
    (hlt : ∀ a ∈ assigned, ∀ i ∈ a.2, i < types.length) :
    ∃ taken : List (Param × List Binding), taken.map (·.1) = assigned.map (·.1) ∧
      (∀ x ∈ taken, x.1.Takes types x.2) ∧
      bound' = taken.foldl (fun bound x => bound.pushAll x.1.name x.2) bound := by
  induction assigned generalizing bound with
  | nil =>
      cases h
      exact ⟨[], rfl, fun x hx => absurd hx List.not_mem_nil, rfl⟩
  | cons a assigned ih =>
      obtain ⟨p, indices⟩ := a
      rw [List.foldlM_cons] at h
      cases hp : bindParam types bound (p, indices) with
      | error e => rw [hp] at h; cases h
      | ok next =>
          rw [hp] at h
          obtain ⟨first, hfirst, rfl⟩ := bindParam_ok hp (hlt _ (.head _))
          obtain ⟨rest, hparams, hrest, hbound⟩ := ih h fun b hb => hlt b (.tail _ hb)
          refine ⟨(p, first) :: rest, by simp [hparams], fun x hx => ?_, hbound⟩
          obtain rfl | hx := List.mem_cons.mp hx
          · exact hfirst
          · exact hrest x hx

/-- What is bound is put together from what each parameter takes. -/
theorem bindArguments_ok {params : List Param} {args : List ArgumentType}
    {bound : Arguments Binding} (h : bindArguments params args = .ok bound) :
    ∃ taken : List (Param × List Binding), taken.map (·.1) = params ∧
      (∀ x ∈ taken, x.1.Takes (args.map (·.2)) x.2) ∧
      bound = taken.foldl (fun bound x => bound.pushAll x.1.name x.2) .empty := by
  have position {a : ArgumentType} {i : Nat} (h : (a, i) ∈ args.zipIdx) : i < args.length := by
    simpa using List.snd_lt_of_mem_zipIdx h
  unfold bindArguments at h
  dsimp only at h
  split at h
  · next positional hp =>
      obtain ⟨_, ⟨⟩, h⟩ := Except.bind_ok h
      obtain ⟨assigned, hassigned, hbind⟩ := Except.bind_ok h
      -- Only positions of arguments are assigned, at first and by each step.
      have start : Assigns params args.length positional := by
        obtain ⟨hparams, hpositions⟩ := assignPositional_ok hp
        refine ⟨hparams, fun a ha i hi => ?_⟩
        obtain ⟨⟨y, j⟩, hy, rfl⟩ := List.mem_map.mp (hpositions a ha i hi)
        exact position (List.mem_filter.mp hy).1
      obtain ⟨hparams, hlt⟩ : Assigns params args.length assigned := by
        refine Except.foldlM_invariant hassigned (fun x hx before after hbefore step => ?_) start
        obtain ⟨hafter, hmem⟩ := assignNamed_ok step
        refine ⟨hafter.trans hbefore.1, fun a ha i hi => ?_⟩
        obtain rfl | ⟨b, hb, hi⟩ := hmem a ha i hi
        · obtain ⟨⟨y, j⟩, hy, hname⟩ := List.mem_filterMap.mp hx
          obtain ⟨_, _, rfl⟩ := Option.map_eq_some_iff.mp hname
          exact position hy
        · exact hbefore.2 b hb i hi
      obtain ⟨taken, htaken, htakes, hbound⟩ := bindParams_ok hbind (by simpa using hlt)
      exact ⟨taken, htaken.trans hparams, htakes, hbound⟩
  · cases h

/-! ## What is bound to a name -/

section Taken

variable {types : List ValueType}

theorem Param.Takes.index_lt {p : Param} {taken : List Binding} (h : p.Takes types taken) :
    ∀ b ∈ taken, (∃ v, b = .default v ∧ p.arity = .optional (some v)) ∨
      ∃ i t, b = .argument i ∧ types[i]? = some t := by
  cases h with
  | nothing => simp
  | default arity =>
      intro b hb
      obtain rfl := List.mem_singleton.mp hb
      exact .inl ⟨_, rfl, arity⟩
  | given _ accepted =>
      intro b hb
      obtain ⟨i, hi, rfl⟩ := List.mem_map.mp hb
      obtain ⟨t, ht, _⟩ := accepted i hi
      exact .inr ⟨i, t, rfl, ht⟩

theorem mem_values_taken {taken : List (Param × List Binding)} {bound : Arguments Binding}
    {b : Binding} :
    b ∈ (taken.foldl (fun bound x => bound.pushAll x.1.name x.2) bound).values ↔
      b ∈ bound.values ∨ ∃ x ∈ taken, b ∈ x.2 := by
  induction taken generalizing bound with
  | nil => simp
  | cons x taken ih =>
      rw [List.foldl_cons, ih, Arguments.mem_values_pushAll]
      simp [or_assoc]

/-- All that is bound is the default of a parameter or an argument of the call. -/
theorem bindArguments_lt {params : List Param} {args : List ArgumentType}
    {bound : Arguments Binding} (h : bindArguments params args = .ok bound) :
    ∀ b ∈ bound.values,
      (∃ v, b = .default v ∧ ∃ p ∈ params, p.arity = .optional (some v)) ∨
        ∃ i t, b = .argument i ∧ (args.map (·.2))[i]? = some t := by
  obtain ⟨taken, rfl, htakes, rfl⟩ := bindArguments_ok h
  intro b hb
  obtain hb | ⟨x, hx, hb⟩ := mem_values_taken.mp hb
  · exact absurd hb List.not_mem_nil
  · obtain ⟨v, rfl, arity⟩ | given := (htakes x hx).index_lt b hb
    · exact .inl ⟨v, rfl, x.1, List.mem_map_of_mem hx, arity⟩
    · exact .inr given

end Taken

end Rowwise
