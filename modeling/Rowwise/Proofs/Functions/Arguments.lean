import Rowwise.Proofs.Evaluation.Soundness
import Rowwise.Functions.Builder

/-!
# What a builder may rely on

A builder is called with the computers of arguments that the signature accepts.  Then every
required parameter is bound to a computer which fits a type that its matcher accepts, and every
optional one to such a computer or to nothing: `Arguments.Accepted`.  A builder is sound for a
signature and a type rule if from there it builds a computer that fits the type of the rule.

The second half is about sources that are made from several computers, which are asked one after
the other whether they are missing.
-/

namespace Rowwise

open Typing Eval

variable {R : Regime}

/-! ## Accepted arguments -/

/-- Whether a parameter can be bound to something of a type: one that it accepts, or that of its
default. -/
def Param.Admits (p : Param) (t : ValueType) : Prop :=
  p.matcher.accepts t = true ∨ ∃ v, p.arity = .optional (some v) ∧ t = v.valueType

@[simp] theorem Param.admits_required (name : String) (m : Matcher) (t : ValueType) :
    (Param.required name m).Admits t ↔ m.accepts t = true := by
  simp [Admits, required]

@[simp] theorem Param.admits_optional (name : String) (m : Matcher) (t : ValueType) :
    (Param.optional name m).Admits t ↔ m.accepts t = true := by
  simp [Admits, optional]

@[simp] theorem Param.admits_variadic (name : String) (m : Matcher) (t : ValueType) :
    (Param.variadic name m).Admits t ↔ m.accepts t = true := by
  simp [Admits, variadic]

/-- Computers and types that parameters can be bound to. -/
structure Arguments.Accepted (R : Regime) (params : List Param)
    (given : Arguments (Computer × ValueType)) : Prop where
  fits : ∀ g ∈ given.values, g.1.Fits R g.2
  bound : ∀ p ∈ params, p.arity = .required → given.all p.name ≠ []
  admitted : ∀ p ∈ params, ∀ g ∈ given.all p.name, p.Admits g.2
  named : ∀ g ∈ given.values, ∃ p ∈ params, g.2 ∈ (given.map (·.2)).all p.name

/-- From accepted arguments a builder gets to a computer of the type that the rule gives. -/
def Builder.Sound (R : Regime) (params : List Param) (rule : TypeRule) (build : Builder) : Prop :=
  ∀ t (given : Arguments (Computer × ValueType)), given.Accepted R params → rule (given.map (·.2)) = .ok t →
    ∃ c, build (given.map (·.1)) t = .ok c ∧ c.Fits R t

/-- All overloads are sound. -/
def Function.Sound (R : Regime) (f : Function) : Prop := ∀ o ∈ f.overloads, o.Sound R

/-! ## From binding to accepted arguments -/

theorem all_taken {taken : List (Param × List Binding)} {bound : Arguments Binding} (key : String) :
    (taken.foldl (fun bound x => bound.pushAll x.1.name x.2) bound).all key =
      bound.all key ++ taken.flatMap fun x => if key = x.1.name then x.2 else [] := by
  induction taken generalizing bound with
  | nil => simp
  | cons x taken ih =>
      rw [List.foldl_cons, ih, Arguments.all_pushAll, List.flatMap_cons, List.append_assoc]

/-- Under distinct names, a parameter is bound to what it takes. -/
theorem flatMap_taken {taken : List (Param × List Binding)}
    (distinct : (taken.map (·.1.name)).Nodup) {x : Param × List Binding} (hx : x ∈ taken) :
    (taken.flatMap fun y => if x.1.name = y.1.name then y.2 else []) = x.2 := by
  induction taken with
  | nil => cases hx
  | cons y taken ih =>
      rw [List.map_cons, List.nodup_cons] at distinct
      rw [List.flatMap_cons]
      obtain rfl | hx := List.mem_cons.mp hx
      · have others : (taken.flatMap fun z => if x.1.name = z.1.name then z.2 else []) = [] := by
          refine List.flatMap_eq_nil_iff.mpr fun z hz => if_neg fun h => ?_
          exact distinct.1 (h ▸ List.mem_map_of_mem hz)
        rw [if_pos rfl, others, List.append_nil]
      · have other : x.1.name ≠ y.1.name := fun h =>
          distinct.1 (h ▸ List.mem_map_of_mem hx)
        rw [if_neg other, List.nil_append, ih distinct.2 hx]

theorem Param.Takes.admits {p : Param} {args : List ArgumentType} {taken : List Binding}
    (h : p.Takes (args.map (·.2)) taken) : ∀ b ∈ taken, p.Admits (boundType args b) := by
  cases h with
  | nothing => simp
  | default arity =>
      intro b hb
      obtain rfl := List.mem_singleton.mp hb
      exact .inr ⟨_, arity, rfl⟩
  | given _ accepted =>
      intro b hb
      obtain ⟨i, hi, rfl⟩ := List.mem_map.mp hb
      obtain ⟨t, ht, haccepts⟩ := accepted i hi
      rw [List.getElem?_map] at ht
      refine .inl ?_
      rw [boundType, ht]
      exact haccepts

theorem Param.Takes.ne_nil {p : Param} {types : List ValueType} {taken : List Binding}
    (h : p.Takes types taken) (required : p.arity = .required) : taken ≠ [] := by
  cases h with
  | nothing arity => rw [required] at arity; simp at arity
  | default => exact List.cons_ne_nil _ _
  | given nonempty => simpa using nonempty

/-- Where an overload applies, its builder is called with accepted arguments. -/
theorem Overload.Applied.accepted {o : Overload} {args : List ArgumentType} {t : ValueType}
    {given : Arguments (Computer × ValueType)} (h : o.Applied R args t given)
    (distinct : (o.params.map (·.name)).Nodup) :
    given.Accepted R o.params ∧ o.typeRule (given.map (·.2)) = .ok t := by
  obtain ⟨bound, applies, types⟩ := h.applies
  obtain ⟨hbind, hrule⟩ := tryOverload_ok applies
  obtain ⟨taken, hparams, htakes, hbound⟩ := bindArguments_ok hbind
  have all {x : Param × List Binding} (hx : x ∈ taken) : bound.all x.1.name = x.2 := by
    rw [← hparams, List.map_map] at distinct
    rw [hbound, all_taken, flatMap_taken distinct hx]
    rfl
  have typesOf (name : String) :
      (given.all name).map (·.2) = (bound.all name).map (boundType args) := by
    rw [← Arguments.all_map, types, Arguments.all_map]
  have member {p : Param} (hp : p ∈ o.params) : ∃ x ∈ taken, x.1 = p := by
    rw [← hparams] at hp
    exact List.mem_map.mp hp
  -- Each field is read off the binding: what a parameter takes is what is given for its name.
  refine ⟨⟨h.fits, fun p hp required => ?_, fun p hp g hg => ?_, fun g hg => ?_⟩, types ▸ hrule⟩
  · obtain ⟨x, hx, rfl⟩ := member hp
    have := (htakes x hx).ne_nil required
    intro none
    have lengths := congrArg List.length (typesOf x.1.name)
    rw [none, all hx] at lengths
    exact this (List.length_eq_zero_iff.mp (by simpa using lengths.symm))
  · obtain ⟨x, hx, rfl⟩ := member hp
    have hg' : g.2 ∈ (given.all x.1.name).map (·.2) := List.mem_map_of_mem hg
    rw [typesOf, all hx] at hg'
    obtain ⟨b, hb, hbt⟩ := List.mem_map.mp hg'
    exact hbt ▸ (htakes x hx).admits b hb
  · have hg' : g.2 ∈ (given.map (·.2)).values := by
      rw [Arguments.values_map]
      exact List.mem_map_of_mem hg
    rw [types, Arguments.values_map] at hg'
    obtain ⟨b, hb, hbt⟩ := List.mem_map.mp hg'
    rw [hbound] at hb
    obtain hb | ⟨x, hx, hb⟩ := mem_values_taken.mp hb
    · cases hb
    · refine ⟨x.1, hparams ▸ List.mem_map_of_mem hx, ?_⟩
      rw [Arguments.all_map, typesOf, all hx, ← hbt]
      exact List.mem_map_of_mem hb

/-- A function with one overload is sound if its builder is. -/
theorem Function.sound_simple {name description : String} {category : Category}
    {keywords : List String} {params : List Param} {rule : TypeRule} {build : Builder}
    (distinct : (params.map (·.name)).Nodup) (h : build.Sound R params rule) :
    (Function.simple name category description keywords params rule build).Sound R := by
  intro o ho args t given applied
  obtain rfl := List.mem_singleton.mp ho
  obtain ⟨accepted, hrule⟩ := applied.accepted distinct
  exact h t given accepted hrule

/-! ## What matchers accept -/

namespace Matcher

variable {t : ValueType}

theorem orMissing_accepts {m : Matcher} (h : m.orMissing.accepts t = true) :
    t = .missing ∨ m.accepts t.requiredForm = true := by
  rw [orMissing, Bool.or_eq_true] at h
  obtain h | h := h
  · cases t with
    | missing => exact .inl rfl
    | of => cases h
  · exact .inr h

theorem kind_accepts {k : Kind} (h : (kind k).accepts t = true) : t = .required k := by
  simpa [kind, exactly, ValueType.ofBase] using h

theorem kindOrMissing_accepts {k : Kind} (h : (kindOrMissing k).accepts t = true) :
    t.base = some k ∨ t = .missing := by
  obtain h | h := orMissing_accepts h
  · exact .inr h
  · have := congrArg ValueType.base (kind_accepts h)
    rw [ValueType.requiredForm, ValueType.base_withOptional] at this
    exact .inl this

theorem numericOrMissing_accepts (h : numericOrMissing.accepts t = true) :
    t.isNumeric = true ∨ t = .missing := by
  obtain h | h := orMissing_accepts h
  · exact .inr h
  · cases t with
    | missing => exact .inr rfl
    | of k o =>
        rw [numeric, Bool.and_eq_true] at h
        exact .inl h.1

end Matcher

/-! ## Parameters and their sources -/

/-- Whether the value of a computer of a type may be read: it has answered that it is there, or is
required and need not be asked. -/
def Computer.Readable (R : Regime) (m : Moment) (c : Computer) (t : ValueType) : Prop :=
  c.isMissing.Answers m (.ok false) ∨ (R.unasked ∧ t.isOptional = false)

/-- The computer that a parameter is bound to, and a source that a builder makes of it. -/
structure Arguments.Reads {α : Type} (R : Regime) (given : Arguments (Computer × ValueType))
    (name : String) (c : Computer) (t : ValueType) (s : Source α) : Prop where
  bound : given.get? name = some (c, t)
  fits : c.Fits R t
  reads : s.Fits R t.isOptional
  asked : s.isMissing = c.isMissing

namespace Arguments

variable {given : Arguments (Computer × ValueType)} {name : String} {c : Computer} {t : ValueType}

theorem mem_all_of_get? (h : given.get? name = some (c, t)) : (c, t) ∈ given.all name :=
  List.mem_of_head? h

theorem mem_values_of_get? (h : given.get? name = some (c, t)) : (c, t) ∈ given.values :=
  mem_values_of_mem_all (mem_all_of_get? h)

/-- The type of what is bound to a name. -/
theorem mem_types_of_get? (h : given.get? name = some (c, t)) : t ∈ (given.map (·.2)).all name := by
  rw [all_map]
  exact List.mem_map_of_mem (mem_all_of_get? h)

theorem required_of_get? (h : given.get? name = some (c, t)) :
    (given.map (·.1)).required name = .ok c := by
  rw [required, get?_map, h]
  rfl

end Arguments

namespace Arguments.Accepted

variable {params : List Param} {given : Arguments (Computer × ValueType)}

/-- A required parameter is bound to a computer of a type that its matcher accepts. -/
theorem required (h : given.Accepted R params) (name : String) {m : Matcher} (hp : .required name m ∈ params) :
    ∃ c t, given.get? name = some (c, t) ∧ c.Fits R t ∧ m.accepts t = true := by
  have bound : given.all name ≠ [] := h.bound _ hp rfl
  cases hg : given.all name with
  | nil => exact absurd hg bound
  | cons g rest =>
      have hmem : g ∈ given.all name := hg ▸ .head _
      refine ⟨g.1, g.2, ?_, h.fits g (Arguments.mem_values_of_mem_all hmem), ?_⟩
      · rw [Arguments.get?, hg]
        rfl
      · exact (Param.admits_required ..).mp (h.admitted _ hp g hmem)

/-- A required parameter of one kind has a source of that kind. -/
theorem reads (h : given.Accepted R params) (name : String) (k : Kind)
    (hp : .required name (.kindOrMissing k) ∈ params) :
    ∃ c t s, c.as k = .ok s ∧ given.Reads R name c t s := by
  obtain ⟨c, t, bound, fits, accepts⟩ := h.required name hp
  obtain ⟨s, hs, reads⟩ := fits.as_ok (Matcher.kindOrMissing_accepts accepts)
  exact ⟨c, t, s, hs, bound, fits, reads, Computer.isMissing_of_as hs⟩

/-- A required number has a source of floats. -/
theorem readsFloat (h : given.Accepted R params) (name : String)
    (hp : .required name .numericOrMissing ∈ params) :
    ∃ c t s, c.asFloat = .ok s ∧ given.Reads R name c t s := by
  obtain ⟨c, t, bound, fits, accepts⟩ := h.required name hp
  obtain ⟨s, hs, reads⟩ := fits.asFloat_ok (Matcher.numericOrMissing_accepts accepts)
  exact ⟨c, t, s, hs, bound, fits, reads, Computer.isMissing_of_asFloat hs⟩

/-- A required parameter for floats only has one as well. -/
theorem readsFloatOnly (h : given.Accepted R params) (name : String)
    (hp : .required name (.kindOrMissing .float) ∈ params) :
    ∃ c t s, c.asFloat = .ok s ∧ given.Reads R name c t s := by
  obtain ⟨c, t, bound, fits, accepts⟩ := h.required name hp
  have numeric : t.isNumeric = true ∨ t = .missing := by
    obtain h | h := Matcher.kindOrMissing_accepts accepts
    · cases t <;> cases h
      exact .inl rfl
    · exact .inr h
  obtain ⟨s, hs, reads⟩ := fits.asFloat_ok numeric
  exact ⟨c, t, s, hs, bound, fits, reads, Computer.isMissing_of_asFloat hs⟩

/-- Every type that is given is admitted by one of the parameters. -/
theorem admits (h : given.Accepted R params) {g : Computer × ValueType} (hg : g ∈ given.values) :
    ∃ p ∈ params, p.Admits g.2 := by
  obtain ⟨p, hp, typed⟩ := h.named g hg
  rw [Arguments.all_map] at typed
  obtain ⟨d, hd, hdg⟩ := List.mem_map.mp typed
  exact ⟨p, hp, hdg ▸ h.admitted p hp d hd⟩

/-- An optional parameter has a source of its kind, or is not given at all. -/
theorem reads? (h : given.Accepted R params) (name : String) (k : Kind)
    (hp : .optional name (.kindOrMissing k) ∈ params) :
    ∃ s?, (given.map (·.1)).source? name k = .ok s? ∧
      (∀ s, s? = some s → ∃ o, s.Fits R o) ∧ (given.map (·.2)).has name = s?.isSome := by
  unfold Arguments.source? Arguments.has
  rw [Arguments.get?_map, Arguments.all_map, Arguments.get?]
  cases hg : given.all name with
  | nil => exact ⟨none, rfl, fun s hs => absurd hs (by simp), rfl⟩
  | cons g rest =>
      have hmem : g ∈ given.all name := hg ▸ .head _
      have fits := h.fits g (Arguments.mem_values_of_mem_all hmem)
      have accepts := (Param.admits_optional ..).mp (h.admitted _ hp g hmem)
      obtain ⟨s, hs, reads⟩ := fits.as_ok (Matcher.kindOrMissing_accepts accepts)
      refine ⟨some s, ?_, fun u hu => ⟨_, by cases hu; exact reads⟩, rfl⟩
      simp only [List.head?_cons, Option.map_some, hs]
      rfl

/-- An optional number has a source of floats, or is not given at all. -/
theorem readsFloat? (h : given.Accepted R params) (name : String)
    (hp : .optional name .numericOrMissing ∈ params) :
    ∃ s?, (given.map (·.1)).floatSource? name = .ok s? ∧ ∀ s, s? = some s → ∃ o, s.Fits R o := by
  unfold Arguments.floatSource?
  rw [Arguments.get?_map, Arguments.get?]
  cases hg : given.all name with
  | nil => exact ⟨none, rfl, fun s hs => absurd hs (by simp)⟩
  | cons g rest =>
      have hmem : g ∈ given.all name := hg ▸ .head _
      have fits := h.fits g (Arguments.mem_values_of_mem_all hmem)
      have accepts := (Param.admits_optional ..).mp (h.admitted _ hp g hmem)
      obtain ⟨s, hs, reads⟩ := fits.asFloat_ok (Matcher.numericOrMissing_accepts accepts)
      refine ⟨some s, ?_, fun u hu => ⟨_, by cases hu; exact reads⟩⟩
      simp only [List.head?_cons, Option.map_some, hs]
      rfl

end Arguments.Accepted

namespace Arguments.Reads

variable {α : Type} {given : Arguments (Computer × ValueType)} {name : String} {c : Computer}
  {t : ValueType} {m : Moment}

theorem computer {s : Source α} (h : given.Reads R name c t s) :
    (given.map (·.1)).required name = .ok c := Arguments.required_of_get? h.bound

theorem mem_values {s : Source α} (h : given.Reads R name c t s) : (c, t) ∈ given.values :=
  Arguments.mem_values_of_get? h.bound

theorem source {k : Kind} {s : Source k.Carrier} (h : given.Reads R name c t s)
    (hs : c.as k = .ok s) : (given.map (·.1)).source name k = .ok s := by
  rw [Arguments.source, h.computer]
  exact hs

theorem floatSource {s : Source Float} (h : given.Reads R name c t s) (hs : c.asFloat = .ok s) :
    (given.map (·.1)).floatSource name = .ok s := by
  rw [Arguments.floatSource, h.computer]
  exact hs

/-- The source has a value where that of the computer may be read. -/
theorem compute_regular {s : Source α} (h : given.Reads R name c t s) (hm : R.rows m)
    (readable : c.Readable R m t) : s.compute.Regular R m := by
  obtain present | ⟨hu, required⟩ := readable
  · exact (h.reads m hm).compute_regular (h.asked ▸ present)
  · exact (h.reads m hm).compute_unasked hu required

/-- A required value need not be asked for where the regime says so. -/
theorem compute_unasked {s : Source α} (h : given.Reads R name c t s) (hm : R.rows m)
    (hu : R.unasked) (required : t.isOptional = false) : s.compute.Regular R m :=
  h.compute_regular hm (.inr ⟨hu, required⟩)

end Arguments.Reads

/-- A parameter that need not be given has a value or none. -/
theorem Source.optionalValue?_regular {α : Type} {s? : Option (Source α)} {m : Moment}
    (h : ∀ s, s? = some s → ∃ o, s.Fits R o) (hm : R.rows m) :
    (optionalValue? s?).Regular R m := by
  cases s? with
  | none => exact regular_pure none
  | some s =>
      obtain ⟨o, fits⟩ := h s rfl
      exact (fits m hm).value?_regular

/-! ## Optional results -/

namespace Arguments

variable {types : Arguments ValueType} {t : ValueType}

theorem anyOptional_of_mem (h : t ∈ types.values) (ho : t.isOptional = true) :
    types.anyOptional = true := List.any_eq_true.mpr ⟨t, h, ho⟩

theorem anyOptional_of_mem_all {name : String} (h : t ∈ types.all name)
    (ho : t.isOptional = true) : types.anyOptional = true :=
  anyOptional_of_mem (mem_values_of_mem_all h) ho

theorem any_isOptional_of_mem {names : List String} {name : String} (hn : name ∈ names)
    (h : t ∈ types.all name) (ho : t.isOptional = true) :
    (names.flatMap types.all).any (·.isOptional) = true :=
  List.any_eq_true.mpr ⟨t, List.mem_flatMap.mpr ⟨name, hn, h⟩, ho⟩

end Arguments

/-! ## Sources over several computers -/

section Inputs

variable {α : Type} {m : Moment} {o : Bool}

/-- Asking computers one after the other fails, finds a missing one that may be missing, or finds
that all of them have values. -/
theorem Computer.anyMissing_cases {inputs : List (Computer × ValueType)}
    (fits : ∀ g ∈ inputs, g.1.Fits R g.2) (hm : R.rows m) :
    (∃ e, R.permits e ∧ (anyMissing (inputs.map (·.1))).Answers m (.error e)) ∨
      ((anyMissing (inputs.map (·.1))).Answers m (.ok true) ∧
        ∃ g ∈ inputs, g.2.isOptional = true) ∨
      ((anyMissing (inputs.map (·.1))).Answers m (.ok false) ∧
        ∀ g ∈ inputs, g.1.isMissing.Answers m (.ok false)) := by
  -- The induction is on the inputs, which are asked in order until one of them is missing.
  induction inputs with
  | nil => exact .inr (.inr ⟨answers_pure false, fun g hg => absurd hg List.not_mem_nil⟩)
  | cons g rest ih =>
      have fits_g := fits g (.head _)
      obtain ⟨b, hb⟩ | ⟨e, he, ha⟩ := fits_g.isMissing_regular hm
      · cases b with
        | true =>
            exact .inr (.inl ⟨hb.bind (answers_pure true), g, .head _,
              fits_g.optional_of_missing hm hb⟩)
        | false =>
            obtain ⟨e, he, ha⟩ | ⟨ha, d, hd, ho⟩ | ⟨ha, present⟩ :=
              ih fun d hd => fits d (.tail _ hd)
            · exact .inl ⟨e, he, hb.bind ha⟩
            · exact .inr (.inl ⟨hb.bind ha, d, .tail _ hd, ho⟩)
            · refine .inr (.inr ⟨hb.bind ha, fun d hd => ?_⟩)
              obtain rfl | hd := List.mem_cons.mp hd
              · exact hb
              · exact present d hd
      · exact .inl ⟨e, he, ha.bind_error _⟩

/-- Where the result is required, so are all inputs. -/
theorem Computer.readable_of_required {inputs : List (Computer × ValueType)}
    (optional : ∀ g ∈ inputs, g.2.isOptional = true → o = true) (hu : R.unasked) (ho : o = false) :
    ∀ g ∈ inputs, g.1.Readable R m g.2 := by
  intro g hg
  refine .inr ⟨hu, Bool.eq_false_iff.mpr fun h => ?_⟩
  exact Bool.eq_false_iff.mp ho (optional g hg h)

/-- A source that is missing if one of its inputs is fits if it computes a value where all of them
may be read. -/
theorem Source.propagating_fits (inputs : List (Computer × ValueType)) {compute : Eval α}
    (fits : ∀ g ∈ inputs, g.1.Fits R g.2)
    (optional : ∀ g ∈ inputs, g.2.isOptional = true → o = true)
    (value : ∀ m, R.rows m → (∀ g ∈ inputs, g.1.Readable R m g.2) → compute.Regular R m) :
    (propagating (inputs.map (·.1)) compute).Fits R o := by
  intro m hm
  obtain ⟨e, he, ha⟩ | ⟨ha, g, hg, ho⟩ | ⟨ha, present⟩ := Computer.anyMissing_cases fits hm
  · exact .failing he ha fun hu ho =>
      value m hm (Computer.readable_of_required optional hu ho)
  · exact .absent (optional g hg ho) ha
  · exact .present ha (value m hm fun g hg => .inl (present g hg))

/-- A source that may find no value fits an optional type, or any if it does find one. -/
theorem Source.partialOver_fits (inputs : List (Computer × ValueType)) {compute : Eval (Option α)}
    (fits : ∀ g ∈ inputs, g.1.Fits R g.2)
    (optional : ∀ g ∈ inputs, g.2.isOptional = true → o = true)
    (value : ∀ m, R.rows m → (∀ g ∈ inputs, g.1.Readable R m g.2) →
      compute.Regular R m ∧ (o = true ∨ ¬ compute.Answers m (.ok none))) :
    (partialOver (inputs.map (·.1)) compute).Fits R o := by
  intro m hm
  -- A required type leaves no way out: all inputs are there, and a value is found.
  have unasked (hu : R.unasked) (ho : o = false) :
      (partialOver (inputs.map (·.1)) compute).compute.Regular R m := by
    obtain ⟨regular, found⟩ := value m hm (Computer.readable_of_required optional hu ho)
    refine regular.bind fun a ha => ?_
    cases a with
    | none => exact absurd ha (found.resolve_left (Bool.eq_false_iff.mp ho))
    | some a => exact regular_pure a
  obtain ⟨e, he, ha⟩ | ⟨ha, g, hg, ho⟩ | ⟨ha, present⟩ := Computer.anyMissing_cases fits hm
  · exact .failing he (ha.bind_error _) unasked
  · exact .absent (optional g hg ho) (ha.bind (answers_pure true))
  · obtain ⟨⟨a, hc⟩ | ⟨e, he, hc⟩, found⟩ := value m hm fun g hg => .inl (present g hg)
    · cases a with
      | none =>
          refine .absent (found.resolve_right fun h => h hc) ?_
          exact ha.bind (hc.bind (answers_pure true))
      | some a =>
          refine .present (ha.bind (hc.bind (answers_pure false))) (.inl ⟨a, ?_⟩)
          exact hc.bind (answers_pure a)
    · exact .failing he (ha.bind (hc.bind_error _)) unasked

/-- A source that may find no value fits an optional type. -/
theorem Source.partialOver_fits_optional (inputs : List (Computer × ValueType))
    {compute : Eval (Option α)} (fits : ∀ g ∈ inputs, g.1.Fits R g.2)
    (value : ∀ m, R.rows m → (∀ g ∈ inputs, g.1.Readable R m g.2) → compute.Regular R m) :
    (partialOver (inputs.map (·.1)) compute).Fits R true :=
  partialOver_fits inputs fits (fun _ _ _ => rfl) fun m hm present => ⟨value m hm present, .inl rfl⟩

/-- Sources that are views of the inputs have values where all inputs have. -/
theorem Source.views_ok {inputs : List (Computer × ValueType)}
    {view : Computer → Except EvalError (Source α)}
    (h : ∀ g ∈ inputs, ∃ s, view g.1 = .ok s ∧ s.Fits R g.2.isOptional ∧
      s.isMissing = g.1.isMissing) :
    ∃ sources, (inputs.map (·.1)).mapM view = .ok sources ∧
      ∀ m, R.rows m → (∀ g ∈ inputs, g.1.Readable R m g.2) →
        (Builder.computeAll sources).Regular R m := by
  induction inputs with
  | nil => exact ⟨[], rfl, fun m _ _ => regular_pure []⟩
  | cons g rest ih =>
      obtain ⟨s, hs, fits, asked⟩ := h g (.head _)
      obtain ⟨sources, hsources, computes⟩ := ih fun d hd => h d (.tail _ hd)
      refine ⟨s :: sources, ?_, fun m hm present => ?_⟩
      · rw [List.map_cons, List.mapM_cons, hs, hsources]
        rfl
      · rw [Builder.computeAll, List.mapM_cons]
        have value : s.compute.Regular R m := by
          obtain there | ⟨hu, required⟩ := present g (.head _)
          · exact (fits m hm).compute_regular (asked ▸ there)
          · exact (fits m hm).compute_unasked hu required
        refine value.andThen fun a => ?_
        exact (computes m hm fun d hd => present d (.tail _ hd)).andThen fun _ => regular_pure _

/-- Where all arguments are asked, the result is optional if one of them is. -/
theorem Arguments.Accepted.propagating_fits {params : List Param}
    {given : Arguments (Computer × ValueType)} (h : given.Accepted R params) {k : Kind}
    {compute : Eval k.Carrier}
    (value : ∀ m, R.rows m → (∀ g ∈ given.values, g.1.Readable R m g.2) → compute.Regular R m) :
    (Computer.of k (Source.propagating (given.map (·.1)).values compute)).Fits R
      (.of k (given.map (·.2)).anyOptional) := by
  rw [Arguments.values_map]
  refine .of (Source.propagating_fits _ h.fits (fun g hg ho => ?_) value)
  refine Arguments.anyOptional_of_mem ?_ ho
  rw [Arguments.values_map]
  exact List.mem_map_of_mem hg

/-- Where some of the arguments are asked, the result is optional if one of these is. -/
theorem Arguments.Accepted.propagatingFrom_fits {params : List Param}
    {given : Arguments (Computer × ValueType)} (h : given.Accepted R params) {k : Kind}
    (names : List String) {compute : Eval k.Carrier}
    (value : ∀ m, R.rows m → (∀ n ∈ names, ∀ c t, given.get? n = some (c, t) →
      c.Readable R m t) → compute.Regular R m) :
    (Computer.of k (Source.propagating ((names.filterMap given.get?).map (·.1)) compute)).Fits R
      (.of k ((names.flatMap (given.map (·.2)).all).any (·.isOptional))) := by
  refine .of (Source.propagating_fits _ (fun g hg => ?_) (fun g hg ho => ?_) fun m hm present => ?_)
  · obtain ⟨n, _, hn⟩ := List.mem_filterMap.mp hg
    exact h.fits g (Arguments.mem_values_of_get? hn)
  · obtain ⟨n, hmem, hn⟩ := List.mem_filterMap.mp hg
    exact Arguments.any_isOptional_of_mem hmem (Arguments.mem_types_of_get? hn) ho
  · exact value m hm fun n hn c t hc => present (c, t) (List.mem_filterMap.mpr ⟨n, hn, hc⟩)

/-- Where some of the arguments are asked and there may be no value, the result is optional. -/
theorem Arguments.Accepted.partialFrom_fits {params : List Param}
    {given : Arguments (Computer × ValueType)} (h : given.Accepted R params) {k : Kind}
    (names : List String) {compute : Eval (Option k.Carrier)}
    (value : ∀ m, R.rows m → (∀ n ∈ names, ∀ c t, given.get? n = some (c, t) →
      c.Readable R m t) → compute.Regular R m) :
    (Computer.of k (Source.partialOver ((names.filterMap given.get?).map (·.1)) compute)).Fits R
      (.optionalOf k) := by
  refine .of (Source.partialOver_fits_optional _ (fun g hg => ?_) fun m hm present => ?_)
  · obtain ⟨n, _, hn⟩ := List.mem_filterMap.mp hg
    exact h.fits g (Arguments.mem_values_of_get? hn)
  · exact value m hm fun n hn c t hc => present (c, t) (List.mem_filterMap.mpr ⟨n, hn, hc⟩)

end Inputs

end Rowwise
