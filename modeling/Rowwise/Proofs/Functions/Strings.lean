import Rowwise.Proofs.Functions.Numbers
import Rowwise.Functions.Editing

/-!
# Functions of strings are sound

Each builder reads the parameters that its signature requires and asks them before it computes.
What it makes of them does not matter here: a search or a pattern that is too large is a failure
that lies in the row, and a pattern that is none gives no value.
-/

namespace Rowwise

open Eval Functions Text

variable {R : Regime} {params : List Param} {m : Moment} {given : Arguments (Computer × ValueType)}

/-! ## Reading strings -/

namespace Arguments.Accepted

/-- A required string is read as characters. -/
theorem readsChars (h : given.Accepted R params) (name : String)
    (hp : stringParam name ∈ params) :
    ∃ c t s, Builder.chars (given.map (·.1)) name = .ok s ∧ given.Reads R name c t s := by
  obtain ⟨c, t, s, hs, reads⟩ := h.reads name .string hp
  refine ⟨c, t, Builder.charsOf s, ?_, reads.bound, reads.fits, Source.map_fits reads.reads _,
    reads.asked⟩
  rw [Builder.chars, reads.source hs]
  rfl

end Arguments.Accepted

namespace Builder

/-- Parameters that are bound can be asked for. -/
theorem inputs_ok (names : List String) (bound : ∀ n ∈ names, ∃ g, given.get? n = some g) :
    inputs (given.map (·.1)) names = .ok ((names.filterMap given.get?).map (·.1)) := by
  rw [inputs]
  induction names with
  | nil => rfl
  | cons n names ih =>
      obtain ⟨g, hg⟩ := bound n (.head _)
      rw [List.mapM_cons, Arguments.required_of_get? hg, ih fun k hk => bound k (.tail _ hk),
        List.filterMap_cons_some hg]
      rfl

theorem inputs_one {a : String} {g : Computer × ValueType} (ha : given.get? a = some g) :
    inputs (given.map (·.1)) [a] = .ok (([a].filterMap given.get?).map (·.1)) := by
  refine inputs_ok [a] fun n hn => ?_
  obtain rfl := List.mem_singleton.mp hn
  exact ⟨g, ha⟩

theorem inputs_two {a b : String} {g h : Computer × ValueType} (ha : given.get? a = some g)
    (hb : given.get? b = some h) :
    inputs (given.map (·.1)) [a, b] = .ok (([a, b].filterMap given.get?).map (·.1)) := by
  refine inputs_ok [a, b] fun n hn => ?_
  obtain rfl | hn := List.mem_cons.mp hn
  · exact ⟨g, ha⟩
  · obtain rfl := List.mem_singleton.mp hn
    exact ⟨h, hb⟩

theorem inputs_three {a b c : String} {g h k : Computer × ValueType} (ha : given.get? a = some g)
    (hb : given.get? b = some h) (hc : given.get? c = some k) :
    inputs (given.map (·.1)) [a, b, c] = .ok (([a, b, c].filterMap given.get?).map (·.1)) := by
  refine inputs_ok [a, b, c] fun n hn => ?_
  simp only [List.mem_cons, List.not_mem_nil, or_false] at hn
  obtain rfl | rfl | rfl := hn
  · exact ⟨g, ha⟩
  · exact ⟨h, hb⟩
  · exact ⟨k, hc⟩

theorem ofText_sound {f : List Char → List Char} :
    (ofText f).Sound R [stringParam "string"] (.propagateFrom .string ["string"]) := by
  intro t given accepted rule
  cases rule
  obtain ⟨c, u, s, hs, reads⟩ := accepted.readsChars "string" (.head _)
  refine ⟨.string (s.map fun s => String.ofList (f s)), ?_, ?_⟩
  · rw [ofText, hs]
    rfl
  · refine .of ((Source.map_fits reads.reads _).weaken fun ho => ?_)
    exact Arguments.any_isOptional_of_mem (.head _) (Arguments.mem_types_of_get? reads.bound) ho

theorem ofText?_sound {k : Kind} {f : List Char → Option k.Carrier} :
    (ofText? k f).Sound R [stringParam "string"] (.exactly (.optionalOf k)) := by
  intro t given accepted rule
  cases rule
  obtain ⟨c, u, s, hs, reads⟩ := accepted.readsChars "string" (.head _)
  refine ⟨.of k (Source.partialOver [c] do pure (f (← s.compute))), ?_, ?_⟩
  · rw [ofText?, reads.computer, hs]
    rfl
  · refine .of (Source.partialOver_fits_optional [(c, u)] (by simpa using reads.fits)
      fun m hm present => ?_)
    exact (reads.compute_regular hm (present _ (.head _))).andThen fun _ => regular_pure _

theorem readModifiers_regular {modifiers : Option (Source String)}
    (h : ∀ s, modifiers = some s → ∃ o, s.Fits R o) (hm : R.rows m) :
    (readModifiers modifiers).Regular R m := by
  refine (Source.optionalValue?_regular h hm).andThen fun text => ?_
  cases text with
  | none => exact regular_pure _
  | some text => exact regular_pure _

end Builder

namespace Functions

theorem checkSearch_regular (modifiers : Modifiers) (search : List Char) :
    (checkSearch modifiers search).Regular R m :=
  Regular.ite (fun _ => regular_pure _) fun _ => regular_fail _

/-! ## Layout and conversion -/

theorem padBuilder_sound (name : String) (side : Side) :
    (padBuilder name side).Sound R
      [stringParam "string", integerParam "length", .optional "character" (.kindOrMissing .string)]
      (.propagateFrom .string ["string", "length"]) := by
  intro t given accepted rule
  cases rule
  obtain ⟨c, u, s, hs, reads_s⟩ := accepted.readsChars "string" (.head _)
  obtain ⟨d, v, length, hl, reads_l⟩ := accepted.reads "length" .integer (.tail _ (.head _))
  obtain ⟨fill, hf, fits_f, _⟩ := accepted.reads? "character" .string (by simp)
  have inputs := Builder.inputs_two reads_s.bound reads_l.bound
  refine ⟨.string (Source.propagating ((["string", "length"].filterMap given.get?).map (·.1)) do
    let target ← length.compute
    if (Word32.ofInt? target.toInt).isNone then Eval.fail (.lengthTooLarge target name)
    let fill := ((← Source.optionalValue? fill).bind (·.toList.head?)).getD ' '
    pure (String.ofList (padTo side target.toInt.toNat fill (← s.compute)))), ?_,
    accepted.propagatingFrom_fits _ fun m hm present => ?_⟩
  · unfold padBuilder
    rw [inputs, hs, reads_l.source hl, hf]
    rfl
  · have text := reads_s.compute_regular hm (present _ (.head _) _ _ reads_s.bound)
    refine (reads_l.compute_regular hm (present _ (.tail _ (.head _)) _ _ reads_l.bound)).andThen
      fun target => ?_
    -- Whatever the length is, the text is padded once the check of the length has passed.
    have rest : ∀ target : Int64, Regular R m (do
        let fill := ((← Source.optionalValue? fill).bind (·.toList.head?)).getD ' '
        pure (String.ofList (padTo side target.toInt.toNat fill (← s.compute))) : Eval String) :=
      fun target => (Source.optionalValue?_regular fits_f hm).andThen fun _ =>
        text.andThen fun _ => regular_pure _
    exact Regular.ite (fun _ => (regular_fail _).andThen fun _ => rest target) fun _ => rest target

theorem missingToEmptyBuilder_sound :
    missingToEmptyBuilder.Sound R [stringParam "string"] (.exactly (.required .string)) := by
  intro t given accepted rule
  cases rule
  obtain ⟨c, u, s, hs, reads⟩ := accepted.reads "string" .string (.head _)
  refine ⟨.string (Source.present do pure ((← s.value?).getD "")), ?_, ?_⟩
  · rw [missingToEmptyBuilder, reads.source hs]
    rfl
  · exact .of (Source.present_fits fun m hm =>
      (reads.reads m hm).value?_regular.andThen fun _ => regular_pure _)

theorem toStringBuilder_sound :
    toStringBuilder.Sound R [.required "value" .anything] (.exactly (.required .string)) := by
  intro t given accepted rule
  cases rule
  obtain ⟨c, u, bound, fits, _⟩ := accepted.required "value" (.head _)
  refine ⟨.string c.textSource, ?_, .of fits.textSource_fits⟩
  rw [toStringBuilder, Arguments.required_of_get? bound]
  rfl

theorem joinBuilder_sound :
    joinBuilder.Sound R
      [stringParam "separator", stringParam "string", .variadic "more" (.kindOrMissing .string)]
      (.propagateFrom .string ["separator", "string", "more"]) := by
  intro t given accepted rule
  cases rule
  -- Every argument is a string, whichever of the three parameters it stands for.
  have views : ∀ g ∈ given.values, ∃ s, g.1.as .string = .ok s ∧ s.Fits R g.2.isOptional ∧
      s.isMissing = g.1.isMissing := by
    intro g hg
    obtain ⟨p, hp, admits⟩ := accepted.admits hg
    have accepts : (Matcher.kindOrMissing .string).accepts g.2 = true := by
      simp only [stringParam, List.mem_cons, List.not_mem_nil, or_false] at hp
      obtain rfl | rfl | rfl := hp <;> simpa using admits
    obtain ⟨s, hs, reads⟩ := (accepted.fits g hg).as_ok (Matcher.kindOrMissing_accepts accepts)
    exact ⟨s, hs, reads, Computer.isMissing_of_as hs⟩
  obtain ⟨sources, hsources, computes⟩ := Source.views_ok views
  refine ⟨_, by
    unfold joinBuilder
    rw [Arguments.values_map, hsources]
    rfl, .of (Source.propagating_fits _ accepted.fits ?_ fun m hm present => ?_)⟩
  · intro g hg ho
    obtain ⟨p, hp, typed⟩ := accepted.named g hg
    refine Arguments.any_isOptional_of_mem ?_ typed ho
    simp only [stringParam, List.mem_cons, List.not_mem_nil, or_false] at hp
    obtain rfl | rfl | rfl := hp <;> decide
  · refine (computes m hm present).andThen fun texts => ?_
    cases texts with
    | nil => exact regular_pure _
    | cons => exact regular_pure _

/-! ## Searches -/

theorem searchBuilder_sound {k : Kind}
    {f : List Char → List Char → Eval Modifiers → Eval k.Carrier}
    (hf : ∀ m s search modifiers, modifiers.Regular R m → (f s search modifiers).Regular R m) :
    (searchBuilder k f).Sound R searchParams (.propagateFrom k ["string", "search"]) := by
  intro t given accepted rule
  cases rule
  obtain ⟨c, u, s, hs, reads_s⟩ := accepted.readsChars "string" (.head _)
  obtain ⟨d, v, search, hr, reads_r⟩ := accepted.readsChars "search" (.tail _ (.head _))
  obtain ⟨modifiers, hm', fits, _⟩ := accepted.reads? "modifiers" .string
    (.tail _ (.tail _ (.head _)))
  have inputs := Builder.inputs_two reads_s.bound reads_r.bound
  refine ⟨.of k (Source.propagating ((["string", "search"].filterMap given.get?).map (·.1)) do
    f (← s.compute) (← search.compute) (Builder.readModifiers modifiers)), ?_,
    accepted.propagatingFrom_fits _ fun m hm present => ?_⟩
  · unfold searchBuilder
    rw [inputs, hs, hr, hm']
    rfl
  · refine (reads_s.compute_regular hm (present _ (.head _) _ _ reads_s.bound)).andThen
      fun text => ?_
    refine (reads_r.compute_regular hm (present _ (.tail _ (.head _)) _ _ reads_r.bound)).andThen
      fun search => ?_
    exact hf m text search _ (Builder.readModifiers_regular fits hm)

theorem searchTest_sound (plain : List Char → List Char → Bool)
    (modified : Modifiers → List Char → List Char → Bool) :
    (searchTest plain modified).Sound R searchParams
      (.propagateFrom .boolean ["string", "search"]) := by
  refine searchBuilder_sound fun m s search modifiers hm => ?_
  refine hm.andThen fun modifiers => ?_
  refine Regular.ite (fun _ => regular_pure _) fun _ => ?_
  exact (checkSearch_regular ..).andThen fun _ => regular_pure _

theorem countIn_regular {s search : List Char} {modifiers : Eval Modifiers}
    (hm : modifiers.Regular R m) : (countIn s search modifiers).Regular R m := by
  refine Regular.ite (fun _ => regular_pure _) fun _ => ?_
  refine hm.andThen fun modifiers => ?_
  exact (checkSearch_regular ..).andThen fun _ => regular_pure _

theorem compareBuilder_sound :
    compareBuilder.Sound R [stringParam "string_1", stringParam "string_2"]
      (.propagateFrom .integer ["string_1", "string_2"]) := by
  intro t given accepted rule
  cases rule
  obtain ⟨c, u, a, ha, reads_a⟩ := accepted.reads "string_1" .string (.head _)
  obtain ⟨d, v, b, hb, reads_b⟩ := accepted.reads "string_2" .string (.tail _ (.head _))
  have inputs := Builder.inputs_two reads_a.bound reads_b.bound
  refine ⟨.integer (Source.propagating
    ((["string_1", "string_2"].filterMap given.get?).map (·.1)) do
      pure (compareStrings (← a.compute) (← b.compute))), ?_,
    accepted.propagatingFrom_fits _ fun m hm present => ?_⟩
  · unfold compareBuilder
    rw [inputs, reads_a.source ha, reads_b.source hb]
    rfl
  · refine (reads_a.compute_regular hm (present _ (.head _) _ _ reads_a.bound)).andThen fun _ => ?_
    exact (reads_b.compute_regular hm (present _ (.tail _ (.head _)) _ _ reads_b.bound)).andThen
      fun _ => regular_pure _

/-! ## Patterns -/

/-- A pattern builder is sound if what it does with the string, once it is there, ends well. -/
theorem patternBuilder_sound {k : Kind} (extra : List Param)
    {f : Arguments Computer → Except EvalError
      (Eval (List Char) → List Char → Modifiers → Eval (Option k.Carrier))}
    (bound : ∀ given : Arguments (Computer × ValueType),
      given.Accepted R ([stringParam "string", stringParam "pattern"] ++ extra ++ [modifiersParam]) →
      ∀ n ∈ extra.map (·.name), ∃ g, given.get? n = some g)
    (hf : ∀ given : Arguments (Computer × ValueType),
      given.Accepted R ([stringParam "string", stringParam "pattern"] ++ extra ++ [modifiersParam]) →
      ∃ h, f (given.map (·.1)) = .ok h ∧ ∀ m, R.rows m →
        (∀ n ∈ extra.map (·.name), ∀ c t, given.get? n = some (c, t) → c.Readable R m t) →
        ∀ s pattern modifiers, s.Regular R m → (h s pattern modifiers).Regular R m) :
    (patternBuilder k (extra.map (·.name)) f).Sound R
      ([stringParam "string", stringParam "pattern"] ++ extra ++ [modifiersParam])
      (.exactly (.optionalOf k)) := by
  intro t given accepted rule
  cases rule
  obtain ⟨c, u, s, hs, reads_s⟩ := accepted.readsChars "string" (.head _)
  obtain ⟨d, v, pattern, hp, reads_p⟩ := accepted.readsChars "pattern" (.tail _ (.head _))
  obtain ⟨modifiers, hm', fits, _⟩ := accepted.reads? "modifiers" .string (by simp [modifiersParam])
  obtain ⟨h, hh, regular⟩ := hf given accepted
  -- The string, the pattern and the extra parameters are all bound.
  have inputs := Builder.inputs_ok (["string", "pattern"] ++ extra.map (·.name))
    fun n hn => show ∃ g, given.get? n = some g by
      obtain hn | hn := List.mem_append.mp hn
      · simp only [List.mem_cons, List.not_mem_nil, or_false] at hn
        obtain rfl | rfl := hn
        · exact ⟨_, reads_s.bound⟩
        · exact ⟨_, reads_p.bound⟩
      · exact bound given accepted n hn
  refine ⟨.of k (Source.partialOver
    (((["string", "pattern"] ++ extra.map (·.name)).filterMap given.get?).map (·.1)) do
      let text ← pattern.compute
      h s.compute text (← Builder.readModifiers modifiers)), ?_,
    accepted.partialFrom_fits _ fun m hm present => ?_⟩
  · unfold patternBuilder
    rw [inputs, hs, hp, hm', hh]
    rfl
  · have text := reads_s.compute_regular hm
      (present _ (List.mem_append_left _ (.head _)) _ _ reads_s.bound)
    refine (reads_p.compute_regular hm
      (present _ (List.mem_append_left _ (.tail _ (.head _))) _ _ reads_p.bound)).andThen
        fun pattern => ?_
    refine (Builder.readModifiers_regular fits hm).andThen fun modifiers => ?_
    exact regular m hm (fun n hn => present n (List.mem_append_right _ hn)) _ _ _ text

theorem compilePattern_regular (shown pattern : List Char) (modifiers : Modifiers) :
    (compilePattern shown pattern modifiers).Regular R m := by
  unfold compilePattern
  split
  · exact regular_pure _
  · exact (regular_warn _).andThen fun _ => regular_pure _

theorem likeBuilder_sound :
    likeBuilder.Sound R [stringParam "string", stringParam "pattern", modifiersParam]
      (.exactly (.optionalOf .boolean)) := by
  refine patternBuilder_sound [] (by simp) fun given accepted => ⟨_, rfl, ?_⟩
  intro m hm present s pattern modifiers hs
  exact Regular.ite (fun _ => hs.andThen fun _ => regular_pure _) fun _ =>
    (regular_warn _).andThen fun _ => regular_pure _

theorem regexMatchBuilder_sound :
    regexMatchBuilder.Sound R [stringParam "string", stringParam "pattern", modifiersParam]
      (.exactly (.optionalOf .boolean)) := by
  refine patternBuilder_sound [] (by simp) fun given accepted => ⟨_, rfl, ?_⟩
  intro m hm present s pattern modifiers hs
  refine (compilePattern_regular ..).andThen fun regex => ?_
  cases regex with
  | none => exact regular_pure _
  | some regex => exact hs.andThen fun _ => regular_pure _

theorem regexExtractBuilder_sound :
    regexExtractBuilder.Sound R
      [stringParam "string", stringParam "pattern", integerParam "group", modifiersParam]
      (.exactly (.optionalOf .string)) := by
  refine patternBuilder_sound [integerParam "group"] ?_ fun given accepted => ?_
  · intro given accepted n hn
    obtain rfl := List.mem_singleton.mp hn
    obtain ⟨c, t, bound, _⟩ := accepted.required "group" (.tail _ (.tail _ (.head _)))
    exact ⟨_, bound⟩
  · obtain ⟨c, t, group, hg, reads⟩ := accepted.reads "group" .integer (.tail _ (.tail _ (.head _)))
    refine ⟨_, by rw [reads.source hg]; rfl, ?_⟩
    intro m hm present s pattern modifiers hs
    refine (compilePattern_regular ..).andThen fun regex => ?_
    cases regex with
    | none => exact regular_pure _
    | some regex =>
        refine hs.andThen fun text => ?_
        exact (reads.compute_regular hm (present _ (.head _) _ _ reads.bound)).andThen fun _ =>
          regular_pure _

theorem regexReplaceBuilder_sound :
    regexReplaceBuilder.Sound R
      [stringParam "string", stringParam "pattern", stringParam "replacement", modifiersParam]
      (.exactly (.optionalOf .string)) := by
  refine patternBuilder_sound [stringParam "replacement"] ?_ fun given accepted => ?_
  · intro given accepted n hn
    obtain rfl := List.mem_singleton.mp hn
    obtain ⟨c, t, bound, _⟩ := accepted.required "replacement" (.tail _ (.tail _ (.head _)))
    exact ⟨_, bound⟩
  · obtain ⟨c, t, replacement, hr, reads⟩ :=
      accepted.readsChars "replacement" (.tail _ (.tail _ (.head _)))
    refine ⟨_, by rw [hr]; rfl, ?_⟩
    intro m hm present s pattern modifiers hs
    refine (compilePattern_regular ..).andThen fun regex => ?_
    cases regex with
    | none => exact regular_pure _
    | some regex =>
        refine hs.andThen fun text => ?_
        exact (reads.compute_regular hm (present _ (.head _) _ _ reads.bound)).andThen fun _ =>
          regular_pure _

/-! ## Parts -/

theorem clampStart_regular (start : Int64) : (clampStart start).Regular R m :=
  Regular.ite (fun _ => (regular_warn _).andThen fun _ => regular_pure _) fun _ => regular_pure _

theorem clampLength_regular (length : Int64) : (clampLength length).Regular R m :=
  Regular.ite (fun _ => (regular_warn _).andThen fun _ => regular_pure _) fun _ => regular_pure _

theorem substring_regular (s : List Char) (start length : Option Int64) :
    (substring s start length).Regular R m := by
  refine (clampStart_regular _).andThen fun start => ?_
  cases length with
  | none => exact regular_pure _
  | some n => exact (clampLength_regular n).andThen fun _ => regular_pure _

theorem substringBuilder_sound :
    substringBuilder.Sound R
      [stringParam "string", .optional "start" (.kindOrMissing .integer),
        .optional "length" (.kindOrMissing .integer)]
      (.propagateFrom .string ["string"]) := by
  intro t given accepted rule
  cases rule
  obtain ⟨c, u, s, hs, reads⟩ := accepted.readsChars "string" (.head _)
  obtain ⟨start, hstart, fits_start, _⟩ := accepted.reads? "start" .integer (.tail _ (.head _))
  obtain ⟨length, hlength, fits_length, _⟩ :=
    accepted.reads? "length" .integer (.tail _ (.tail _ (.head _)))
  refine ⟨.string (Source.propagating ((["string"].filterMap given.get?).map (·.1)) do
    let start ← Source.optionalValue? start
    let length ← Source.optionalValue? length
    let text ← s.compute
    pure (String.ofList (← substring text start length))), ?_,
    accepted.propagatingFrom_fits _ fun m hm present => ?_⟩
  · unfold substringBuilder
    rw [Builder.inputs_one reads.bound, hs, hstart, hlength]
    rfl
  · refine (Source.optionalValue?_regular fits_start hm).andThen fun start => ?_
    refine (Source.optionalValue?_regular fits_length hm).andThen fun length => ?_
    refine (reads.compute_regular hm (present _ (.head _) _ _ reads.bound)).andThen fun text => ?_
    exact (substring_regular ..).andThen fun _ => regular_pure _

theorem partBuilder_sound (part : List Char → Nat → List Char) :
    (partBuilder part).Sound R [stringParam "string", integerParam "n"]
      (.propagateFrom .string ["string", "n"]) := by
  intro t given accepted rule
  cases rule
  obtain ⟨c, u, s, hs, reads_s⟩ := accepted.readsChars "string" (.head _)
  obtain ⟨d, v, n, hn, reads_n⟩ := accepted.reads "n" .integer (.tail _ (.head _))
  refine ⟨.string (Source.propagating ((["string", "n"].filterMap given.get?).map (·.1)) do
    let text ← s.compute
    pure (String.ofList (part text (← n.compute).toInt.toNat))), ?_,
    accepted.propagatingFrom_fits _ fun m hm present => ?_⟩
  · unfold partBuilder
    rw [Builder.inputs_two reads_s.bound reads_n.bound, hs, reads_n.source hn]
    rfl
  · refine (reads_s.compute_regular hm (present _ (.head _) _ _ reads_s.bound)).andThen fun _ => ?_
    exact (reads_n.compute_regular hm (present _ (.tail _ (.head _)) _ _ reads_n.bound)).andThen
      fun _ => regular_pure _

theorem lengthBuilder_sound :
    lengthBuilder.Sound R [stringParam "string"] (.propagateFrom .integer ["string"]) := by
  intro t given accepted rule
  cases rule
  obtain ⟨c, u, s, hs, reads⟩ := accepted.reads "string" .string (.head _)
  refine ⟨.integer (s.map fun s => Int64.ofNat s.length), ?_, ?_⟩
  · rw [lengthBuilder, reads.source hs]
    rfl
  · refine .of ((Source.map_fits reads.reads _).weaken fun ho => ?_)
    exact Arguments.any_isOptional_of_mem (.head _) (Arguments.mem_types_of_get? reads.bound) ho

/-! ## Editing -/

theorem replaceBuilder_sound :
    replaceBuilder.Sound R
      [stringParam "string", stringParam "search", stringParam "replacement", modifiersParam]
      (.propagateFrom .string ["string", "search", "replacement"]) := by
  intro t given accepted rule
  cases rule
  obtain ⟨c, u, s, hs, reads_s⟩ := accepted.readsChars "string" (.head _)
  obtain ⟨d, v, search, hr, reads_r⟩ := accepted.readsChars "search" (.tail _ (.head _))
  obtain ⟨e, w, replacement, hp, reads_p⟩ :=
    accepted.readsChars "replacement" (.tail _ (.tail _ (.head _)))
  obtain ⟨modifiers, hm', fits, _⟩ := accepted.reads? "modifiers" .string
    (.tail _ (.tail _ (.tail _ (.head _))))
  refine ⟨.string (Source.propagating
    ((["string", "search", "replacement"].filterMap given.get?).map (·.1)) do
      let text ← s.compute
      let search ← search.compute
      let replacement ← replacement.compute
      let m ← Builder.readModifiers modifiers
      if !m.isPlain then checkSearch m search
      pure (String.ofList (m.replace text search replacement))), ?_,
    accepted.propagatingFrom_fits _ fun m hm present => ?_⟩
  · unfold replaceBuilder
    rw [Builder.inputs_three reads_s.bound reads_r.bound reads_p.bound, hs, hr, hp, hm']
    rfl
  · refine (reads_s.compute_regular hm (present _ (.head _) _ _ reads_s.bound)).andThen fun _ => ?_
    refine (reads_r.compute_regular hm (present _ (.tail _ (.head _)) _ _ reads_r.bound)).andThen
      fun _ => ?_
    refine (reads_p.compute_regular hm
      (present _ (.tail _ (.tail _ (.head _))) _ _ reads_p.bound)).andThen fun _ => ?_
    refine (Builder.readModifiers_regular fits hm).andThen fun modifiers => ?_
    exact Regular.ite (fun _ => (checkSearch_regular ..).andThen fun _ => regular_pure _) fun _ =>
      regular_pure _

theorem replaceCharsBuilder_sound :
    (replaceCharsBuilder (some "replacement")).Sound R
      [stringParam "string", stringParam "chars", stringParam "replacement", modifiersParam]
      (.propagateFrom .string ["string", "chars", "replacement"]) := by
  intro t given accepted rule
  cases rule
  obtain ⟨c, u, s, hs, reads_s⟩ := accepted.readsChars "string" (.head _)
  obtain ⟨d, v, chars, hr, reads_r⟩ := accepted.readsChars "chars" (.tail _ (.head _))
  obtain ⟨e, w, partners, hp, reads_p⟩ :=
    accepted.readsChars "replacement" (.tail _ (.tail _ (.head _)))
  obtain ⟨modifiers, hm', fits, _⟩ := accepted.reads? "modifiers" .string
    (.tail _ (.tail _ (.tail _ (.head _))))
  have inputs := Builder.inputs_three reads_s.bound reads_r.bound reads_p.bound
  refine ⟨.string (Source.propagating
    ((["string", "chars", "replacement"].filterMap given.get?).map (·.1)) do
      let m ← Builder.readModifiers modifiers
      let text ← s.compute
      let chars ← chars.compute
      let partners ← partners.compute
      pure (String.ofList (replaceChars m.ignoreCase chars partners text))), ?_,
    accepted.propagatingFrom_fits _ fun m hm present => ?_⟩
  · unfold replaceCharsBuilder
    simp only [Option.toList_some, List.cons_append, List.nil_append, inputs, Except.ok_bind, hs,
      hr, Option.mapM_some, hp, hm']
    rfl
  · refine (Builder.readModifiers_regular fits hm).andThen fun modifiers => ?_
    refine (reads_s.compute_regular hm (present _ (.head _) _ _ reads_s.bound)).andThen fun _ => ?_
    refine (reads_r.compute_regular hm (present _ (.tail _ (.head _)) _ _ reads_r.bound)).andThen
      fun _ => ?_
    exact (reads_p.compute_regular hm
      (present _ (.tail _ (.tail _ (.head _))) _ _ reads_p.bound)).andThen fun _ => regular_pure _

theorem removeCharsBuilder_sound :
    (replaceCharsBuilder none).Sound R
      [stringParam "string", stringParam "chars", modifiersParam]
      (.propagateFrom .string ["string", "chars"]) := by
  intro t given accepted rule
  cases rule
  obtain ⟨c, u, s, hs, reads_s⟩ := accepted.readsChars "string" (.head _)
  obtain ⟨d, v, chars, hr, reads_r⟩ := accepted.readsChars "chars" (.tail _ (.head _))
  obtain ⟨modifiers, hm', fits, _⟩ := accepted.reads? "modifiers" .string
    (.tail _ (.tail _ (.head _)))
  have inputs := Builder.inputs_two reads_s.bound reads_r.bound
  refine ⟨.string (Source.propagating ((["string", "chars"].filterMap given.get?).map (·.1)) do
    let m ← Builder.readModifiers modifiers
    let text ← s.compute
    let chars ← chars.compute
    pure (String.ofList (replaceChars m.ignoreCase chars [] text))), ?_,
    accepted.propagatingFrom_fits _ fun m hm present => ?_⟩
  · unfold replaceCharsBuilder
    simp only [Option.toList_none, List.append_nil, inputs, Except.ok_bind, hs, hr,
      Option.mapM_none, hm']
    rfl
  · refine (Builder.readModifiers_regular fits hm).andThen fun modifiers => ?_
    refine (reads_s.compute_regular hm (present _ (.head _) _ _ reads_s.bound)).andThen fun _ => ?_
    exact (reads_r.compute_regular hm (present _ (.tail _ (.head _)) _ _ reads_r.bound)).andThen
      fun _ => regular_pure _

/-! ## The lists -/

theorem textFunction_sound {name description : String} {keywords : List String}
    {f : List Char → List Char} : (textFunction name description keywords f).Sound R :=
  Function.sound_simple (by simp) Builder.ofText_sound

theorem padFunction_sound {name description : String} {side : Side} :
    (padFunction name description side).Sound R :=
  Function.sound_simple (by decide) (padBuilder_sound name side)

theorem readingFunction_sound {name description : String} {k : Kind}
    {read : List Char → Option k.Carrier} : (readingFunction name description k read).Sound R :=
  Function.sound_simple (by simp) Builder.ofText?_sound

theorem testFunction_sound {name description : String} {plain : List Char → List Char → Bool}
    {modified : Modifiers → List Char → List Char → Bool} :
    (testFunction name description plain modified).Sound R :=
  Function.sound_simple (by decide) (searchTest_sound plain modified)

theorem partFunction_sound {name description : String} {part : List Char → Nat → List Char} :
    (partFunction name description part).Sound R :=
  Function.sound_simple (by decide) (partBuilder_sound part)

theorem layout_sound : AllSound R layout := by
  refine .cons (by decide) textFunction_sound ?_
  refine .cons (by decide) textFunction_sound ?_
  refine .cons (by decide) textFunction_sound ?_
  refine .cons (by decide) padFunction_sound ?_
  refine .cons (by decide) padFunction_sound ?_
  refine .cons (by decide) (Function.sound_simple (by decide) joinBuilder_sound) ?_
  refine .cons (by decide) textFunction_sound ?_
  refine .cons (by decide) textFunction_sound ?_
  refine .cons (by decide) textFunction_sound ?_
  refine .cons (by decide) textFunction_sound ?_
  exact .cons (by decide) textFunction_sound allSound_nil

theorem conversions_sound : AllSound R conversions := by
  refine .cons (by decide) (Function.sound_simple (by decide) Builder.ofText?_sound) ?_
  refine .cons (by decide) (Function.sound_simple (by decide) missingToEmptyBuilder_sound) ?_
  refine .cons (by decide) (Function.sound_simple (by decide) toStringBuilder_sound) ?_
  refine .cons (by decide) readingFunction_sound ?_
  refine .cons (by decide) readingFunction_sound ?_
  exact .cons (by decide) readingFunction_sound allSound_nil

theorem matching_sound : AllSound R matching := by
  refine .cons (by decide) testFunction_sound ?_
  refine .cons (by decide) testFunction_sound ?_
  refine .cons (by decide) testFunction_sound ?_
  refine .cons (by decide) (Function.sound_simple (by decide) compareBuilder_sound) ?_
  refine .cons (by decide) (Function.sound_simple (by decide) likeBuilder_sound) ?_
  refine .cons (by decide) (Function.sound_simple (by decide) regexMatchBuilder_sound) ?_
  refine .cons (by decide) (Function.sound_simple (by decide) regexExtractBuilder_sound) ?_
  exact .cons (by decide) (Function.sound_simple (by decide) regexReplaceBuilder_sound) allSound_nil

theorem slicing_sound : AllSound R slicing := by
  refine .cons (by decide) (Function.sound_simple (by decide) substringBuilder_sound) ?_
  refine .cons (by decide) partFunction_sound ?_
  refine .cons (by decide) partFunction_sound ?_
  refine .cons (by decide)
    (Function.sound_simple (by decide) (searchBuilder_sound fun m s search modifiers hm =>
    hm.andThen fun _ => (checkSearch_regular ..).andThen fun _ => regular_pure _)) ?_
  refine .cons (by decide)
    (Function.sound_simple (by decide) (searchBuilder_sound fun m s search modifiers hm =>
    countIn_regular hm)) ?_
  exact .cons (by decide) (Function.sound_simple (by decide) lengthBuilder_sound) allSound_nil

theorem editing_sound : AllSound R editing := by
  refine .cons (by decide) (Function.sound_simple (by decide) replaceBuilder_sound) ?_
  refine .cons (by decide) (Function.sound_simple (by decide) replaceCharsBuilder_sound) ?_
  exact .cons (by decide) (Function.sound_simple (by decide) removeCharsBuilder_sound) allSound_nil

end Functions

end Rowwise
