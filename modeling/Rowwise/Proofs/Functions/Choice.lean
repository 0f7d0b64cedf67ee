import Rowwise.Proofs.Functions.Numbers
import Rowwise.Functions.Control

/-!
# Functions that choose between values are sound

Every value that may be chosen is given as one of the base of the common type, which a join of the
types allows.  A condition is asked whether it is missing before it is read, and a case is compared
with the value only where both are there.
-/

namespace Rowwise

open Eval Functions

variable {R : Regime} {m : Moment} {given : Arguments (Computer × ValueType)} {t : ValueType}

/-! ## Common types -/

theorem ValueType.ofBase_base (t : ValueType) : .ofBase t.base t.isOptional = t := by
  cases t <;> rfl

namespace Computer

/-- What can be given as a value of some base can be given as one of any that this can. -/
theorem coercible_trans {a b : ValueType} {target : Base} (h : coercible a b.base)
    (h' : coercible b target) : coercible a target := by
  obtain h | h | ⟨ha, hb⟩ := h
  · obtain h' | rfl | ⟨hb, rfl⟩ := h'
    · exact .inl (h.trans h')
    · cases a with
      | missing => exact .inr (.inl rfl)
      | of => cases h
    · exact .inr (.inr ⟨h.trans hb, rfl⟩)
  · exact .inr (.inl h)
  · obtain h' | rfl | ⟨hb', _⟩ := h'
    · exact .inr (.inr ⟨ha, h'.symm.trans hb⟩)
    · cases hb
    · cases hb.symm.trans hb'

/-- Every type that goes into a fold of joins can be given as one of the base of the result, and is
optional only if the result is. -/
theorem coercible_of_joins : ∀ {rest : List ValueType} {u t : ValueType},
    rest.foldlM ValueType.join u = some t →
    ∀ v ∈ u :: rest, coercible v t.base ∧ (v.isOptional = true → t.isOptional = true)
  | [], u, t, h => by
      cases h
      intro v hv
      obtain rfl := List.mem_singleton.mp hv
      exact ⟨.inl rfl, id⟩
  | x :: rest, u, t, h => by
      rw [List.foldlM_cons] at h
      obtain ⟨w, joined, hrest⟩ := Option.bind_eq_some_iff.mp h
      obtain ⟨cu, cx⟩ := coercible_of_join joined
      have optional := isOptional_of_join joined
      have ih := coercible_of_joins hrest
      obtain ⟨cw, ow⟩ := ih w (.head _)
      intro v hv
      obtain rfl | hv := List.mem_cons.mp hv
      · exact ⟨coercible_trans cu cw, fun h => ow (by rw [optional, h, Bool.true_or])⟩
      obtain rfl | hv := List.mem_cons.mp hv
      · exact ⟨coercible_trans cx cw, fun h => ow (by rw [optional, h, Bool.or_true])⟩
      · exact ih v (.tail _ hv)

theorem coercible_of_joinAll {types : List ValueType} (h : ValueType.joinAll types = some t) :
    ∀ u ∈ types, coercible u t.base ∧ (u.isOptional = true → t.isOptional = true) := by
  cases types with
  | nil => cases h
  | cons u rest => exact coercible_of_joins h

theorem Fits.weakenBase {c : Computer} {base : Base} {o o' : Bool}
    (h : c.Fits R (.ofBase base o)) (le : o = true → o' = true) :
    c.Fits R (.ofBase base o') := by
  cases base with
  | none => exact h
  | some k =>
      cases h with
      | of source => exact .of (source.weaken le)

/-- A value of one of the joined types is given as one of a type that covers the join. -/
theorem Fits.coerceTo_ok {c : Computer} {u t : ValueType} (h : c.Fits R u)
    (ht : coercible u t.base ∧ (u.isOptional = true → t.isOptional = true)) :
    ∃ d, c.coerce t.base = .ok d ∧ d.Fits R t := by
  obtain ⟨d, hd, fits⟩ := h.coerce_ok ht.1
  refine ⟨d, hd, ?_⟩
  rw [← ValueType.ofBase_base t]
  exact fits.weakenBase ht.2

end Computer

namespace Functions

/-! ## Pairs -/

theorem pairUp_map {α β : Type} (f : α → β) : ∀ as : List α,
    pairUp (as.map f) = ((pairUp as).1.map (fun p => (f p.1, f p.2)), (pairUp as).2.map f)
  | [] => rfl
  | [_] => rfl
  | a :: b :: rest => by
      rw [List.map_cons, List.map_cons, pairUp, pairUp_map f rest]
      rfl

theorem mem_of_pairUp {α : Type} : ∀ {as : List α} {p : α × α},
    p ∈ (pairUp as).1 → p.1 ∈ as ∧ p.2 ∈ as
  | [], _, h => absurd h List.not_mem_nil
  | [_], _, h => absurd h List.not_mem_nil
  | a :: b :: rest, p, h => by
      obtain rfl | h := List.mem_cons.mp h
      · exact ⟨.head _, .tail _ (.head _)⟩
      · obtain ⟨h₁, h₂⟩ := mem_of_pairUp h
        exact ⟨.tail _ (.tail _ h₁), .tail _ (.tail _ h₂)⟩

theorem mem_of_unpaired {α : Type} : ∀ {as : List α} {a : α}, (pairUp as).2 = some a → a ∈ as
  | [], _, h => nomatch h
  | [_], _, h => by
      cases h
      exact .head _
  | a :: b :: rest, c, h => .tail _ (.tail _ (mem_of_unpaired h))

/-- The value of the first condition that is true fits the type that all values fit. -/
theorem firstTrue_sound {pairs : List (Source Bool × Computer)} {otherwise : Computer}
    (hp : ∀ p ∈ pairs, (∃ o, p.1.Fits R o) ∧ p.2.Fits R t) (ho : otherwise.Fits R t) :
    ∃ c, firstTrue pairs otherwise = .ok c ∧ c.Fits R t := by
  induction pairs with
  | nil => exact ⟨otherwise, rfl, ho⟩
  | cons p pairs ih =>
      obtain ⟨d, hd, fits_d⟩ := ih fun q hq => hp q (.tail _ hq)
      obtain ⟨⟨o, fits_p⟩, fits_v⟩ := hp p (.head _)
      rw [← ValueType.ofBase_base t] at fits_v fits_d ⊢
      -- What is selected from fits where both the value and the rest do.
      obtain ⟨e, he, fits⟩ := Computer.zip_ok (f := Source.select p.1) fits_v fits_d
        fun hy hn => show Source.Fits R t.isOptional _ from
          (Source.select_fits fits_p hy hn).weaken (by simp)
      refine ⟨e, ?_, fits⟩
      rw [firstTrue, hd]
      exact he

/-- Pairs of conditions and values are built where the conditions are, and the type covers those of
the values. -/
theorem branches_built {inputs : List (Computer × ValueType)}
    {pairs : List ((Computer × ValueType) × (Computer × ValueType))}
    {rest : Option (Computer × ValueType)} (paired : pairUp inputs = (pairs, rest))
    (fits : ∀ g ∈ inputs, g.1.Fits R g.2) (test : Computer → Except EvalError (Source Bool))
    (tests : ∀ p ∈ pairs, p.1.1.Fits R p.1.2 → ∃ s, test p.1.1 = .ok s ∧ ∃ o, s.Fits R o)
    (covers : ∀ p ∈ pairs, Computer.coercible p.2.2 t.base ∧
      (p.2.2.isOptional = true → t.isOptional = true)) :
    ∃ built : List (Source Bool × Computer), (pairs.map fun p => (p.1.1, p.2.1)).mapM
        (fun p => do pure (← test p.1, ← p.2.coerce t.base)) = .ok built ∧
      ∀ b ∈ built, (∃ o, b.1.Fits R o) ∧ b.2.Fits R t := by
  refine Except.mapM_all _ _
    (fun b : Source Bool × Computer => (∃ o, b.1.Fits R o) ∧ b.2.Fits R t) fun x hx => ?_
  obtain ⟨p, hp, rfl⟩ := List.mem_map.mp hx
  have there : p ∈ (pairUp inputs).1 := by rwa [paired]
  obtain ⟨first, second⟩ := mem_of_pairUp there
  obtain ⟨s, hs, fits_s⟩ := tests p hp (fits _ first)
  obtain ⟨c, hc, fits_c⟩ := (fits _ second).coerceTo_ok (covers p hp)
  exact ⟨(s, c), by simp only [hs, hc]; rfl, fits_s, fits_c⟩

/-! ## The function `if` -/

theorem checkConditions_ok {types : List ValueType} {number : Nat}
    (h : checkConditions number types = .ok ()) : ∀ t ∈ types, t.base = some .boolean := by
  induction types generalizing number with
  | nil => simp
  | cons t rest ih =>
      rw [checkConditions] at h
      split at h
      · next ht => exact List.forall_mem_cons.mpr ⟨ht, ih h⟩
      · cases h

/-- Where the rule of `if` gives a type, there are conditions, and values that it covers. -/
theorem ifType_ok {types : Arguments ValueType} (h : ifType types = .ok t) :
    ∃ ps otherwise, pairUp (types.all "arguments") = (ps, some otherwise) ∧
      (∀ p ∈ ps, p.1.base = some .boolean) ∧
      ∀ u ∈ ps.map (·.2) ++ [otherwise], Computer.coercible u t.base ∧
        (u.isOptional = true → t.isOptional = true) := by
  simp only [ifType] at h
  split at h
  · next p ps otherwise hpairs =>
      obtain ⟨_, conditions, h⟩ := Except.bind_ok h
      split at h
      · next u joined =>
          refine ⟨p :: ps, otherwise, hpairs, fun q hq =>
            checkConditions_ok conditions _ (List.mem_map_of_mem hq), fun v hv => ?_⟩
          obtain ⟨coercible, optional⟩ := Computer.coercible_of_joinAll joined v hv
          cases h
          split
          · rw [ValueType.optionalForm, ValueType.base_withOptional]
            refine ⟨coercible, fun _ => ?_⟩
            cases u <;> rfl
          · exact ⟨coercible, optional⟩
      · cases h
  · cases h

theorem ifBuilder_sound :
    ifBuilder.Sound R [.variadic "arguments" .anything] ifType := by
  intro t given accepted rule
  obtain ⟨types, last, paired, conditions, values⟩ := ifType_ok rule
  have fits : ∀ g ∈ given.all "arguments", g.1.Fits R g.2 := fun g hg =>
    accepted.fits g (Arguments.mem_values_of_mem_all hg)
  rw [Arguments.all_map, pairUp_map] at paired
  rcases hu : pairUp (given.all "arguments") with ⟨pairs, _ | o⟩
  · rw [hu] at paired
    cases paired
  · rw [hu] at paired
    cases paired
    have typed {p : (Computer × ValueType) × Computer × ValueType} (hp : p ∈ pairs) :
        (p.1.2, p.2.2) ∈ pairs.map fun p => (p.1.2, p.2.2) :=
      List.mem_map_of_mem hp
    obtain ⟨branches, hbranches, all⟩ := branches_built hu fits (·.as .boolean)
      (fun p hp fits_p => by
        obtain ⟨s, hs, reads⟩ := fits_p.as_ok (.inl (conditions _ (typed hp)))
        exact ⟨s, hs, _, reads⟩)
      fun p hp => values _ (List.mem_append_left _ (List.mem_map_of_mem (typed hp)))
    obtain ⟨c, hc, fits_c⟩ := (fits _ (mem_of_unpaired (by rw [hu]))).coerceTo_ok
      (values o.2 (List.mem_append_right _ (.head _)))
    obtain ⟨d, hd, fits_d⟩ := firstTrue_sound all fits_c
    refine ⟨d, ?_, fits_d⟩
    rw [ifBuilder, Arguments.all_map, pairUp_map, hu]
    simp only [Option.map_some, hbranches, Except.ok_bind, hc]
    exact hd

/-! ## The function `switch` -/

theorem matchesCase_fits {value case : Computer} {a b : ValueType} (hv : value.Fits R a)
    (hc : case.Fits R b) : (matchesCase value case).Fits R false := by
  refine Source.present_fits fun m hm => ?_
  refine (hv.isMissing_regular hm).andThen fun gone => ?_
  refine Regular.ite (fun _ => regular_pure _) fun _ => ?_
  refine (hc.isMissing_regular hm).andThen fun gone => ?_
  refine Regular.ite (fun _ => regular_pure _) fun _ => ?_
  exact (hv.value_regular hm).andThen fun _ => (hc.value_regular hm).andThen fun _ =>
    regular_pure _

/-- Where the rule of `switch` gives a type, it is that of all results, and optional if there is
nothing to fall back to. -/
theorem switchType_ok {types : Arguments ValueType} (h : switchType types = .ok t) :
    ∃ u, ValueType.joinAll ((pairUp (types.all "cases")).1.map (·.2) ++
        (pairUp (types.all "cases")).2.toList) = some u ∧
      t = if (pairUp (types.all "cases")).2.isSome then u else u.optionalForm := by
  unfold switchType at h
  cases hvalue : types.get? "value" with
  | none =>
      rw [hvalue] at h
      cases h
  | some value =>
      simp only [hvalue] at h
      cases gone : value.isMissing with
      | true =>
          simp only [gone, if_true] at h
          cases h
      | false =>
          simp only [gone, Bool.false_eq_true, if_false] at h
          generalize pairUp (types.all "cases") = cases at h ⊢
          obtain ⟨pairs, otherwise⟩ := cases
          cases pairs with
          | nil => cases h
          | cons p ps =>
              obtain ⟨_, _, h⟩ := Except.bind_ok h
              split at h
              · next u joined =>
                  cases h
                  exact ⟨u, joined, rfl⟩
              · cases h

/-- The type covers all results. -/
theorem switchType_covers {types : Arguments ValueType} (h : switchType types = .ok t) :
    ∀ u ∈ (pairUp (types.all "cases")).1.map (·.2) ++ (pairUp (types.all "cases")).2.toList,
      Computer.coercible u t.base ∧ (u.isOptional = true → t.isOptional = true) := by
  obtain ⟨u, joined, rfl⟩ := switchType_ok h
  intro v hv
  obtain ⟨coercible, optional⟩ := Computer.coercible_of_joinAll joined v hv
  split
  · exact ⟨coercible, optional⟩
  · rw [ValueType.optionalForm, ValueType.base_withOptional]
    refine ⟨coercible, fun _ => ?_⟩
    cases u <;> rfl

theorem switchType_optional {types : Arguments ValueType} (h : switchType types = .ok t)
    (none : (pairUp (types.all "cases")).2 = none) : t.isOptional = true := by
  obtain ⟨u, _, rfl⟩ := switchType_ok h
  rw [none]
  cases u <;> rfl

theorem switchBuilder_sound :
    switchBuilder.Sound R
      [.required "value" ((Matcher.kind .integer).or (.kind .string)).orMissing,
        .variadic "cases" .anything]
      switchType := by
  intro t given accepted rule
  obtain ⟨value, a, bound, fits_value, _⟩ := accepted.required "value" (.head _)
  have covers := switchType_covers rule
  have optional := switchType_optional rule
  have fits : ∀ g ∈ given.all "cases", g.1.Fits R g.2 := fun g hg =>
    accepted.fits g (Arguments.mem_values_of_mem_all hg)
  rw [Arguments.all_map, pairUp_map] at covers optional
  rcases hu : pairUp (given.all "cases") with ⟨pairs, rest⟩
  rw [hu] at covers optional
  obtain ⟨branches, hbranches, all⟩ := branches_built hu fits
    (fun c => .ok (matchesCase value c))
    (fun p _ fits_p => ⟨_, rfl, false, matchesCase_fits fits_value fits_p⟩)
    fun p hp => covers p.2.2 (List.mem_append_left _ (List.mem_map_of_mem (List.mem_map_of_mem hp)))
  -- Without a last value the call falls back to MISSING, so that its type is optional.
  obtain ⟨c, hc, fits_c⟩ : ∃ c, (rest.map (·.1)).elim (.ok (.missingOf t.base)) (·.coerce t.base) =
      .ok c ∧ c.Fits R t := by
    cases rest with
    | none =>
        refine ⟨_, rfl, ?_⟩
        have fits_c := Computer.missingOf_fits (R := R) t.base
        rwa [← optional rfl, ValueType.ofBase_base] at fits_c
    | some o =>
        exact (fits _ (mem_of_unpaired (by rw [hu]))).coerceTo_ok
          (covers o.2 (List.mem_append_right _ (.head _)))
  obtain ⟨d, hd, fits_d⟩ := firstTrue_sound all fits_c
  refine ⟨d, ?_, fits_d⟩
  have hbranches : ((pairs.map fun p => (p.1.1, p.2.1)).mapM fun p => do
      pure (matchesCase value p.1, ← p.2.coerce t.base)) = .ok branches := hbranches
  rw [switchBuilder, Arguments.all_map, pairUp_map, hu, Arguments.required_of_get? bound]
  simp only [Except.ok_bind, hbranches]
  cases rest with
  | none =>
      cases hc
      exact hd
  | some o =>
      simp only [Option.map_some, Option.elim_some] at hc ⊢
      rw [hc]
      exact hd

theorem control_sound : AllSound R control := by
  refine .cons (by decide) (Function.sound_simple (by decide) ifBuilder_sound) ?_
  exact .cons (by decide) (Function.sound_simple (by decide) switchBuilder_sound) allSound_nil

end Functions

end Rowwise
