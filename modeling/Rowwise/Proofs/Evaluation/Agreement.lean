import Rowwise.Proofs.Evaluation.Computers
import Rowwise.Proofs.Evaluation.Meaning
import Rowwise.Proofs.Locality.Definite

/-!
# Computers whose values agree

Two computers agree at a moment if their values are related wherever both have one; either of them
may fail where the other does not.  What a selection finds is what the side finds that is taken
(`of_select`), so that selections agree whose conditions and sides do (`Agree.select`).  It does not
matter that a value is given as one of a wider base in several steps: giving it as one of a base is
`Value.widen` on the values (`value_of_coerce`), and the last step says it all (`widen_widen`).
-/

namespace Rowwise

open Eval

variable {m : Moment}

namespace Computer

variable {c d e : Computer} {target : Base}

/-! ## Values of other bases -/

theorem map_value {k : Kind} (s : Source k.Carrier) (g : Value → Value) :
    g <$> (of k s).value =
      (do if ← s.isMissing then pure (g .missing) else (fun a => g (.of k a)) <$> s.compute) := by
  rw [value, map_bind]
  refine congrArg (s.isMissing >>= ·) (funext fun gone => ?_)
  cases gone with
  | true => exact map_pure g Value.missing
  | false => exact (comp_map (Value.of k) g s.compute).symm

/-- A computer given as one of another base has the values given as values of that base. -/
theorem value_of_coerce (h : c.coerce target = .ok d) :
    d.value = (·.widen target) <$> c.value := by
  unfold coerce at h
  split at h
  · next same =>
      cases h
      subst same
      cases c with
      | missing => exact (map_pure (f := Eval) (Value.widen none) Value.missing).symm
      | of k s =>
          rw [map_value]
          cases k <;> rfl
  · split at h
    · cases h
      rw [show missing.value = pure Value.missing from rfl, map_pure]
      cases target <;> rfl
    · cases h
      rw [map_value]
      refine congrArg (Source.isMissing _ >>= ·) (funext fun gone => ?_)
      cases gone with
      | true => rfl
      | false => exact (comp_map Integer.toFloat (Value.of .float) (Source.compute _)).symm
    · cases h

/-- If a type can be given as one of a base, a value may be given as one of its base before. -/
theorem widen_widen {t : ValueType} (h : coercible t target) (v : Value) :
    (v.widen t.base).widen target = v.widen target := by
  cases v with
  | missing => rfl
  | of k a =>
      cases k with
      | integer =>
          by_cases float : t.base = some .float
          · have same : target = some .float := by
              obtain h | rfl | ⟨h, _⟩ := h
              · exact h.symm.trans float
              · cases float
              · cases h.symm.trans float
            rw [Value.widen, if_pos float, Value.widen, if_pos same]
            rfl
          · rw [Value.widen, if_neg float]
      | _ => rfl

/-! ## Selections -/

/-- What a selection finds is found by the side that is taken, or is MISSING as on both sides. -/
theorem of_select {s : Source Bool} {y n : Computer} {v : Value} (hs : s.Alike Eq s)
    (hy : y.Definite) (hn : n.Definite) (built : zip (Source.select s) y n = .ok e)
    (h : e.value.Answers m (.ok v)) :
    (y.value.Answers m (.ok v) ∧ n.value.Answers m (.ok v)) ∨
      ∃ taken, s.isTrue.Answers m (.ok taken) ∧
        (if taken then y else n).value.Answers m (.ok v) := by
  cases hy with
  | missing =>
      cases hn with
      | missing =>
          cases built
          exact .inl ⟨h, h⟩
      | of => cases built
  | @of k a _ ha =>
      cases hn with
      | missing => cases built
      | @of l b _ hb =>
          unfold zip at built
          dsimp only at built
          split at built
          · next same =>
              subst same
              cases built
              right
              have condition : s.isTrue.Definite := hs.isTrue
              have gone : (do if ← s.isTrue then a.isMissing else b.isMissing : Eval Bool).Definite :=
                condition.bind fun _ => .ite ha.isMissing hb.isMissing
              have chosen := (hs.select ha hb).compute
              obtain ⟨missing, asked, h⟩ :=
                gone.of_bind (fun _ => .ite (blind_pure _) (chosen.map _)) h
              obtain ⟨taken, decided, asked⟩ :=
                condition.of_bind (fun _ => .ite ha.isMissing hb.isMissing) asked
              have side : (if taken then of l a else of l b) = of l (if taken then a else b) := by
                cases taken <;> rfl
              have asked : (if taken then a else b).isMissing.Answers m (.ok missing) := by
                cases taken <;> exact asked
              refine ⟨taken, decided, ?_⟩
              rw [side]
              refine asked.bind ?_
              cases missing with
              | true => exact h
              | false =>
                  obtain ⟨x, value, rfl⟩ := Definite.of_map chosen h
                  -- The condition is asked again, and has the same answer.
                  obtain ⟨again, decided', value⟩ :=
                    condition.of_bind (fun _ => .ite ha.compute hb.compute) value
                  cases decided.unique decided'
                  have value : (if taken then a else b).compute.Answers m (.ok x) := by
                    cases taken <;> exact value
                  exact value.map _
          · cases built

end Computer

/-! ## Agreement -/

/-- The conditions are definite, and one is true where the other is. -/
structure Source.SameTruth (m : Moment) (s t : Source Bool) : Prop where
  left : s.Alike Eq s
  right : t.Alike Eq t
  same : ∀ i j, s.isTrue.Answers m (.ok i) → t.isTrue.Answers m (.ok j) → i = j

theorem Source.SameTruth.refl {s : Source Bool} (h : s.Alike Eq s) : s.SameTruth m s where
  left := h
  right := h
  same i j hi hj := by
    cases hi.unique hj
    rfl

namespace Computer

variable {c d e : Computer} {target : Base}

/-- The computers are definite, and their values are related where both have one. -/
structure Agree (m : Moment) (r : Value → Value → Prop) (c d : Computer) : Prop where
  left : c.Definite
  right : d.Definite
  values : ∀ v w, c.value.Answers m (.ok v) → d.value.Answers m (.ok w) → r v w

namespace Agree

variable {r : Value → Value → Prop}

theorem refl (h : c.Definite) : Agree m Eq c c where
  left := h
  right := h
  values v w hv hw := by
    cases hv.unique hw
    rfl

/-- The first computer gives the values of the second as values of a base. -/
theorem of_coerce (h : c.Definite) (built : c.coerce target = .ok d) :
    Agree m (fun v w => v = w.widen target) d c where
  left := (h.coerce target).self built
  right := h
  values v w hv hw := by
    rw [value_of_coerce built] at hv
    obtain ⟨u, hu, rfl⟩ := Definite.of_map h.value hv
    cases hu.unique hw
    rfl

/-- Before that, its values may be given as values of another base. -/
theorem widen {t : ValueType} (h : Agree m (fun v w => v = w.widen target) c d)
    (built : d.coerce t.base = .ok e) (ht : coercible t target) :
    Agree m (fun v w => v = w.widen target) c e where
  left := h.left
  right := (h.right.coerce t.base).self built
  values v w hv hw := by
    rw [value_of_coerce built] at hw
    obtain ⟨u, hu, rfl⟩ := Definite.of_map h.right.value hw
    rw [h.values v u hv hu, widen_widen ht]

/-- Values that are equal when given as values of a base are so if all are given as such. -/
theorem coerce (h : Agree m (fun v w => v = w.widen target) c d)
    (built : d.coerce target = .ok e) : Agree m Eq c e where
  left := h.left
  right := (h.right.coerce target).self built
  values v w hv hw := by
    rw [value_of_coerce built] at hw
    obtain ⟨u, hu, rfl⟩ := Definite.of_map h.right.value hw
    exact h.values v u hv hu

theorem select {s t : Source Bool} {y n y' n' e' : Computer} (conditions : s.SameTruth m t)
    (yes : Agree m r y y') (no : Agree m r n n') (built : zip (Source.select s) y n = .ok e)
    (built' : zip (Source.select t) y' n' = .ok e') : Agree m r e e' where
  left := (yes.left.zip no.left fun hy hn => conditions.left.select hy hn).self built
  right := (yes.right.zip no.right fun hy hn => conditions.right.select hy hn).self built'
  values v w hv hw := by
    obtain ⟨left, right⟩ | ⟨i, decided, chosen⟩ :=
      of_select conditions.left yes.left no.left built hv
    · obtain ⟨left', _⟩ | ⟨j, _, chosen'⟩ :=
        of_select conditions.right yes.right no.right built' hw
      · exact yes.values v w left left'
      · cases j with
        | true => exact yes.values v w left chosen'
        | false => exact no.values v w right chosen'
    · obtain ⟨left', right'⟩ | ⟨j, decided', chosen'⟩ :=
        of_select conditions.right yes.right no.right built' hw
      · cases i with
        | true => exact yes.values v w chosen left'
        | false => exact no.values v w chosen right'
      · cases conditions.same i j decided decided'
        cases i with
        | true => exact yes.values v w chosen chosen'
        | false => exact no.values v w chosen chosen'

end Agree

end Computer

end Rowwise
