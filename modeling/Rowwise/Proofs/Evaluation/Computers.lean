import Rowwise.Proofs.Evaluation.Sources

/-!
# Conversions of computers that fit a type

The evaluator views a computer as one of a certain kind, widens integers to floats, and takes the
computer of MISSING for one of any kind.  Each of these views exists if the type allows it, and
fits the optionality of the type.
-/

namespace Rowwise

open Eval

/-- A value is one of the type: of its kind, or MISSING where the type is optional. -/
def Value.HasType (v : Value) (t : ValueType) : Prop :=
  v = .missing ∧ t.isOptional = true ∨ ∃ k a, v = .of k a ∧ t.base = some k

namespace Computer

variable {R : Regime} {m : Moment} {c d : Computer} {a b t : ValueType}

theorem Fits.base_eq (h : c.Fits R t) : c.base = t.base := by cases h <;> rfl

theorem constant_fits (v : Value) : (constant v).Fits R v.valueType := by
  cases v with
  | missing => exact .missing
  | of k a => exact .of (Source.constant_fits a)

/-- An always-missing computer fits every optional type. -/
theorem missingOf_fits (base : Base) : (missingOf base).Fits R (.ofBase base true) := by
  cases base with
  | none => exact .missing
  | some k => exact .of Source.missing_fits

/-- Cells that are values of a type are read as such. -/
theorem ofCells_fits {read : Nat → Value} (h : ∀ m, R.rows m → (read m.row).HasType t) :
    (ofCells t.base read).Fits R t := by
  cases t with
  | missing => exact .missing
  | of k o =>
      refine .of fun m hm => ?_
      obtain ⟨hv, ho⟩ | ⟨l, a, hv, hl⟩ := h m hm
      · refine .absent ho ?_
        have asked := (answers_moment (m := m)).map fun n => (read n.row).isMissing
        rwa [hv] at asked
      · cases hl
        refine .present ?_ ?_
        · have asked := (answers_moment (m := m)).map fun n => (read n.row).isMissing
          rwa [hv] at asked
        · refine .inl ⟨a, answers_moment.bind ?_⟩
          have cell : readCell k (read m.row) = some a := by
            rw [hv]
            cases k <;> exact Value.as?_of _ a
          rw [cell]
          exact answers_pure a

theorem Fits.weaken {k : Kind} {s : Source k.Carrier} {o o' : Bool}
    (h : (Computer.of k s).Fits R (.of k o)) (le : o = true → o' = true) :
    (Computer.of k s).Fits R (.of k o') := by
  cases h with
  | of source => exact .of (source.weaken le)

/-! ## Views of a kind -/

/-- The base of a computer can be taken for `k`: it is `k`, or the computer is that of MISSING. -/
theorem Fits.as_ok (h : c.Fits R t) {k : Kind} (hk : t.base = some k ∨ t = .missing) :
    ∃ s, c.as k = .ok s ∧ s.Fits R t.isOptional := by
  cases h with
  | missing => exact ⟨_, rfl, Source.missing_fits⟩
  | of source =>
      obtain hk | hk := hk
      · cases hk
        exact ⟨_, as_of _ _, source⟩
      · cases hk

/-- Numbers can be taken for floats. -/
theorem Fits.asFloat_ok (h : c.Fits R t) (ht : t.isNumeric ∨ t = .missing) :
    ∃ s, c.asFloat = .ok s ∧ s.Fits R t.isOptional := by
  cases h with
  | missing => exact ⟨_, rfl, Source.missing_fits⟩
  | @of k s o source =>
      obtain ht | ht := ht
      · cases k <;> simp [ValueType.isNumeric, ValueType.kindSatisfies, Kind.isNumeric] at ht
        · exact ⟨_, rfl, Source.map_fits source _⟩
        · exact ⟨_, rfl, source⟩
      · cases ht

/-- A view of a kind is missing where the computer is. -/
theorem isMissing_of_as {k : Kind} {s : Source k.Carrier} (h : c.as k = .ok s) :
    s.isMissing = c.isMissing := by
  cases c with
  | missing =>
      cases h
      rfl
  | of l source =>
      by_cases hk : l = k
      · subst hk
        rw [as_of] at h
        cases h
        rfl
      · rw [as, dif_neg hk] at h
        cases h

/-- A view as floats is missing where the computer is. -/
theorem isMissing_of_asFloat {s : Source Float} (h : c.asFloat = .ok s) :
    s.isMissing = c.isMissing := by
  cases c with
  | missing =>
      cases h
      rfl
  | of l source => cases l <;> cases h <;> rfl

/-- Whether values of the type can be given as values of a base. -/
def coercible (t : ValueType) (target : Base) : Prop :=
  t.base = target ∨ t = .missing ∨ (t.base = some .integer ∧ target = some .float)

/-- Both sides of a join can be given as values of its base. -/
theorem coercible_of_join (h : a.join b = some t) : coercible a t.base ∧ coercible b t.base := by
  cases a with
  | missing =>
      cases h
      exact ⟨.inr (.inl rfl), .inl (by simp [ValueType.optionalForm])⟩
  | of k o =>
      cases b with
      | missing =>
          cases h
          exact ⟨.inl rfl, .inr (.inl rfl)⟩
      | of l p =>
          by_cases hkl : k = l
          · subst hkl
            rw [ValueType.join, if_pos rfl] at h
            cases h
            exact ⟨.inl rfl, .inl rfl⟩
          · cases k <;> cases l <;> simp [ValueType.join, Kind.isNumeric] at h hkl <;> subst h
            · exact ⟨.inr (.inr ⟨rfl, rfl⟩), .inl rfl⟩
            · exact ⟨.inl rfl, .inr (.inr ⟨rfl, rfl⟩)⟩

/-- A join is optional if one of its sides is. -/
theorem isOptional_of_join (h : a.join b = some t) :
    t.isOptional = (a.isOptional || b.isOptional) := by
  cases a with
  | missing => cases b <;> cases h <;> rfl
  | of k o =>
      cases b with
      | missing =>
          cases h
          simp [ValueType.optionalForm, ValueType.withOptional, ValueType.ofBase, ValueType.base,
            ValueType.isOptional]
      | of l p =>
          rw [ValueType.join] at h
          split at h
          · cases h
            rfl
          · split at h <;> cases h
            rfl

/-- A computer can be given as one of another base, with the optionality that it has. -/
theorem Fits.coerce_ok (h : c.Fits R t) {target : Base} (ht : coercible t target) :
    ∃ d, c.coerce target = .ok d ∧ d.Fits R (.ofBase target t.isOptional) := by
  by_cases same : c.base = target
  · refine ⟨c, by unfold coerce; rw [if_pos same], ?_⟩
    rw [h.base_eq] at same
    subst same
    cases h with
    | missing => exact .missing
    | of source => exact .of source
  · rw [h.base_eq] at same
    obtain ht | rfl | ⟨hi, rfl⟩ := ht
    · exact absurd ht same
    · cases h
      exact ⟨missingOf target, if_neg same, missingOf_fits target⟩
    · cases h with
      | missing => cases hi
      | of source =>
          cases hi
          exact ⟨_, rfl, .of (Source.map_fits source _)⟩

/-- Two computers of one base are put together by an operation on their sources. -/
theorem zip_ok {f : {α : Type} → Source α → Source α → Source α} {base : Base} {o₁ o₂ o : Bool}
    (hc : c.Fits R (.ofBase base o₁)) (hd : d.Fits R (.ofBase base o₂))
    (hf : ∀ {α : Type} {a b : Source α}, a.Fits R o₁ → b.Fits R o₂ → (f a b).Fits R o) :
    ∃ e, zip f c d = .ok e ∧ e.Fits R (.ofBase base o) := by
  cases base with
  | none =>
      cases hc
      cases hd
      exact ⟨.missing, rfl, .missing⟩
  | some k =>
      cases hc with
      | of ha =>
          cases hd with
          | @of _ b _ hb =>
              refine ⟨.of k (f _ b), ?_, .of (hf ha hb)⟩
              simp [zip]

/-! ## Reading values -/

theorem Fits.isMissing_regular (h : c.Fits R t) (hm : R.rows m) : c.isMissing.Regular R m := by
  cases h with
  | missing => exact regular_pure true
  | of source => exact (source m hm).isMissing_regular

/-- Only a computer of an optional type answers that its value is missing. -/
theorem Fits.optional_of_missing (h : c.Fits R t) (hm : R.rows m)
    (gone : c.isMissing.Answers m (.ok true)) : t.isOptional = true := by
  cases h with
  | missing => rfl
  | of source => exact (source m hm).optional_of_missing gone

theorem Fits.value_regular (h : c.Fits R t) (hm : R.rows m) : c.value.Regular R m := by
  cases h with
  | missing => exact regular_pure _
  | of source =>
      refine (source m hm).isMissing_regular.bind fun gone hgone => ?_
      cases gone with
      | true => exact regular_pure _
      | false => exact ((source m hm).compute_regular hgone).map _

/-- A value that is read is one of the type. -/
theorem Fits.hasType_of_value (h : c.Fits R t) (hm : R.rows m) {v : Value}
    (hv : c.value.Answers m (.ok v)) : v.HasType t := by
  cases h with
  | missing => exact .inl ⟨by cases (answers_pure _).unique hv; rfl, rfl⟩
  | @of k s o source =>
      cases source m hm with
      | failing _ answer _ => exact absurd ((answer.bind_error _).unique hv) (by simp)
      | absent allowed answer =>
          have gone : (Computer.of k s).value.Answers m (.ok .missing) := answer.bind (answers_pure _)
          cases gone.unique hv
          exact .inl ⟨rfl, allowed⟩
      | present answer value =>
          obtain ⟨a, ha⟩ | ⟨e, _, he⟩ := value
          · have there : (Computer.of k s).value.Answers m (.ok (.of k a)) := answer.bind (ha.map _)
            cases there.unique hv
            exact .inr ⟨k, a, rfl, rfl⟩
          · have failed : (Computer.of k s).value.Answers m (.error e) := answer.bind (he.map_error _)
            exact absurd (failed.unique hv) (by simp)

/-- The texts of the values are never missing. -/
theorem Fits.textSource_fits (h : c.Fits R t) {o : Bool} : c.textSource.Fits R o :=
  Source.present_fits fun _ hm => (h.value_regular hm).map _

end Computer

end Rowwise
