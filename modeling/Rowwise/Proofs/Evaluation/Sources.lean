import Rowwise.Proofs.Evaluation.Answers

/-!
# Sources and computers that fit a type

A source is asked first whether its value is missing.  It *fits* an optionality if at every moment
of the regime it answers that its value is there, and then has one, or answers that it is missing,
which only an optional source may, or fails with an error of the regime.  Nothing is asked of the
value of a source that is missing or fails, unless the regime lets required values be read unasked.

A computer fits a type if it has the kind of the type and its source fits the optionality.  The
lemmas here say for each way to put sources together that the result fits if the parts do.
-/

namespace Rowwise

open Eval

/-- What a source may do at a moment. -/
inductive Source.FitsAt {α : Type} (R : Regime) (optional : Bool) (s : Source α) (m : Moment) :
    Prop where
  | failing {e : EvalError} (permitted : R.permits e)
      (answer : s.isMissing.Answers m (.error e))
      (unasked : R.unasked → optional = false → s.compute.Regular R m)
  | absent (allowed : optional = true) (answer : s.isMissing.Answers m (.ok true))
  | present (answer : s.isMissing.Answers m (.ok false)) (value : s.compute.Regular R m)

/-- A source fits an optionality if it does at every moment of the regime. -/
def Source.Fits {α : Type} (R : Regime) (optional : Bool) (s : Source α) : Prop :=
  ∀ m, R.rows m → s.FitsAt R optional m

/-- A computer fits a type if it has its kind and its source has its optionality. -/
inductive Computer.Fits (R : Regime) : Computer → ValueType → Prop where
  | missing : Fits R .missing .missing
  | of {k : Kind} {s : Source k.Carrier} {optional : Bool} (source : s.Fits R optional) :
      Fits R (.of k s) (.of k optional)

namespace Source

variable {α β γ : Type} {R : Regime} {m : Moment} {o o₁ o₂ : Bool}

theorem FitsAt.isMissing_regular {s : Source α} (h : s.FitsAt R o m) : s.isMissing.Regular R m := by
  cases h with
  | failing permitted answer _ => exact .inr ⟨_, permitted, answer⟩
  | absent _ answer => exact .inl ⟨_, answer⟩
  | present answer _ => exact .inl ⟨_, answer⟩

/-- A source that has answered that its value is there has one. -/
theorem FitsAt.compute_regular {s : Source α} (h : s.FitsAt R o m)
    (there : s.isMissing.Answers m (.ok false)) : s.compute.Regular R m := by
  cases h with
  | failing _ answer _ => exact absurd (answer.unique there) (by simp)
  | absent _ answer => exact absurd (answer.unique there) (by simp)
  | present _ value => exact value

/-- A required source has a value even if nobody asked, where the regime lets it be read so. -/
theorem FitsAt.compute_unasked {s : Source α} (h : s.FitsAt R o m) (hu : R.unasked)
    (required : o = false) : s.compute.Regular R m := by
  cases h with
  | failing _ _ unasked => exact unasked hu required
  | absent allowed _ => exact absurd (allowed.symm.trans required) (by simp)
  | present _ value => exact value

/-- Only an optional source answers that its value is missing. -/
theorem FitsAt.optional_of_missing {s : Source α} (h : s.FitsAt R o m)
    (gone : s.isMissing.Answers m (.ok true)) : o = true := by
  cases h with
  | failing _ answer _ => exact absurd (answer.unique gone) (by simp)
  | absent allowed _ => exact allowed
  | present answer _ => exact absurd (answer.unique gone) (by simp)

/-- A source fits if its question is answered, its value is there whenever the answer is no or need
not be awaited, and the answer is yes only where that is allowed. -/
theorem FitsAt.intro {s : Source α} (asked : s.isMissing.Regular R m)
    (absent : s.isMissing.Answers m (.ok true) → o = true)
    (present : s.isMissing.Answers m (.ok false) → s.compute.Regular R m)
    (unasked : R.unasked → o = false → s.compute.Regular R m) : s.FitsAt R o m := by
  obtain ⟨b, hb⟩ | ⟨e, he, ha⟩ := asked
  · cases b with
    | false => exact .present hb (present hb)
    | true => exact .absent (absent hb) hb
  · exact .failing he ha unasked

/-- A source that fits also fits an optionality that allows more. -/
theorem FitsAt.weaken {s : Source α} (h : s.FitsAt R o₁ m) (le : o₁ = true → o₂ = true) :
    s.FitsAt R o₂ m := by
  cases h with
  | failing permitted answer unasked =>
      refine .failing permitted answer fun hu required => unasked hu ?_
      exact Bool.eq_false_iff.mpr fun allowed => Bool.eq_false_iff.mp required (le allowed)
  | absent allowed answer => exact .absent (le allowed) answer
  | present answer value => exact .present answer value

theorem Fits.weaken {s : Source α} (h : s.Fits R o₁) (le : o₁ = true → o₂ = true) :
    s.Fits R o₂ := fun m hm => (h m hm).weaken le

/-! ## Single sources -/

theorem present_fits {c : Eval α} (h : ∀ m, R.rows m → c.Regular R m) :
    (Source.present c).Fits R o := fun m hm => .present (answers_pure _) (h m hm)

theorem constant_fits (a : α) : (Source.constant a).Fits R o :=
  present_fits fun _ _ => regular_pure a

theorem missing_fits : (Source.missing : Source α).Fits R true := fun _ _ =>
  .absent rfl (answers_pure _)

theorem FitsAt.tryMap {s : Source α} (h : s.FitsAt R o m) {f : α → Eval β}
    (hf : ∀ a, (f a).Regular R m) : (s.tryMap f).FitsAt R o m := by
  refine .intro h.isMissing_regular h.optional_of_missing (fun there => ?_) fun hu ho => ?_
  · exact (h.compute_regular there).andThen hf
  · exact (h.compute_unasked hu ho).andThen hf

theorem tryMap_fits {s : Source α} (h : s.Fits R o) {f : α → Eval β}
    (hf : ∀ m a, (f a).Regular R m) : (s.tryMap f).Fits R o := fun m hm =>
  (h m hm).tryMap (hf m)

theorem map_fits {s : Source α} (h : s.Fits R o) (f : α → β) : (s.map f).Fits R o := by
  intro m hm
  have h := h m hm
  refine .intro h.isMissing_regular h.optional_of_missing (fun there => ?_) fun hu ho => ?_
  · exact (h.compute_regular there).map f
  · exact (h.compute_unasked hu ho).map f

/-- Reading a value keeps to the protocol. -/
theorem FitsAt.value?_regular {s : Source α} (h : s.FitsAt R o m) : s.value?.Regular R m := by
  refine h.isMissing_regular.bind fun b hb => ?_
  cases b with
  | true => exact regular_pure none
  | false => exact (h.compute_regular hb).map some

/-- A source that is not optional has a value. -/
theorem FitsAt.isSome_of_value? {s : Source α} (h : s.FitsAt R o m) {v : Option α}
    (hv : s.value?.Answers m (.ok v)) : v.isSome ∨ o = true := by
  cases h with
  | failing _ answer _ => exact absurd ((answer.bind_error _).unique hv) (by simp)
  | absent allowed _ => exact .inr allowed
  | present answer value =>
      obtain ⟨a, ha⟩ | ⟨e, _, he⟩ := value
      · have hsome : s.value?.Answers m (.ok (some a)) := answer.bind (ha.map some)
        cases hsome.unique hv
        exact .inl rfl
      · have herror : s.value?.Answers m (.error e) := answer.bind (he.map_error some)
        exact absurd (herror.unique hv) (by simp)

/-! ## Several sources -/

/-- A source that is missing if one of two others is, and has a value where both of them do. -/
theorem FitsAt.both {a : Source α} {b : Source β} {s : Source γ} (ha : a.FitsAt R o₁ m)
    (hb : b.FitsAt R o₂ m)
    (ask : s.isMissing = do if ← a.isMissing then pure true else b.isMissing)
    (value : a.compute.Regular R m → b.compute.Regular R m → s.compute.Regular R m) :
    s.FitsAt R (o₁ || o₂) m := by
  have unasked (hu : R.unasked) (required : (o₁ || o₂) = false) : s.compute.Regular R m := by
    obtain ⟨h₁, h₂⟩ := Bool.or_eq_false_iff.mp required
    exact value (ha.compute_unasked hu h₁) (hb.compute_unasked hu h₂)
  cases ha with
  | failing permitted answer _ => exact .failing permitted (ask ▸ answer.bind_error _) unasked
  | absent allowed answer =>
      exact .absent (by simp [allowed]) (ask ▸ answer.bind (answers_pure true))
  | present answer va =>
      cases hb with
      | failing permitted second _ => exact .failing permitted (ask ▸ answer.bind second) unasked
      | absent allowed second => exact .absent (by simp [allowed]) (ask ▸ answer.bind second)
      | present second vb => exact .present (ask ▸ answer.bind second) (value va vb)

theorem combine_fits {a : Source α} {b : Source β} (ha : a.Fits R o₁) (hb : b.Fits R o₂)
    {f : α → β → Eval γ} (hf : ∀ m x y, (f x y).Regular R m) :
    (combine f a b).Fits R (o₁ || o₂) := by
  intro m hm
  refine (ha m hm).both (hb m hm) rfl fun va vb => ?_
  exact va.andThen fun x => vb.andThen fun y => hf m x y

/-- Whether a condition is present and true is always answered. -/
theorem FitsAt.isTrue_regular {s : Source Bool} (h : s.FitsAt R o m) :
    s.isTrue.Regular R m := by
  refine h.isMissing_regular.bind fun gone hgone => ?_
  cases gone with
  | true => exact regular_pure false
  | false => exact h.compute_regular hgone

/-- A source that asks and computes as another one does fits where that one fits. -/
theorem FitsAt.ofTaken {s taken : Source α} (h : taken.FitsAt R o m)
    (ask : ∀ r, taken.isMissing.Answers m r → s.isMissing.Answers m r)
    (read : ∀ r, taken.compute.Answers m r → s.compute.Answers m r) : s.FitsAt R o m := by
  have regular (h : taken.compute.Regular R m) : s.compute.Regular R m := by
    obtain ⟨a, ha⟩ | ⟨e, he, ha⟩ := h
    · exact .inl ⟨a, read _ ha⟩
    · exact .inr ⟨e, he, read _ ha⟩
  cases h with
  | failing permitted answer unasked =>
      exact .failing permitted (ask _ answer) fun hu ho => regular (unasked hu ho)
  | absent allowed answer => exact .absent allowed (ask _ answer)
  | present answer value => exact .present (ask _ answer) (regular value)

/-- The branch that a selection takes is the same when it is asked and when it computes. -/
theorem select_fits {condition : Source Bool} {yes no : Source α} (hc : condition.Fits R o)
    (hy : yes.Fits R o₁) (hn : no.Fits R o₂) : (select condition yes no).Fits R (o₁ || o₂) := by
  intro m hm
  obtain ⟨b, hb⟩ | ⟨e, he, ha⟩ := (hc m hm).isTrue_regular
  · cases b with
    | true =>
        refine .ofTaken ((hy m hm).weaken ?_) (fun _ h => hb.bind h) fun _ h => hb.bind h
        simp +contextual
    | false =>
        refine .ofTaken ((hn m hm).weaken ?_) (fun _ h => hb.bind h) fun _ h => hb.bind h
        simp +contextual
  · exact .failing he (ha.bind_error _) fun _ _ => .inr ⟨e, he, ha.bind_error _⟩

/-- A fallback is missing only if both of its sources are. -/
theorem fallback_fits {first second : Source α} (hf : first.Fits R o₁) (hs : second.Fits R o₂) :
    (fallback first second).Fits R (o₁ && o₂) := by
  intro m hm
  cases hf m hm with
  | failing permitted answer _ =>
      refine .failing permitted (answer.bind_error _) fun _ _ => ?_
      exact .inr ⟨_, permitted, answer.bind_error _⟩
  | absent allowed answer =>
      refine .ofTaken ((hs m hm).weaken ?_) (fun _ h => answer.bind h) fun _ h => answer.bind h
      simp [allowed]
  | present answer value =>
      refine .present (answer.bind (answers_pure false)) ?_
      exact Regular.bind (.inl ⟨_, answer⟩) fun _ h => by cases answer.unique h; exact value

end Source

end Rowwise
