import Rowwise.Computer

/-!
# What a computation answers

A computation knows its moment, records warnings and may fail.  Computations of the evaluator
never look at the warnings that were recorded before, so that each of them has one answer at a
moment: `Eval.Answers c m r` says that `c` ends with `r` at `m` from every log.

A `Regime` fixes the moments at which values are read and the errors that reading them may end
with.  `Eval.Regular` is the property that the evaluator keeps up for every computation that it
asks for a present value: at the moment it answers a value, or an error of the regime.
-/

namespace Rowwise

/-- Where values are read, and the errors with which that may end.  A failure that lies in the row
always may.  `unasked` says whether values of types that are not optional may also be read before
it is asked whether they are missing. -/
structure Regime where
  rows : Moment → Prop
  permits : EvalError → Prop
  permits_failure : ∀ cause, permits (.failure cause)
  unasked : Prop

/-- Only failures that lie in the row are permitted, and every value is asked for first. -/
def Regime.strict (rows : Moment → Prop) : Regime where
  rows := rows
  permits e := ∃ cause, e = .failure cause
  permits_failure cause := ⟨cause, rfl⟩
  unasked := False

/-- An evaluation may also be cut short as a whole, and may read required values unasked. -/
def Regime.lenient (rows : Moment → Prop) : Regime where
  rows := rows
  permits e := (∃ cause, e = .failure cause) ∨ e = .aborted
  permits_failure cause := .inl ⟨cause, rfl⟩
  unasked := True

namespace Eval

variable {α β γ : Type} {m : Moment}

/-- At moment `m` the computation ends with `r`, whatever was recorded before. -/
def Answers (c : Eval α) (m : Moment) (r : Except EvalError α) : Prop :=
  ∀ log, (c.at_ m log).1 = r

theorem at_bind (c : Eval α) (f : α → Eval β) (m : Moment) (log : WarningLog) :
    (c >>= f).at_ m log =
      match c.at_ m log with
      | (.ok a, log) => (f a).at_ m log
      | (.error e, log) => (.error e, log) := by
  simp only [at_, bind, ReaderT.bind, ExceptT.bind, ExceptT.mk, StateT.bind, ExceptT.bindCont]
  rcases c m log with ⟨_ | _, _⟩ <;> rfl

/-- A computation has one answer at a moment. -/
theorem Answers.unique {c : Eval α} {r s : Except EvalError α} (hr : c.Answers m r)
    (hs : c.Answers m s) : r = s := by
  rw [← hr {}, hs {}]

theorem answers_pure (a : α) : (pure a : Eval α).Answers m (.ok a) := fun _ => rfl

theorem answers_throw (e : EvalError) : (throw e : Eval α).Answers m (.error e) := fun _ => rfl

theorem answers_fail (cause : RowFailure) :
    (fail cause : Eval α).Answers m (.error (.failure cause)) := fun _ => rfl

theorem answers_warn (message : String) : (warn message).Answers m (.ok ()) := fun _ => rfl

theorem answers_moment : (readThe Moment : Eval Moment).Answers m (.ok m) := fun _ => rfl

theorem Answers.bind {c : Eval α} {f : α → Eval β} {a : α} {r : Except EvalError β}
    (hc : c.Answers m (.ok a)) (hf : (f a).Answers m r) : (c >>= f).Answers m r := by
  intro log
  have hc := hc log
  rw [at_bind]
  rcases h : c.at_ m log with ⟨_ | _, _⟩ <;> rw [h] at hc
  · simp at hc
  · cases hc
    exact hf _

theorem Answers.bind_error {c : Eval α} {e : EvalError} (hc : c.Answers m (.error e))
    (f : α → Eval β) : (c >>= f).Answers m (.error e) := by
  intro log
  have hc := hc log
  rw [at_bind]
  rcases h : c.at_ m log with ⟨_ | _, _⟩ <;> rw [h] at hc
  · cases hc
    rfl
  · simp at hc

theorem Answers.map {c : Eval α} {a : α} (hc : c.Answers m (.ok a)) (f : α → β) :
    (f <$> c).Answers m (.ok (f a)) := by
  rw [map_eq_pure_bind]
  exact hc.bind (answers_pure _)

theorem Answers.map_error {c : Eval α} {e : EvalError} (hc : c.Answers m (.error e))
    (f : α → β) : (f <$> c).Answers m (.error e) := by
  rw [map_eq_pure_bind]
  exact hc.bind_error _

/-! ## Regular computations -/

variable {R : Regime}

/-- At moment `m` the computation ends with a value, or with an error of the regime. -/
def Regular (R : Regime) (m : Moment) (c : Eval α) : Prop :=
  (∃ a, c.Answers m (.ok a)) ∨ ∃ e, R.permits e ∧ c.Answers m (.error e)

theorem regular_pure (a : α) : (pure a : Eval α).Regular R m := .inl ⟨a, answers_pure a⟩

theorem regular_warn (message : String) : (warn message).Regular R m :=
  .inl ⟨(), answers_warn message⟩

theorem regular_warnResult (function result reason : String) :
    (warnResult function result reason).Regular R m := regular_warn _

theorem regular_fail (cause : RowFailure) : (fail cause : Eval α).Regular R m :=
  .inr ⟨_, R.permits_failure cause, answers_fail cause⟩

theorem regular_throw {e : EvalError} (h : R.permits e) : (throw e : Eval α).Regular R m :=
  .inr ⟨e, h, answers_throw e⟩

theorem regular_moment : (readThe Moment : Eval Moment).Regular R m := .inl ⟨m, answers_moment⟩

/-- The continuation has to be regular for the value that the first part answers. -/
theorem Regular.bind {c : Eval α} {f : α → Eval β} (hc : c.Regular R m)
    (hf : ∀ a, c.Answers m (.ok a) → (f a).Regular R m) : (c >>= f).Regular R m := by
  obtain ⟨a, ha⟩ | ⟨e, he, ha⟩ := hc
  · obtain ⟨b, hb⟩ | ⟨e, he, hb⟩ := hf a ha
    · exact .inl ⟨b, ha.bind hb⟩
    · exact .inr ⟨e, he, ha.bind hb⟩
  · exact .inr ⟨e, he, ha.bind_error f⟩

theorem Regular.andThen {c : Eval α} {f : α → Eval β} (hc : c.Regular R m)
    (hf : ∀ a, (f a).Regular R m) : (c >>= f).Regular R m := hc.bind fun a _ => hf a

theorem Regular.map {c : Eval α} (hc : c.Regular R m) (f : α → β) : (f <$> c).Regular R m := by
  rw [map_eq_pure_bind]
  exact hc.andThen fun _ => regular_pure _

theorem regular_orFail (cause : RowFailure) (a : Option α) : (orFail cause a).Regular R m := by
  cases a with
  | none => exact regular_fail cause
  | some a => exact regular_pure a

theorem regular_inRange (base : Base) (a : Option α) : (inRange base a).Regular R m :=
  regular_orFail _ a

theorem Regular.ite {p : Prop} [Decidable p] {c d : Eval α} (hc : p → c.Regular R m)
    (hd : ¬p → d.Regular R m) : (if p then c else d).Regular R m := by
  by_cases h : p
  · rw [if_pos h]; exact hc h
  · rw [if_neg h]; exact hd h

end Eval

end Rowwise
