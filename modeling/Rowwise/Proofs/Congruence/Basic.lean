import Mathlib.Data.List.Forall2
import Rowwise.Functions.Builder
import Rowwise.Proofs.Evaluation.Answers
import Rowwise.Proofs.Except

/-!
# Relations that evaluation keeps

The evaluator makes computations in few ways only: it answers, fails, warns, asks when the
evaluation started, and goes on with what another computation answered.  A relation between
computations that holds of these steps and is kept by the last one is an `Eval.Congruence`.
Computations are *related* if it holds of them, and a computation that is related to itself is
*proper*.

Nothing that the evaluator does with computations leads out of such a relation but reading a cell.
The lemmas here say so for each way to put computations, sources and computers together: related
parts make related wholes.  For computers that is `Computer.Related`, and a program that builds one
ends related if it ends with the same error or with computers that are related (`Except.Agree`).
-/

/-- Two programs end with the same error, or with results that are related. -/
inductive Except.Agree {ε α β : Type} (r : α → β → Prop) : Except ε α → Except ε β → Prop where
  | ok {a : α} {b : β} (related : r a b) : Agree r (.ok a) (.ok b)
  | error (e : ε) : Agree r (.error e) (.error e)

namespace Except.Agree

variable {ε α β γ δ : Type} {r : α → β → Prop} {s : γ → δ → Prop} {x : Except ε α} {y : Except ε β}

theorem same (x : Except ε α) : Agree Eq x x := by
  cases x with
  | ok a => exact .ok rfl
  | error e => exact .error e

theorem bind (h : Agree r x y) {f : α → Except ε γ} {g : β → Except ε δ}
    (hf : ∀ a b, r a b → Agree s (f a) (g b)) : Agree s (x >>= f) (y >>= g) := by
  cases h with
  | ok related => exact hf _ _ related
  | error e => exact .error e

theorem map (h : Agree r x y) {f : α → γ} {g : β → δ} (hf : ∀ a b, r a b → s (f a) (g b)) :
    Agree s (f <$> x) (g <$> y) := by
  cases h with
  | ok related => exact .ok (hf _ _ related)
  | error e => exact .error e

theorem imp {t : α → β → Prop} (h : Agree r x y) (weaker : ∀ a b, r a b → t a b) :
    Agree t x y := by
  cases h with
  | ok related => exact .ok (weaker _ _ related)
  | error e => exact .error e

theorem mapM {f : α → Except ε γ} {g : β → Except ε δ} {as : List α} {bs : List β}
    (h : List.Forall₂ r as bs) (hf : ∀ a b, r a b → Agree s (f a) (g b)) :
    Agree (List.Forall₂ s) (as.mapM f) (bs.mapM g) := by
  induction h with
  | nil => exact .ok .nil
  | cons head _ ih =>
      rw [List.mapM_cons, List.mapM_cons]
      refine (hf _ _ head).bind fun c d hcd => ?_
      exact ih.bind fun cs ds tail => .ok (.cons hcd tail)

theorem mapM_same {f : α → Except ε γ} {g : α → Except ε δ} (as : List α)
    (h : ∀ a, Agree s (f a) (g a)) : Agree (List.Forall₂ s) (as.mapM f) (as.mapM g) := by
  refine mapM (List.forall₂_same.mpr fun a (_ : a ∈ as) => rfl) fun a b same => ?_
  cases same
  exact h a

/-- What agrees with a success is one. -/
theorem of_ok {a : α} (h : Agree r (.ok a) y) : ∃ b, y = .ok b ∧ r a b := by
  cases h with
  | ok related => exact ⟨_, rfl, related⟩

/-- What a program gives that agrees with itself is related to itself. -/
theorem self {r : α → α → Prop} {x : Except ε α} {a : α} (h : Agree r x x) (built : x = .ok a) :
    r a a := by
  subst built
  obtain ⟨b, same, related⟩ := h.of_ok
  cases same
  exact related

end Except.Agree

namespace Rowwise

open Eval

variable {α β γ : Type} {R : Congruence}

/-! ## Computations -/

namespace Eval

variable {c c' : Eval α}

/-- A relation between computations that holds of the steps of the evaluator, and of two sequences
if it holds of their parts. -/
structure Congruence where
  rel {α : Type} : Eval α → Eval α → Prop
  pure {α : Type} (a : α) : rel (Pure.pure a) (Pure.pure a)
  throw {α : Type} (e : EvalError) : rel (throwThe EvalError e : Eval α) (throwThe EvalError e)
  warn (message : String) : rel (Eval.warn message) (Eval.warn message)
  /-- Of the moment, only when the evaluation started is known to be the same. -/
  start {α : Type} (f : ZonedDateTime → α) :
    rel (do Pure.pure (f (← readThe Moment).start)) (do Pure.pure (f (← readThe Moment).start))
  bind {α β : Type} {c c' : Eval α} {f f' : α → Eval β} (first : rel c c')
    (next : ∀ a, rel (f a) (f' a)) : rel (c >>= f) (c' >>= f')

/-- The congruence holds of the computations. -/
def Related (R : Congruence) (c c' : Eval α) : Prop := R.rel c c'

/-- The computation is related to itself. -/
abbrev Proper (R : Congruence) (c : Eval α) : Prop := c.Related R c

theorem proper_pure (a : α) : (pure a : Eval α).Proper R := R.pure a

theorem proper_throw (e : EvalError) : (throw e : Eval α).Proper R := R.throw e

theorem proper_fail (cause : RowFailure) : (fail cause : Eval α).Proper R := proper_throw _

theorem proper_warn (message : String) : (warn message).Proper R := R.warn message

theorem proper_start (f : ZonedDateTime → α) :
    (do pure (f (← readThe Moment).start) : Eval α).Proper R := R.start f

theorem Related.bind (hc : c.Related R c') {f f' : α → Eval β} (hf : ∀ a, (f a).Related R (f' a)) :
    (c >>= f).Related R (c' >>= f') := R.bind hc hf

theorem proper_warned (message : String) (a : α) : (do warn message; pure a : Eval α).Proper R :=
  (proper_warn message).bind fun _ => proper_pure a

theorem Related.map (hc : c.Related R c') (f : α → β) : (f <$> c).Related R (f <$> c') := by
  rw [map_eq_pure_bind, map_eq_pure_bind]
  exact hc.bind fun _ => proper_pure _

theorem Related.ite {p : Prop} [Decidable p] {d d' : Eval α} (hc : c.Related R c')
    (hd : d.Related R d') : (if p then c else d).Related R (if p then c' else d') := by
  by_cases h : p
  · rw [if_pos h, if_pos h]; exact hc
  · rw [if_neg h, if_neg h]; exact hd

theorem proper_orFail (cause : RowFailure) (a : Option α) : (orFail cause a).Proper R := by
  cases a with
  | none => exact proper_fail cause
  | some a => exact proper_pure a

theorem proper_inRange (base : Base) (a : Option α) : (inRange base a).Proper R := proper_orFail _ a

end Eval

/-! ## Sources -/

namespace Source

/-- The sources are related in whether their value is missing, and in the value. -/
structure Related (R : Congruence) (s s' : Source α) : Prop where
  isMissing : s.isMissing.Related R s'.isMissing
  compute : s.compute.Related R s'.compute

variable {s s' : Source α} {a a' : Source β}

theorem present_related {c c' : Eval α} (h : c.Related R c') : (present c).Related R (present c') :=
  ⟨proper_pure false, h⟩

theorem constant_related (a : α) : (constant a).Related R (constant a) :=
  present_related (proper_pure a)

theorem missing_related : (missing : Source α).Related R missing :=
  ⟨proper_pure true, proper_throw _⟩

theorem Related.map (h : s.Related R s') (f : α → β) : (s.map f).Related R (s'.map f) :=
  ⟨h.isMissing, h.compute.map f⟩

theorem Related.tryMap (h : s.Related R s') {f : α → Eval β} (hf : ∀ x, (f x).Proper R) :
    (s.tryMap f).Related R (s'.tryMap f) := ⟨h.isMissing, h.compute.bind hf⟩

theorem Related.combine (hs : s.Related R s') (ha : a.Related R a') {f : α → β → Eval γ}
    (hf : ∀ x y, (f x y).Proper R) : (s.combine f a).Related R (s'.combine f a') where
  isMissing := hs.isMissing.bind fun _ => .ite (proper_pure true) ha.isMissing
  compute := hs.compute.bind fun x => ha.compute.bind (hf x)

theorem Related.value? (h : s.Related R s') : s.value?.Related R s'.value? :=
  h.isMissing.bind fun _ => .ite (proper_pure none) (h.compute.map some)

theorem related_optionalValue? {o o' : Option (Source α)} (h : Option.Rel (Related R) o o') :
    (optionalValue? o).Related R (optionalValue? o') := by
  cases h with
  | none => exact proper_pure none
  | some h => exact h.value?

variable {condition condition' : Source Bool} {t t' : Source α}

theorem Related.isTrue (h : condition.Related R condition') :
    condition.isTrue.Related R condition'.isTrue :=
  h.isMissing.bind fun _ => .ite (proper_pure false) h.compute

theorem Related.select (h : condition.Related R condition') (hs : s.Related R s')
    (ht : t.Related R t') : (select condition s t).Related R (select condition' s' t') where
  isMissing := h.isTrue.bind fun _ => .ite hs.isMissing ht.isMissing
  compute := h.isTrue.bind fun _ => .ite hs.compute ht.compute

theorem Related.fallback (hs : s.Related R s') (ht : t.Related R t') :
    (fallback s t).Related R (fallback s' t') where
  isMissing := hs.isMissing.bind fun _ => .ite ht.isMissing (proper_pure false)
  compute := hs.isMissing.bind fun _ => .ite ht.compute hs.compute

/-- So are the values of sources that are related one by one, read from left to right. -/
theorem related_computeAll {sources sources' : List (Source α)}
    (h : List.Forall₂ (Related R) sources sources') :
    (Builder.computeAll sources).Related R (Builder.computeAll sources') := by
  unfold Builder.computeAll
  induction h with
  | nil => exact proper_pure []
  | cons head _ ih =>
      rw [List.mapM_cons, List.mapM_cons]
      exact head.compute.bind fun _ => ih.bind fun _ => proper_pure _

end Source

/-! ## Computers -/

namespace Computer

/-- The computers have one kind, and sources that are related. -/
inductive Related (R : Congruence) : Computer → Computer → Prop where
  | missing : Related R .missing .missing
  | of {k : Kind} {s s' : Source k.Carrier} (sources : s.Related R s') :
      Related R (.of k s) (.of k s')

variable {c c' d d' : Computer}

theorem Related.base_eq (h : c.Related R c') : c.base = c'.base := by
  cases h with
  | missing => rfl
  | of => rfl

theorem Related.isMissing (h : c.Related R c') : c.isMissing.Related R c'.isMissing := by
  cases h with
  | missing => exact proper_pure true
  | of sources => exact sources.isMissing

theorem Related.value (h : c.Related R c') : c.value.Related R c'.value := by
  cases h with
  | missing => exact proper_pure _
  | of sources =>
      exact sources.isMissing.bind fun _ => .ite (proper_pure _) (sources.compute.map _)

theorem Related.textSource (h : c.Related R c') : c.textSource.Related R c'.textSource :=
  Source.present_related (h.value.map _)

theorem related_anyMissing {cs cs' : List Computer} (h : List.Forall₂ (Related R) cs cs') :
    (anyMissing cs).Related R (anyMissing cs') := by
  induction h with
  | nil => exact proper_pure false
  | cons head _ ih => exact head.isMissing.bind fun _ => .ite (proper_pure true) ih

theorem constant_related (v : Value) : (constant v).Related R (constant v) := by
  cases v with
  | missing => exact .missing
  | of k a => exact .of (Source.constant_related a)

theorem missingOf_related (base : Base) : (missingOf base).Related R (missingOf base) := by
  cases base with
  | none => exact .missing
  | some k => exact .of Source.missing_related

theorem Related.as (h : c.Related R c') (k : Kind) :
    Except.Agree (Source.Related R) (c.as k) (c'.as k) := by
  cases h with
  | missing => exact .ok Source.missing_related
  | @of l s s' sources =>
      by_cases same : l = k
      · subst same
        rw [as_of, as_of]
        exact .ok sources
      · simp only [Computer.as, same, dif_neg, not_false_eq_true]
        exact .error _

theorem Related.asFloat (h : c.Related R c') :
    Except.Agree (Source.Related R) c.asFloat c'.asFloat := by
  cases h with
  | missing => exact .ok Source.missing_related
  | @of k s s' sources =>
      cases k with
      | float => exact .ok sources
      | integer => exact .ok (sources.map _)
      | _ => exact .error _

theorem Related.coerce (h : c.Related R c') (target : Base) :
    Except.Agree (Related R) (c.coerce target) (c'.coerce target) := by
  unfold Computer.coerce
  -- Whether and how a computer is converted depends on its base only, and they have the same one.
  rw [h.base_eq]
  split
  · exact .ok h
  · cases h with
    | missing => exact .ok (missingOf_related target)
    | @of k s s' sources =>
        cases k with
        | integer =>
            cases target with
            | none => exact .error _
            | some l =>
                cases l with
                | float => exact .ok (.of (sources.map _))
                | _ => exact .error _
        | _ => exact .error _

theorem Related.zip {f f' : {α : Type} → Source α → Source α → Source α} (hc : c.Related R c')
    (hd : d.Related R d')
    (hf : ∀ {α : Type} {a a' b b' : Source α}, a.Related R a' → b.Related R b' →
      (f a b).Related R (f' a' b')) :
    Except.Agree (Related R) (Computer.zip f c d) (Computer.zip f' c' d') := by
  cases hc with
  | missing =>
      cases hd with
      | missing => exact .ok .missing
      | of => exact .error _
  | @of k s s' hs =>
      cases hd with
      | missing => exact .error _
      | @of l t t' ht =>
          unfold Computer.zip
          dsimp only
          split
          · next same =>
              subst same
              exact .ok (.of (hf hs ht))
          · exact .error _

end Computer

namespace Source

variable {inputs inputs' : List Computer}

theorem related_propagating (h : List.Forall₂ (Computer.Related R) inputs inputs') {c c' : Eval α}
    (hc : c.Related R c') : (propagating inputs c).Related R (propagating inputs' c') :=
  ⟨Computer.related_anyMissing h, hc⟩

theorem related_partialOver (h : List.Forall₂ (Computer.Related R) inputs inputs')
    {c c' : Eval (Option α)} (hc : c.Related R c') :
    (partialOver inputs c).Related R (partialOver inputs' c') where
  isMissing := (Computer.related_anyMissing h).bind fun _ =>
    .ite (proper_pure true) (hc.bind fun _ => proper_pure _)
  -- The computation is run once for the question and once more for the value.
  compute := hc.bind fun found => by
    cases found with
    | none => exact proper_throw _
    | some a => exact proper_pure a

end Source

end Rowwise
