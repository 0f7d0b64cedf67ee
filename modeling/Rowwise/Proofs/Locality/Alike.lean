import Rowwise.Proofs.Congruence.Basic

/-!
# Computations that answer alike

Take two evaluations that started at one moment, and a relation `P` between the rows of the one and
the rows of the other.  Two computations are *alike* along `P` if on related rows they have an
answer in common, whatever warnings were recorded before: `Eval.Alike`.  A computation that is
alike to itself is *blind*: it does not tell related rows apart.

Being alike is a congruence (`Eval.along`), so that alike parts make alike wholes.  What is known of
sources and computers that are related by it is read here as being alike.  Computers over cells are
alike if related rows have the same cells.
-/

namespace Rowwise

open Eval

variable {α β : Type} {P : Nat → Nat → Prop}

/-! ## Computations -/

namespace Eval

variable {c c' : Eval α}

/-- On related rows of evaluations that started at one moment, the computations have an answer in
common. -/
structure Alike (P : Nat → Nat → Prop) (c c' : Eval α) : Prop where
  answer : ∀ i j, P i j → ∀ start, ∃ r, c.Answers ⟨i, start⟩ r ∧ c'.Answers ⟨j, start⟩ r

/-- The computation does not tell related rows apart. -/
abbrev Blind (P : Nat → Nat → Prop) (c : Eval α) : Prop := c.Alike P c

/-- Of the moment, only the row may differ. -/
theorem alike_moment {f f' : Moment → Eval α}
    (h : ∀ i j, P i j → ∀ start, (f ⟨i, start⟩).Alike P (f' ⟨j, start⟩)) :
    (readThe Moment >>= f).Alike P (readThe Moment >>= f') where
  answer i j related start := by
    obtain ⟨r, answer, answer'⟩ := (h i j related start).answer i j related start
    exact ⟨r, answers_moment.bind answer, answers_moment.bind answer'⟩

theorem blind_pure (a : α) : (pure a : Eval α).Blind P where
  answer _ _ _ _ := ⟨_, answers_pure a, answers_pure a⟩

theorem blind_throw (e : EvalError) : (throw e : Eval α).Blind P where
  answer _ _ _ _ := ⟨_, answers_throw e, answers_throw e⟩

theorem Alike.bind (hc : c.Alike P c') {f f' : α → Eval β} (hf : ∀ a, (f a).Alike P (f' a)) :
    (c >>= f).Alike P (c' >>= f') := by
  constructor
  intro i j related start
  obtain ⟨_ | a, answer, answer'⟩ := hc.answer i j related start
  -- Where the first parts fail, they do so for one reason, and neither goes on.
  · exact ⟨_, answer.bind_error f, answer'.bind_error f'⟩
  · obtain ⟨r, result, result'⟩ := (hf a).answer i j related start
    exact ⟨r, answer.bind result, answer'.bind result'⟩

/-- Computations that are alike along a relation between rows. -/
def along (P : Nat → Nat → Prop) : Congruence where
  rel := Alike P
  pure := blind_pure
  throw := blind_throw
  warn message := ⟨fun _ _ _ _ => ⟨_, answers_warn message, answers_warn message⟩⟩
  start f := alike_moment fun _ _ _ start => blind_pure (f start)
  bind hc hf := hc.bind hf

theorem related_along : Related (along P) c c' ↔ c.Alike P c' := .rfl

theorem Alike.map (hc : c.Alike P c') (f : α → β) : (f <$> c).Alike P (f <$> c') :=
  Related.map (related_along.mpr hc) f

theorem Alike.ite {p : Prop} [Decidable p] {d d' : Eval α} (hc : c.Alike P c')
    (hd : d.Alike P d') : (if p then c else d).Alike P (if p then c' else d') :=
  Related.ite (related_along.mpr hc) (related_along.mpr hd)

end Eval

/-! ## Sources -/

namespace Source

/-- The sources are alike in whether their value is missing, and in the value. -/
structure Alike (P : Nat → Nat → Prop) (s s' : Source α) : Prop where
  isMissing : s.isMissing.Alike P s'.isMissing
  compute : s.compute.Alike P s'.compute

variable {s s' t t' : Source α} {condition condition' : Source Bool}

theorem related_along : Related (along P) s s' ↔ s.Alike P s' :=
  ⟨fun h => ⟨h.isMissing, h.compute⟩, fun h => ⟨h.isMissing, h.compute⟩⟩

theorem Alike.isTrue (h : condition.Alike P condition') :
    condition.isTrue.Alike P condition'.isTrue :=
  (related_along.mpr h).isTrue

theorem Alike.select (h : condition.Alike P condition') (hs : s.Alike P s') (ht : t.Alike P t') :
    (select condition s t).Alike P (select condition' s' t') :=
  related_along.mp ((related_along.mpr h).select (related_along.mpr hs) (related_along.mpr ht))

end Source

/-! ## Computers -/

namespace Computer

/-- The computers have one kind, and sources that are alike. -/
inductive Alike (P : Nat → Nat → Prop) : Computer → Computer → Prop where
  | missing : Alike P .missing .missing
  | of {k : Kind} {s s' : Source k.Carrier} (sources : s.Alike P s') : Alike P (.of k s) (.of k s')

variable {c c' d d' : Computer}

theorem related_along : Related (along P) c c' ↔ c.Alike P c' := by
  constructor
  · rintro (_ | related)
    · exact .missing
    · exact .of (Source.related_along.mp related)
  · rintro (_ | alike)
    · exact .missing
    · exact .of (Source.related_along.mpr alike)

theorem Alike.base_eq (h : c.Alike P c') : c.base = c'.base := (related_along.mpr h).base_eq

theorem Alike.isMissing (h : c.Alike P c') : c.isMissing.Alike P c'.isMissing :=
  (related_along.mpr h).isMissing

theorem Alike.value (h : c.Alike P c') : c.value.Alike P c'.value := (related_along.mpr h).value

/-- Computers over cells are alike if related rows have the same cells. -/
theorem ofCells_alike (base : Base) {read read' : Nat → Value}
    (h : ∀ i j, P i j → read i = read' j) :
    (ofCells base read).Alike P (ofCells base read') := by
  cases base with
  | none => exact .missing
  | some k =>
      refine .of ⟨alike_moment fun i j related _ => ?_, alike_moment fun i j related _ => ?_⟩
      · dsimp only
        rw [h i j related]
        exact blind_pure _
      · dsimp only
        rw [h i j related]
        cases readCell k (read' j) with
        | none => exact blind_throw _
        | some v => exact blind_pure v

theorem Alike.as (h : c.Alike P c') (k : Kind) :
    Except.Agree (Source.Alike P) (c.as k) (c'.as k) :=
  ((related_along.mpr h).as k).imp fun _ _ => Source.related_along.mp

theorem Alike.coerce (h : c.Alike P c') (target : Base) :
    Except.Agree (Alike P) (c.coerce target) (c'.coerce target) :=
  ((related_along.mpr h).coerce target).imp fun _ _ => related_along.mp

theorem Alike.zip {f f' : {α : Type} → Source α → Source α → Source α} (hc : c.Alike P c')
    (hd : d.Alike P d')
    (hf : ∀ {α : Type} {a a' b b' : Source α}, a.Alike P a' → b.Alike P b' →
      (f a b).Alike P (f' a' b')) :
    Except.Agree (Alike P) (Computer.zip f c d) (Computer.zip f' c' d') := by
  have parts {α : Type} {a a' b b' : Source α} (ha : a.Related (along P) a')
      (hb : b.Related (along P) b') : (f a b).Related (along P) (f' a' b') :=
    Source.related_along.mpr (hf (Source.related_along.mp ha) (Source.related_along.mp hb))
  exact ((related_along.mpr hc).zip (related_along.mpr hd) parts).imp fun _ _ => related_along.mp

end Computer

end Rowwise
