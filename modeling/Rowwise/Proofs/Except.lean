import Mathlib.Data.List.Forall2

/-!
# Programs that may fail

What can be said of the parts of a program when the whole of it has succeeded: every step that was
reached has, and a fold of steps ends where each of them keeps to.
-/

namespace Except

variable {ε α β σ : Type}

theorem ok_bind (a : α) (f : α → Except ε β) : (Except.ok a >>= f) = f a := rfl

/-- A sequence that succeeds does so in both parts. -/
theorem bind_ok {x : Except ε α} {f : α → Except ε β} {b : β} (h : x >>= f = .ok b) :
    ∃ a, x = .ok a ∧ f a = .ok b := by
  cases x with
  | error e => cases h
  | ok a => exact ⟨a, rfl, h⟩

/-- An invariant of all steps is one of their fold. -/
theorem foldlM_invariant {f : σ → α → Except ε σ} {I : σ → Prop} {as : List α} {s s' : σ}
    (h : as.foldlM f s = .ok s') (step : ∀ a ∈ as, ∀ t t', I t → f t a = .ok t' → I t')
    (start : I s) : I s' := by
  induction as generalizing s with
  | nil =>
      cases h
      exact start
  | cons a as ih =>
      rw [List.foldlM_cons] at h
      obtain ⟨t, ha, hrest⟩ := bind_ok h
      exact ih hrest (fun b hb => step b (.tail _ hb)) (step a (.head _) s t start ha)

/-- A function that succeeds on all elements succeeds on the list. -/
theorem mapM_ok {f : α → Except ε β} {g : α → β} {as : List α} (h : ∀ a ∈ as, f a = .ok (g a)) :
    as.mapM f = .ok (as.map g) := by
  induction as with
  | nil => rfl
  | cons a as ih =>
      rw [List.mapM_cons, h a (.head _), ih fun b hb => h b (.tail _ hb)]
      rfl

/-- What a function finds for every element, it finds for all elements of the list. -/
theorem mapM_all (as : List α) (f : α → Except ε β) (P : β → Prop)
    (h : ∀ a ∈ as, ∃ b, f a = .ok b ∧ P b) : ∃ bs, as.mapM f = .ok bs ∧ ∀ b ∈ bs, P b := by
  induction as with
  | nil => exact ⟨[], rfl, fun b hb => absurd hb List.not_mem_nil⟩
  | cons a as ih =>
      obtain ⟨b, hb, hP⟩ := h a (.head _)
      obtain ⟨bs, hbs, all⟩ := ih fun c hc => h c (.tail _ hc)
      refine ⟨b :: bs, ?_, List.forall_mem_cons.mpr ⟨hP, all⟩⟩
      rw [List.mapM_cons, hb, hbs]
      rfl

/-- A traversal that succeeds does so at every element. -/
theorem mapM_forall₂ {f : α → Except ε β} {as : List α} {bs : List β} (h : as.mapM f = .ok bs) :
    List.Forall₂ (fun a b => f a = .ok b) as bs := by
  induction as generalizing bs with
  | nil =>
      cases h
      exact .nil
  | cons a as ih =>
      rw [List.mapM_cons] at h
      obtain ⟨b, hb, h⟩ := bind_ok h
      obtain ⟨rest, hrest, h⟩ := bind_ok h
      cases h
      exact .cons hb (ih hrest)

/-! ## What results have in common -/

/-- What the program ends with has the property, unless it fails. -/
def Ensures (P : α → Prop) (x : Except ε α) : Prop := ∀ a, x = .ok a → P a

namespace Ensures

variable {P : α → Prop} {Q : β → Prop} {x : Except ε α}

theorem ok {a : α} (h : P a) : Ensures P (.ok a : Except ε α) := by
  intro b same
  cases same
  exact h

theorem error (e : ε) : Ensures P (.error e : Except ε α) := fun _ h => nomatch h

theorem bind (h : Ensures P x) {f : α → Except ε β} (hf : ∀ a, P a → Ensures Q (f a)) :
    Ensures Q (x >>= f) := by
  intro b built
  obtain ⟨a, first, rest⟩ := bind_ok built
  exact hf a (h a first) b rest

/-- The same where nothing has to be known of what the first part ends with. -/
theorem after (x : Except ε α) {f : α → Except ε β} (hf : ∀ a, Ensures Q (f a)) :
    Ensures Q (x >>= f) :=
  bind (P := fun _ => True) (fun _ _ => trivial) fun a _ => hf a

theorem mapM {f : α → Except ε β} {as : List α} (h : ∀ a ∈ as, Ensures Q (f a)) :
    Ensures (fun bs => ∀ b ∈ bs, Q b) (as.mapM f) := by
  induction as with
  | nil => exact ok fun b hb => absurd hb List.not_mem_nil
  | cons a as ih =>
      rw [List.mapM_cons]
      refine (h a (.head _)).bind fun b hb => ?_
      refine (ih fun c hc => h c (.tail _ hc)).bind fun bs hbs => ok ?_
      exact List.forall_mem_cons.mpr ⟨hb, hbs⟩

end Ensures

end Except
