import Rowwise.Proofs.Congruence.Hosts
import Rowwise.Proofs.Locality.Alike

/-!
# Definite computers

Two evaluations of an expression on one row find the same, whatever was recorded before them: every
row is alike to itself.  So a run of a computation tells what it answers in general
(`Eval.Definite.answers_at`), and an answer of a computation that is put together of others comes
from answers of these (`Eval.Definite.of_bind`).

Being alike on the same row is a congruence, so that everything that a table and flow variables
serve is definite (`Table.definite_host`), and so is a computer that is built over such a host if
the functions that are called keep it (`Expr.Untyped.definite_build`).
-/

namespace Rowwise

open Eval

variable {α β : Type} {m : Moment}

/-! ## Definite computations -/

namespace Eval

/-- At every moment the computation has one answer, whatever was recorded before. -/
abbrev Definite (c : Eval α) : Prop := c.Blind Eq

variable {c : Eval α} {f : α → Eval β}

theorem Definite.answers (h : c.Definite) (m : Moment) : ∃ r, c.Answers m r := by
  obtain ⟨r, answer, _⟩ := h.answer m.row m.row rfl m.start
  exact ⟨r, answer⟩

/-- One run shows the answer. -/
theorem Definite.answers_at (h : c.Definite) {log : WarningLog} {r : Except EvalError α}
    (run : (c.at_ m log).1 = r) : c.Answers m r := by
  obtain ⟨r', answer⟩ := h.answers m
  rw [← run, answer log]
  exact answer

/-- What is found by two steps is found from what the first one finds. -/
theorem Definite.of_bind (hc : c.Definite) (hf : ∀ a, (f a).Definite) {b : β}
    (h : (c >>= f).Answers m (.ok b)) : ∃ a, c.Answers m (.ok a) ∧ (f a).Answers m (.ok b) := by
  obtain ⟨_ | a, first⟩ := hc.answers m
  · cases h.unique (first.bind_error f)
  · obtain ⟨r, second⟩ := (hf a).answers m
    cases h.unique (first.bind second)
    exact ⟨a, first, second⟩

theorem Definite.of_map (hc : c.Definite) {g : α → β} {b : β}
    (h : (g <$> c).Answers m (.ok b)) : ∃ a, c.Answers m (.ok a) ∧ b = g a := by
  rw [map_eq_pure_bind] at h
  obtain ⟨a, first, second⟩ := hc.of_bind (fun _ => blind_pure _) h
  cases second.unique (answers_pure (g a))
  exact ⟨a, first, rfl⟩

end Eval

namespace Computer

/-- Both steps of the computer are definite. -/
abbrev Definite (c : Computer) : Prop := c.Alike Eq c

end Computer

/-! ## Hosts -/

/-- All computers that the host serves are definite. -/
structure Host.Definite (host : Host) : Prop where
  column : ∀ ref c, host.column ref = some c → c.Definite
  flowVariable : ∀ name c, host.flowVariable name = some c → c.Definite
  aggregation : ∀ e c, host.aggregation e = some c → c.Definite

theorem Host.proper_along {host : Host} : host.Proper (along Eq) ↔ host.Definite := by
  constructor
  · intro h
    exact ⟨fun ref c served => Computer.related_along.mp (h.column ref c served),
      fun name c served => Computer.related_along.mp (h.flowVariable name c served),
      fun e c served => Computer.related_along.mp (h.aggregation e c served)⟩
  · intro h
    exact ⟨fun ref c served => Computer.related_along.mpr (h.column ref c served),
      fun name c served => Computer.related_along.mpr (h.flowVariable name c served),
      fun e c served => Computer.related_along.mpr (h.aggregation e c served)⟩

/-- What tables and flow variables serve is definite. -/
theorem Table.definite_host (t : Table) (vars : FlowVariables) : (t.host vars).Definite := by
  apply Host.proper_along.mp
  apply Table.proper_host
  intro base read
  exact Computer.related_along.mpr (Computer.ofCells_alike base fun _ _ same => congrArg read same)

/-- What is built for a tree that was parsed is definite. -/
theorem Expr.Untyped.definite_build {ctx : TypingContext} {host : Host} {e : Expr} {c : Computer}
    (untyped : e.Untyped) (definite : host.Definite)
    (registry : ∀ name f, ctx.functions.get? name = some f → f.Proper (along Eq))
    (built : (e.infer ctx).1.build host = .ok c) : c.Definite :=
  Computer.related_along.mp
    (untyped.proper_build (Host.proper_along.mpr definite) registry built)

end Rowwise
