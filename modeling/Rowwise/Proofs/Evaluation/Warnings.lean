import Rowwise.Function
import Rowwise.Proofs.Evaluation.Answers

/-!
# Computations that warn

A log keeps every message once, up to its limit.  `Eval.Warns` says of a computation that from every
log it answers with the same value, and that its message is in the log afterwards, unless the log is
full.
-/

namespace Rowwise

variable {α β : Type} {m : Moment} {message : String}

/-- The log holds the message, or has no room for it. -/
def WarningLog.Notes (log : WarningLog) (message : String) : Prop :=
  message ∈ log.messages ∨ log.limit ≤ log.messages.length

theorem WarningLog.notes_add (log : WarningLog) (message : String) :
    (log.add message).Notes message := by
  unfold add
  split
  · exact .inl (List.mem_append_right _ (List.mem_singleton_self _))
  · next kept =>
      by_cases room : log.messages.length < log.limit
      · exact .inl (by simpa [room] using kept)
      · exact .inr (Nat.not_lt.mp room)

namespace Eval

/-- At the moment the computation answers the value, and the message is noted then. -/
def Warns (c : Eval α) (m : Moment) (message : String) (a : α) : Prop :=
  ∀ log, ∃ log', c.at_ m log = (.ok a, log') ∧ log'.Notes message

theorem warns_warn (message : String) : (warn message).Warns m message () :=
  fun log => ⟨_, rfl, log.notes_add message⟩

/-- What is computed before may leave any log. -/
theorem Answers.bind_warns {c : Eval α} {f : α → Eval β} {a : α} {b : β}
    (hc : c.Answers m (.ok a)) (hf : (f a).Warns m message b) : (c >>= f).Warns m message b := by
  intro log
  have answer := hc log
  rw [at_bind]
  rcases ends : c.at_ m log with ⟨r, log'⟩
  rw [ends] at answer
  cases answer
  exact hf log'

/-- The message stays if nothing is computed afterwards. -/
theorem Warns.bind {c : Eval α} {f : α → Eval β} {a : α} {b : β} (hc : c.Warns m message a)
    (done : f a = pure b) : (c >>= f).Warns m message b := by
  intro log
  obtain ⟨log', ends, noted⟩ := hc log
  refine ⟨log', ?_, noted⟩
  rw [at_bind, ends]
  dsimp only
  rw [done]
  rfl

end Eval

/-- A result that is not found after a warning is MISSING. -/
theorem Source.partialOver_warns {k : Kind} {inputs : List Computer}
    {compute : Eval (Option k.Carrier)}
    (asked : (Computer.anyMissing inputs).Answers m (.ok false))
    (found : compute.Warns m message none) :
    (Computer.of k (partialOver inputs compute)).value.Warns m message .missing := by
  have gone : (partialOver inputs compute).isMissing.Warns m message true :=
    asked.bind_warns (found.bind rfl)
  exact gone.bind rfl

end Rowwise
