import Mathlib.Data.List.Induction
import Rowwise.Proofs.Congruence.Choice
import Rowwise.Proofs.Congruence.Hosts
import Rowwise.Proofs.Evaluation.Warnings
import Rowwise.Runner

/-!
# Recording warnings again

A log is a bounded set in order.  Whatever is submitted to an empty one, it holds the distinct
messages in the order of their first occurrence, cut to the limit (`WarningLog.messages_addAll`).
What was cut is not remembered, which does no harm: a log only forgets a message if it is full, and
then takes no message at all.  So a message that was submitted once is *noted*, and submitting it
again changes nothing (`WarningLog.addAll_of_notes`).

A computation *records* messages if from every log it ends with one result and submits these
messages in order.  That is a congruence (`Eval.recording`), and computers over cells keep to it.
By what is known of every congruence, so does everything that is built over tables for an
expression.  Each step of such a computer submits the same messages whenever it is taken on one row,
so that a step that was taken before leaves the log as it is (`Computer.Proper.logAfter_again`).
-/

namespace Rowwise

open Eval

/-! ## Submitting messages -/

namespace WarningLog

variable {log : WarningLog} {message other : String} {messages again : List String}

/-- The log after messages were submitted one after the other. -/
def addAll (log : WarningLog) (messages : List String) : WarningLog := messages.foldl add log

theorem addAll_append (log : WarningLog) (messages again : List String) :
    log.addAll (messages ++ again) = (log.addAll messages).addAll again := List.foldl_append

@[simp] theorem limit_add (log : WarningLog) (message : String) :
    (log.add message).limit = log.limit := by
  unfold add
  split <;> rfl

theorem limit_addAll (log : WarningLog) (messages : List String) :
    (log.addAll messages).limit = log.limit := by
  induction messages generalizing log with
  | nil => rfl
  | cons message rest ih => exact (ih _).trans (log.limit_add message)

/-- A message that is noted is not recorded again. -/
theorem Notes.add_eq (h : log.Notes message) : log.add message = log := by
  apply if_neg
  rw [Bool.and_eq_true, not_and]
  intro room
  obtain known | full := h
  · simpa using known
  · exact absurd (of_decide_eq_true room) (Nat.not_lt.mpr full)

/-- Messages stay noted: none is taken out, and a full log stays full. -/
theorem Notes.add (h : log.Notes message) (other : String) : (log.add other).Notes message := by
  unfold WarningLog.add
  split
  · obtain known | full := h
    · exact .inl (List.mem_append_left _ known)
    · exact .inr (Nat.le_trans full (by simp))
  · exact h

theorem Notes.addAll (h : log.Notes message) (messages : List String) :
    (log.addAll messages).Notes message := by
  induction messages generalizing log with
  | nil => exact h
  | cons other rest ih => exact ih (h.add other)

/-- Every message that was submitted is noted. -/
theorem notes_addAll (h : message ∈ messages) : (log.addAll messages).Notes message := by
  obtain ⟨before, after, rfl⟩ := List.append_of_mem h
  rw [addAll_append]
  exact ((log.addAll before).notes_add message).addAll after

/-- Messages that are noted are not recorded again. -/
theorem addAll_of_notes (h : ∀ message ∈ messages, log.Notes message) :
    log.addAll messages = log := by
  induction messages with
  | nil => rfl
  | cons message rest ih =>
      obtain ⟨noted, others⟩ := List.forall_mem_cons.mp h
      calc log.addAll (message :: rest) = (log.add message).addAll rest := rfl
        _ = log.addAll rest := by rw [noted.add_eq]
        _ = log := ih others

/-- Messages of which all were submitted before are not recorded again. -/
theorem addAll_again (h : again ⊆ messages) :
    (log.addAll messages).addAll again = log.addAll messages :=
  addAll_of_notes fun _ member => notes_addAll (h member)

/-- If a log holds the first distinct ones of some messages, it does so with one message more. -/
theorem messages_add (h : log.messages = messages.eraseDups.take log.limit) (message : String) :
    (log.add message).messages = (messages ++ [message]).eraseDups.take log.limit := by
  rw [List.eraseDups_append]
  by_cases full : log.limit ≤ messages.eraseDups.length
  · -- The log takes no message any more, and no message behind these counts.
    have length : log.messages.length = log.limit := by rw [h, List.length_take_of_le full]
    have noted : log.Notes message := .inr (Nat.le_of_eq length.symm)
    rw [noted.add_eq, h, List.take_append_of_le_length full]
  have whole : log.messages = messages.eraseDups := by
    rw [h, List.take_of_length_le (Nat.le_of_not_le full)]
  by_cases known : message ∈ messages
  · have noted : log.Notes message := .inl (by rw [whole, List.mem_eraseDups]; exact known)
    have nothing : ([message].removeAll messages).eraseDups = [] := by
      simp [List.removeAll, known]
    rw [noted.add_eq, h, nothing, List.append_nil]
  · have one : ([message].removeAll messages).eraseDups = [message] := by
      simp [List.removeAll, known, List.eraseDups_cons]
    have room : log.messages.length < log.limit := by
      rw [whole]
      exact Nat.not_le.mp full
    have unknown : message ∉ log.messages := by
      rw [whole, List.mem_eraseDups]
      exact known
    have taken : log.add message = { log with messages := log.messages ++ [message] } :=
      if_pos (by simp [room, unknown])
    rw [taken, one, ← whole, List.take_of_length_le]
    rw [List.length_append]
    exact room

/-- An empty log comes to hold the distinct messages in the order of their first occurrence, cut to
the limit. -/
theorem messages_addAll (limit : Nat) (messages : List String) :
    ((⟨limit, []⟩ : WarningLog).addAll messages).messages = messages.eraseDups.take limit := by
  induction messages using List.reverseRecOn with
  | nil => simp [addAll]
  | append_singleton before message ih =>
      have bound := limit_addAll ⟨limit, []⟩ before
      rw [addAll_append]
      calc (((⟨limit, []⟩ : WarningLog).addAll before).add message).messages
          = (before ++ [message]).eraseDups.take (addAll ⟨limit, []⟩ before).limit :=
            messages_add (ih.trans (by rw [bound])) message
        _ = (before ++ [message]).eraseDups.take limit := by rw [bound]

end WarningLog

/-! ## Computations that record -/

namespace Eval

variable {α β : Type} {m : Moment} {c : Eval α} {f : α → Eval β} {messages others : List String}

/-- At the moment the computation ends with the result and submits the messages, from every log. -/
def Records (c : Eval α) (m : Moment) (r : Except EvalError α) (messages : List String) : Prop :=
  ∀ log, c.at_ m log = (r, log.addAll messages)

theorem records_pure (a : α) : (pure a : Eval α).Records m (.ok a) [] := fun _ => rfl

theorem records_throw (e : EvalError) : (throw e : Eval α).Records m (.error e) [] := fun _ => rfl

theorem records_warn (message : String) : (warn message).Records m (.ok ()) [message] :=
  fun _ => rfl

theorem records_moment : (readThe Moment : Eval Moment).Records m (.ok m) [] := fun _ => rfl

theorem Records.bind {a : α} {r : Except EvalError β} (hc : c.Records m (.ok a) messages)
    (hf : (f a).Records m r others) : (c >>= f).Records m r (messages ++ others) := by
  intro log
  rw [at_bind, hc log, WarningLog.addAll_append]
  exact hf _

theorem Records.bind_error {e : EvalError} (hc : c.Records m (.error e) messages)
    (f : α → Eval β) : (c >>= f).Records m (.error e) messages := by
  intro log
  rw [at_bind, hc log]

/-- At every moment the computation has a result and messages that it records. -/
def Recording (c : Eval α) : Prop := ∀ m, ∃ r messages, c.Records m r messages

theorem recording_pure (a : α) : (pure a : Eval α).Recording := fun _ => ⟨_, _, records_pure a⟩

theorem recording_throw (e : EvalError) : (throw e : Eval α).Recording :=
  fun _ => ⟨_, _, records_throw e⟩

/-- What is recorded may depend on the moment. -/
theorem recording_moment {f : Moment → Eval α} (h : ∀ m, (f m).Recording) :
    (readThe Moment >>= f).Recording := by
  intro m
  obtain ⟨r, messages, records⟩ := h m m
  exact ⟨r, [] ++ messages, records_moment.bind records⟩

theorem Recording.bind (hc : c.Recording) (hf : ∀ a, (f a).Recording) : (c >>= f).Recording := by
  intro m
  obtain ⟨_ | a, messages, first⟩ := hc m
  · exact ⟨_, messages, first.bind_error f⟩
  · obtain ⟨r, others, second⟩ := hf a m
    exact ⟨r, messages ++ others, first.bind second⟩

/-- Computations that record.  Nothing is asked of the second one. -/
def recording : Congruence where
  rel c _ := c.Recording
  pure := recording_pure
  throw := recording_throw
  warn message := fun _ => ⟨_, _, records_warn message⟩
  start f := recording_moment fun m => recording_pure (f m.start)
  bind hc hf := hc.bind hf

end Eval

namespace Computer

/-- Reading a cell records nothing. -/
theorem ofCells_recording (base : Base) (read : Nat → Value) :
    (ofCells base read).Proper recording := by
  cases base with
  | none => exact .missing
  | some k =>
      refine .of ⟨recording_moment fun m => recording_pure _, recording_moment fun m => ?_⟩
      cases readCell k (read m.row) with
      | none => exact recording_throw _
      | some v => exact recording_pure v

/-! ## Steps of computers -/

/-- The questions that are put to a computer: whether its value is missing, and which one it is. -/
inductive Step where
  | isMissing
  | compute

/-- The log after a step.  The computer of `MISSING` has no value to compute. -/
def logAfter (c : Computer) (m : Moment) (log : WarningLog) : Step → WarningLog
  | .isMissing => (c.isMissing.at_ m log).2
  | .compute =>
    match c with
    | missing => log
    | of _ s => (s.compute.at_ m log).2

/-- The log after some steps at one moment. -/
def logAfterAll (c : Computer) (m : Moment) (log : WarningLog) (steps : List Step) : WarningLog :=
  steps.foldl (c.logAfter m) log

variable {c : Computer} {m : Moment}

/-- A step submits the same messages whenever it is taken. -/
theorem Proper.logAfter (h : c.Proper recording) (m : Moment) (step : Step) :
    ∃ messages, ∀ log, c.logAfter m log step = log.addAll messages := by
  have of_recording {α : Type} {d : Eval α} (records : d.Recording) :
      ∃ messages, ∀ log, (d.at_ m log).2 = log.addAll messages := by
    obtain ⟨_, messages, ends⟩ := records m
    exact ⟨messages, fun log => congrArg Prod.snd (ends log)⟩
  cases step with
  | isMissing => exact of_recording h.isMissing
  | compute =>
      cases h with
      | missing => exact ⟨[], fun _ => rfl⟩
      | of sources => exact of_recording sources.compute

/-- Steps that were taken before leave the log as it is. -/
theorem Proper.logAfter_again (h : c.Proper recording) (m : Moment) (log : WarningLog)
    {steps again : List Step} (taken : again ⊆ steps) :
    c.logAfterAll m log (steps ++ again) = c.logAfterAll m log steps := by
  choose submitted submits using h.logAfter m
  have submitsAll (log : WarningLog) (steps : List Step) :
      c.logAfterAll m log steps = log.addAll (steps.flatMap submitted) := by
    induction steps generalizing log with
    | nil => rfl
    | cons step rest ih =>
        rw [List.flatMap_cons, WarningLog.addAll_append, ← submits]
        exact ih _
  have repeated : again.flatMap submitted ⊆ steps.flatMap submitted := by
    intro message member
    obtain ⟨step, given, member⟩ := List.mem_flatMap.mp member
    exact List.mem_flatMap.mpr ⟨step, taken given, member⟩
  rw [submitsAll, submitsAll, List.flatMap_append, WarningLog.addAll_append]
  exact WarningLog.addAll_again repeated

end Computer

/-- What tables and flow variables serve records. -/
theorem Table.recording_host (t : Table) (vars : FlowVariables) :
    (t.host vars).Proper recording :=
  t.proper_host Computer.ofCells_recording vars

/-! ## Warnings as a set -/

/-- Warnings are a bounded set in order.  An empty log comes to hold the distinct messages that are
submitted, in the order of their first occurrence and cut to the limit; a log that messages are
submitted to twice is as if they were submitted once.  So every computer that is built for an
expression over a host that records, such as a table with flow variables, can be asked again what it
was asked before on one row, and nothing is added. -/
theorem WarningLog.bounded_set :
    (∀ limit messages,
      ((⟨limit, []⟩ : WarningLog).addAll messages).messages = messages.eraseDups.take limit) ∧
    (∀ (log : WarningLog) messages, log.addAll (messages ++ messages) = log.addAll messages) ∧
    (∀ (t : Table) (vars : FlowVariables), (t.host vars).Proper recording) ∧
    ∀ (ctx : TypingContext) (host : Host) (e : Expr) (c : Computer),
      ctx.functions = Functions.library → host.Proper recording → e.Untyped →
      (e.infer ctx).1.build host = .ok c →
      ∀ (m : Moment) (log : WarningLog) (steps again : List Computer.Step), again ⊆ steps →
        c.logAfterAll m log (steps ++ again) = c.logAfterAll m log steps := by
  refine ⟨messages_addAll, fun log messages => ?_, Table.recording_host, ?_⟩
  · rw [addAll_append]
    exact addAll_again (List.Subset.refl messages)
  · intro ctx host e c functions records untyped built m log steps again taken
    have registry : ∀ name f, ctx.functions.get? name = some f → f.Proper recording :=
      fun _ _ found => Functions.library_proper (functions ▸ found)
    exact (untyped.proper_build records registry built).logAfter_again m log taken

namespace Sample

/-- `$[ROW_INDEX] // 0` -/
def quotient : Expr :=
  .binary {} (.column {} .rowIndex) .floorDivide (.constant {} (.integer 0))

/-- What an expression over a table of two rows can use, and what the table serves. -/
def twoRows : TypingContext := Runner.rowContext (.ofSize 2) .empty
def twoRowsHost : Host := (Table.ofSize 2).host .empty

/-- Of three messages a log of two keeps the first ones, and the division warns once, however often
it is asked for. -/
theorem quotient_again :
    ((⟨2, []⟩ : WarningLog).addAll ["a", "b", "a", "c"]).messages = ["a", "b"] ∧
      twoRows.functions = Functions.library ∧ twoRowsHost.Proper recording ∧ quotient.Untyped ∧
      ∃ c, (quotient.infer twoRows).1.build twoRowsHost = .ok c ∧
        (c.logAfterAll ⟨1, default⟩ {} [.isMissing, .compute]).messages =
          ["INTEGER division returned 0 because divisor was 0."] ∧
        c.logAfterAll ⟨1, default⟩ {} [.isMissing, .compute, .compute, .isMissing] =
          c.logAfterAll ⟨1, default⟩ {} [.isMissing, .compute] := by
  have functions : twoRows.functions = Functions.library := rfl
  have untyped : quotient.Untyped := by simp [quotient, Expr.Untyped]
  obtain ⟨kept, _, hosts, again⟩ := WarningLog.bounded_set
  have records : twoRowsHost.Proper recording := hosts (.ofSize 2) .empty
  refine ⟨(kept 2 _).trans (by decide), functions, records, untyped, _, rfl, ?_, ?_⟩
  · decide +kernel
  · exact again twoRows twoRowsHost quotient _ functions records untyped rfl ⟨1, default⟩ {}
      [.isMissing, .compute] [.compute, .isMissing] (by simp)

end Sample

end Rowwise
