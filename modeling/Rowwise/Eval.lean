import Rowwise.EvalError
import Rowwise.Calendar.DateTime

/-!
# Evaluation

Reading a value is a computation in `Eval`: it knows the current row and the moment at which the
evaluation started, may record warnings, and may fail.  Warnings recorded before a failure stay.

`WarningLog` keeps distinct warnings in the order of their first occurrence, up to a limit.
-/

namespace Rowwise

/-- Distinct warnings in the order of their first occurrence. -/
structure WarningLog where
  limit : Nat := 100
  messages : List String := []
  deriving DecidableEq

/-- Records a warning, unless it is known already or the log is full. -/
def WarningLog.add (log : WarningLog) (message : String) : WarningLog :=
  if log.messages.length < log.limit && !log.messages.contains message then
    { log with messages := log.messages ++ [message] }
  else log

/-- Empties the log and gives out what it held. -/
def WarningLog.take (log : WarningLog) : List String × WarningLog :=
  (log.messages, { log with messages := [] })

/-- What stays the same while a value is read: the row, and when the evaluation started. -/
structure Moment where
  row : Nat
  start : ZonedDateTime

/-- Computations that read a row, record warnings and may fail. -/
abbrev Eval := ReaderT Moment (ExceptT EvalError (StateM WarningLog))

namespace Eval

/-- Runs a computation at a moment, starting from a log. -/
def at_ {α : Type} (c : Eval α) (moment : Moment) (log : WarningLog) :
    Except EvalError α × WarningLog :=
  c moment log

/-- Records a warning. -/
def warn (message : String) : Eval Unit :=
  modifyGetThe WarningLog fun log => ((), log.add message)

/-- Fails for a reason that lies in the row. -/
def fail {α : Type} (cause : RowFailure) : Eval α := throw (.failure cause)

/-- The value, or a failure if there is none. -/
def orFail {α : Type} (cause : RowFailure) : Option α → Eval α
  | some a => pure a
  | none => fail cause

/-- The value, or the failure that an operation was out of range. -/
def inRange {α : Type} (base : Base) (a : Option α) : Eval α := orFail (.outOfRange base) a

/-- Records that `function` returned `result` for some reason. -/
def warnResult (function result reason : String) : Eval Unit :=
  warn s!"{function} returned {result} because {reason}."

end Eval

end Rowwise
