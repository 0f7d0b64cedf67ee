import Rowwise.Functions.Control
import Rowwise.Functions.Rounding
import Rowwise.Functions.Summary
import Rowwise.Functions.Trigonometry
import Rowwise.Functions.Distribution
import Rowwise.Functions.Editing
import Rowwise.Functions.CalendarText
import Rowwise.Functions.CalendarArithmetic

/-!
# The library of built-in functions
-/

namespace Rowwise.Functions

/-- All built-in functions, in the order in which they are listed. -/
def builtIns : List Function :=
  control ++ arithmetic ++ rounding ++ summaries ++ trigonometry ++ distributions ++
    layout ++ conversions ++ matching ++ slicing ++ editing ++
    making ++ current ++ extraction ++ parsing ++ formatting ++ calendarArithmetic

/-- The library of built-in functions. -/
def library : Library Function := .ofList Function.name builtIns

end Rowwise.Functions
