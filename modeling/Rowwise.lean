import Rowwise.Aggregation
import Rowwise.Calendar.Date
import Rowwise.Calendar.DateTime
import Rowwise.Calendar.Designators
import Rowwise.Calendar.Duration
import Rowwise.Calendar.Pattern
import Rowwise.Calendar.PatternReader
import Rowwise.Calendar.PatternText
import Rowwise.Calendar.Period
import Rowwise.Calendar.StandardForm
import Rowwise.Calendar.TimeOfDay
import Rowwise.Computer
import Rowwise.Decimal.Digits
import Rowwise.Decimal.FloatText
import Rowwise.Decimal.Rounding
import Rowwise.Decimal.Shortest
import Rowwise.Diagnostics
import Rowwise.Eval
import Rowwise.EvalError
import Rowwise.Evaluation.Build
import Rowwise.Evaluation.Operators
import Rowwise.Expr.Basic
import Rowwise.Expr.Parser
import Rowwise.Expr.Printer
import Rowwise.Expr.Reader
import Rowwise.FloatMath
import Rowwise.Function
import Rowwise.Functions.Arithmetic
import Rowwise.Functions.Builder
import Rowwise.Functions.BuiltIn
import Rowwise.Functions.CalendarArithmetic
import Rowwise.Functions.CalendarParts
import Rowwise.Functions.CalendarText
import Rowwise.Functions.Control
import Rowwise.Functions.Distribution
import Rowwise.Functions.Editing
import Rowwise.Functions.Matching
import Rowwise.Functions.Rounding
import Rowwise.Functions.Summary
import Rowwise.Functions.Text
import Rowwise.Functions.Trigonometry
import Rowwise.Integer
import Rowwise.Named
import Rowwise.Proofs.Aggregation
import Rowwise.Proofs.Aggregations.Extremes
import Rowwise.Proofs.Aggregations.Medians
import Rowwise.Proofs.Aggregations.Sums
import Rowwise.Proofs.Calendar.DateText
import Rowwise.Proofs.Calendar.DayNumbers
import Rowwise.Proofs.Calendar.Designators
import Rowwise.Proofs.Calendar.Distances
import Rowwise.Proofs.Calendar.DurationArithmetic
import Rowwise.Proofs.Calendar.DurationReading
import Rowwise.Proofs.Calendar.DurationText
import Rowwise.Proofs.Calendar.TimeText
import Rowwise.Proofs.Calendar.ZoneTexts
import Rowwise.Proofs.Calendar.ZonedText
import Rowwise.Proofs.Congruence.Basic
import Rowwise.Proofs.Congruence.Builders
import Rowwise.Proofs.Congruence.Calendar
import Rowwise.Proofs.Congruence.Choice
import Rowwise.Proofs.Congruence.Expressions
import Rowwise.Proofs.Congruence.Hosts
import Rowwise.Proofs.Congruence.Numbers
import Rowwise.Proofs.Congruence.Strings
import Rowwise.Proofs.Decimal
import Rowwise.Proofs.Decimal.FloatText
import Rowwise.Proofs.Decimal.Magnitudes
import Rowwise.Proofs.Decimal.Packing
import Rowwise.Proofs.Decimal.Places
import Rowwise.Proofs.Decimal.Rounding
import Rowwise.Proofs.Decimal.Scientific
import Rowwise.Proofs.Decimal.Shortest
import Rowwise.Proofs.Evaluation.Absence
import Rowwise.Proofs.Evaluation.Agreement
import Rowwise.Proofs.Evaluation.Answers
import Rowwise.Proofs.Evaluation.Computers
import Rowwise.Proofs.Evaluation.Meaning
import Rowwise.Proofs.Evaluation.OperatorSoundness
import Rowwise.Proofs.Evaluation.Recording
import Rowwise.Proofs.Evaluation.Refinement
import Rowwise.Proofs.Evaluation.Soundness
import Rowwise.Proofs.Evaluation.Sources
import Rowwise.Proofs.Evaluation.Warnings
import Rowwise.Proofs.Except
import Rowwise.Proofs.Functions.Absence
import Rowwise.Proofs.Functions.AbsentOperands
import Rowwise.Proofs.Functions.Arguments
import Rowwise.Proofs.Functions.Binomials
import Rowwise.Proofs.Functions.BuiltIns
import Rowwise.Proofs.Functions.Calendar
import Rowwise.Proofs.Functions.CalendarTexts
import Rowwise.Proofs.Functions.Choice
import Rowwise.Proofs.Functions.ConditionalForms
import Rowwise.Proofs.Functions.ConditionalTypes
import Rowwise.Proofs.Functions.Conversions
import Rowwise.Proofs.Functions.DateDistances
import Rowwise.Proofs.Functions.Durations
import Rowwise.Proofs.Functions.Extremes
import Rowwise.Proofs.Functions.LikePatterns
import Rowwise.Proofs.Functions.Numbers
import Rowwise.Proofs.Functions.Outcomes
import Rowwise.Proofs.Functions.PositionalCalls
import Rowwise.Proofs.Functions.Positions
import Rowwise.Proofs.Functions.Powers
import Rowwise.Proofs.Functions.Searches
import Rowwise.Proofs.Functions.Strings
import Rowwise.Proofs.Functions.Zones
import Rowwise.Proofs.Locality.Alike
import Rowwise.Proofs.Locality.Definite
import Rowwise.Proofs.Numbers.Binomials
import Rowwise.Proofs.Numbers.Comparison
import Rowwise.Proofs.Numbers.FloatOrder
import Rowwise.Proofs.Numbers.FloatSums
import Rowwise.Proofs.Numbers.Powers
import Rowwise.Proofs.Numbers.Truncation
import Rowwise.Proofs.Numbers.Widening
import Rowwise.Proofs.Numbers.Words
import Rowwise.Proofs.Parsing.Ends
import Rowwise.Proofs.Parsing.Finds
import Rowwise.Proofs.Parsing.Forward
import Rowwise.Proofs.Parsing.Levels
import Rowwise.Proofs.Parsing.Literals
import Rowwise.Proofs.Parsing.Operators
import Rowwise.Proofs.Parsing.Primaries
import Rowwise.Proofs.Parsing.Printed
import Rowwise.Proofs.Parsing.Printing
import Rowwise.Proofs.Parsing.Rendering
import Rowwise.Proofs.Parsing.Spans
import Rowwise.Proofs.Parsing.Tokens
import Rowwise.Proofs.Runner
import Rowwise.Proofs.Runs.EarlyReads
import Rowwise.Proofs.Runs.EditorChecks
import Rowwise.Proofs.Runs.Locality
import Rowwise.Proofs.Runs.Outputs
import Rowwise.Proofs.Runs.Taint
import Rowwise.Proofs.Runs.VariableChecks
import Rowwise.Proofs.Table
import Rowwise.Proofs.Tables.Contract
import Rowwise.Proofs.Text.Like
import Rowwise.Proofs.Text.Searching
import Rowwise.Proofs.Typing.Assignment
import Rowwise.Proofs.Typing.Binding
import Rowwise.Proofs.Typing.Complaints
import Rowwise.Proofs.Typing.Dependencies
import Rowwise.Proofs.Typing.History
import Rowwise.Proofs.Typing.Inference
import Rowwise.Proofs.Typing.Joins
import Rowwise.Proofs.Typing.Optionality
import Rowwise.Proofs.Typing.Reports
import Rowwise.Proofs.Typing.Signatures
import Rowwise.Proofs.Typing.Structure
import Rowwise.Proofs.Typing.Supertypes
import Rowwise.Proofs.Typing.WellTyped
import Rowwise.Regex
import Rowwise.Regex.Expression
import Rowwise.Regex.FixedText
import Rowwise.Regex.Footprint
import Rowwise.Regex.NamedSet
import Rowwise.Regex.Pattern
import Rowwise.Regex.Program
import Rowwise.Regex.Reader
import Rowwise.Regex.Resolve
import Rowwise.Regex.Search
import Rowwise.Runner
import Rowwise.Signature
import Rowwise.Table
import Rowwise.Text.AgeTable
import Rowwise.Text.Blank
import Rowwise.Text.Break
import Rowwise.Text.Case
import Rowwise.Text.CaseTable
import Rowwise.Text.Category
import Rowwise.Text.CategoryTable
import Rowwise.Text.CharRule
import Rowwise.Text.CharSet
import Rowwise.Text.CodeRun
import Rowwise.Text.Like
import Rowwise.Text.Property
import Rowwise.Text.PropertyTable
import Rowwise.Text.ScriptExtensionTable
import Rowwise.Text.ScriptTable
import Rowwise.Text.Search
import Rowwise.Text.Similarity
import Rowwise.Text.Utf8
import Rowwise.Text.WordTable
import Rowwise.Typing.Infer
import Rowwise.Typing.Operators
import Rowwise.Value
import Rowwise.ValueType
