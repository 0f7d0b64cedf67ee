import Rowwise.Proofs.Calendar.Distances
import Rowwise.Proofs.Functions.Outcomes

/-!
# Distances and sums of dates

The difference of two dates is the period between them, and the sum of a date and a period is the
date to which the period leads.  So a difference that is added to the earlier date leads back to the
later one (`yields_add_difference`), although the months of both dates may have different lengths.
The function that counts complete months gives the months of the difference.
-/

namespace Rowwise

open Eval Functions

/-! ## Operators -/

section Operators

variable {ctx : TypingContext} {host : Host} {m : Moment} {x y : Expr} {d e : Date} {p : Period}

theorem Expr.yields_dateDifference (hx : x.Yields ctx host m .localDate d)
    (hy : y.Yields ctx host m .localDate e) (span : Span) :
    (Expr.binary { span } y .minus x).Yields ctx host m .dateDuration (Period.between d e) :=
  hy.binary hx (fun _ _ => rfl)
    (fun _ _ hf hg => ⟨_, rfl, hf.ends_combine hg (answers_pure (Period.between d e))⟩) span

/-- The factor of an addition changes nothing. -/
theorem Operator.shift_answers {α : Type} {output : Base} {add : Period → Option α} {a : α}
    (adds : add p = some a) : (shift output .plus add p).Answers m (.ok a) :=
  (answers_inRange (scale?_one p)).bind (answers_inRange adds)

theorem Expr.yields_addPeriod (hx : x.Yields ctx host m .localDate d)
    (hp : y.Yields ctx host m .dateDuration p) (adds : p.addTo? d = some e) (span : Span) :
    (Expr.binary { span } x .plus y).Yields ctx host m .localDate e :=
  hx.binary hp (fun _ _ => rfl)
    (fun _ _ hf hg => ⟨_, rfl, hf.ends_combine hg (Operator.shift_answers adds)⟩) span

theorem Expr.yields_add_difference (hx : x.Yields ctx host m .localDate d)
    (hy : y.Yields ctx host m .localDate e) (h : (compare d e).isLE = true) (inner outer : Span) :
    (Expr.binary { span := outer } x .plus (.binary { span := inner } y .minus x)).Yields ctx host m
      .localDate e :=
  yields_addPeriod hx (yields_dateDifference hx hy inner)
    (Period.addTo?_eq_some_iff.mpr (Period.leads_between (Date.isLE_compare_iff.mp h))) outer

end Operators

/-! ## Complete months -/

namespace Functions

theorem exists_monthsBetween : ∃ f, library.get? "months_between" = some f ∧ f.overloads =
    [⟨dateDistanceParams, distanceType .integer "date" ValueType.hasDatePart,
      dateDistance .integer fun first last => Int64.ofInt (monthsBetween first last)⟩] :=
  ⟨_, library_get? (f := calendarArithmetic[1]) (by simp [builtIns, calendarArithmetic]), rfl⟩

variable {ctx : TypingContext} {host : Host} {m : Moment} {x y : Expr} {d e : Date}

theorem yields_monthsBetween (functions : ctx.functions = library)
    (hx : x.Yields ctx host m .localDate d) (hy : y.Yields ctx host m .localDate e) (span : Span) :
    (Expr.callOf span "months_between" [x, y]).Yields ctx host m .integer
      (Int64.ofInt (Period.between d e).totalMonths) := by
  obtain ⟨f, found, only⟩ := exists_monthsBetween
  rw [← functions] at found
  refine hx.call hy found only (by decide) (fun _ _ => ⟨rfl, rfl⟩) ?_
    (fun g h holds holds' => ?_) span
  · exact fun o i => by cases o <;> cases i <;> rfl
  · refine ⟨_, holds.ends_propagating holds' ?_, fun _ => rfl⟩
    exact holds.compute.bind (holds'.compute.bind (answers_pure _))

/-- Complete months fit an INTEGER. -/
theorem toInt_ofInt_totalMonths (start finish : Date) :
    (Int64.ofInt (Period.between start finish).totalMonths).toInt =
      (Period.between start finish).totalMonths := by
  have months := (Period.monthsAndDays_bounds start finish).1
  rw [Period.totalMonths_between]
  exact Int64.toInt_ofInt_of_le (by omega) (by omega)

/-- Distances of dates are coherent with sums.  The parts of the period between two dates have the
sign of the distance, and its months are less than a year; the complete months are opposite if the
dates are exchanged; and a period that is not backward leads from the first date to the second one,
also where the difference of two expressions is added. -/
theorem dateDistances_coherent (start finish : Date) :
    ((compare start finish).isLE = true → (Period.between start finish).IsForward ∧
        (Period.between start finish).addTo? start = some finish ∧
        (Period.between start finish).Leads start finish) ∧
      ((compare finish start).isLE = true → (Period.between start finish).IsBackward) ∧
      (Period.between start finish).months.toInt.natAbs ≤ 11 ∧
      ∀ (ctx : TypingContext) (host : Host) (m : Moment) (x y : Expr) (inner outer : Span),
        ctx.functions = library → x.Yields ctx host m .localDate start →
        y.Yields ctx host m .localDate finish →
          (Expr.binary { span := inner } y .minus x).Yields ctx host m .dateDuration
            (Period.between start finish) ∧
          (∃ n n' : Int64, (Expr.callOf outer "months_between" [x, y]).Yields ctx host m .integer n ∧
            (Expr.callOf outer "months_between" [y, x]).Yields ctx host m .integer n' ∧
            n.toInt = (Period.between start finish).totalMonths ∧ n'.toInt = -n.toInt) ∧
          ((compare start finish).isLE = true →
            (Expr.binary { span := outer } x .plus (.binary { span := inner } y .minus x)).Yields
              ctx host m .localDate finish) := by
  refine ⟨fun h => ?_, fun h => ?_, Period.natAbs_months_between start finish, ?_⟩
  · have order := Date.isLE_compare_iff.mp h
    exact ⟨Period.isForward_between order,
      Period.addTo?_eq_some_iff.mpr (Period.leads_between order), Period.leads_between order⟩
  · exact Period.isBackward_between (Date.isLE_compare_iff.mp h)
  · intro ctx host m x y inner outer functions hx hy
    have back : (Int64.ofInt (Period.between finish start).totalMonths).toInt =
        -(Int64.ofInt (Period.between start finish).totalMonths).toInt := by
      rw [toInt_ofInt_totalMonths, toInt_ofInt_totalMonths, Period.totalMonths_between_swap]
    exact ⟨Expr.yields_dateDifference hx hy inner,
      ⟨_, _, yields_monthsBetween functions hx hy outer, yields_monthsBetween functions hy hx outer,
        toInt_ofInt_totalMonths start finish, back⟩,
      fun h => Expr.yields_add_difference hx hy h inner outer⟩

end Functions

namespace Sample

/-- The last day of a January, and a day of the March after it. -/
def january : Date := ⟨2024, 1, 31, by decide⟩
def march : Date := ⟨2024, 3, 30, by decide⟩

/-- Flow variables that are dates, and the built-in functions. -/
def days : TypingContext :=
  { context with
    flowVariable := fun _ => .ok (.required .localDate)
    functions := Functions.library }

/-- A host that serves these dates. -/
def dayHost : Host :=
  { Host.empty with
    flowVariable := fun name =>
      some (.constant (.of .localDate (if name = "start" then january else march))) }

/-- `$$start` and `$$end` -/
def startVariable : Expr := .flowVariable {} "start"
def endVariable : Expr := .flowVariable {} "end"

theorem startVariable_yields : startVariable.Yields days dayHost ⟨0, default⟩ .localDate january :=
  ⟨false, _, ⟨rfl, rfl⟩, Source.ends_ok_iff.mpr (Source.constant_holds january)⟩

theorem endVariable_yields : endVariable.Yields days dayHost ⟨0, default⟩ .localDate march :=
  ⟨false, _, ⟨rfl, rfl⟩, Source.ends_ok_iff.mpr (Source.constant_holds march)⟩

/-- The dates are a month and thirty days apart: the month ends on a 29 February. -/
theorem months_january_march :
    (Period.between january march).IsForward ∧
      (Expr.binary {} startVariable .plus (.binary {} endVariable .minus startVariable)).Yields days
        dayHost ⟨0, default⟩ .localDate march := by
  obtain ⟨forward, _, _, runs⟩ := Functions.dateDistances_coherent january march
  have ordered : (compare january march).isLE = true := by decide
  have functions : days.functions = Functions.library := rfl
  obtain ⟨_, _, sum⟩ := runs days dayHost ⟨0, default⟩ startVariable endVariable {} {} functions
    startVariable_yields endVariable_yields
  exact ⟨(forward ordered).1, sum ordered⟩

end Sample

end Rowwise
