import Rowwise.Functions.BuiltIn
import Rowwise.Proofs.Congruence.Calendar
import Rowwise.Proofs.Congruence.Numbers
import Rowwise.Proofs.Congruence.Strings
import Rowwise.Proofs.Functions.BuiltIns

/-!
# Functions that choose between values keep computers related

Pairs of arguments that are related make nested selections that are related.  With these two
functions all built-in ones are proper.
-/

namespace Rowwise

open Eval Functions

variable {α β : Type} {R : Congruence}

namespace Functions

/-- Lists of related elements pair up to related pairs, and a related rest. -/
theorem rel_pairUp {r : α → β → Prop} {xs : List α} {ys : List β} (h : List.Forall₂ r xs ys) :
    List.Forall₂ (fun p q => r p.1 q.1 ∧ r p.2 q.2) (pairUp xs).1 (pairUp ys).1 ∧
      Option.Rel r (pairUp xs).2 (pairUp ys).2 := by
  induction xs using pairUp.induct generalizing ys with
  | case1 =>
      cases h
      exact ⟨.nil, .none⟩
  | case2 a =>
      obtain _ | ⟨ha, _ | _⟩ := h
      exact ⟨.nil, .some ha⟩
  | case3 a b rest ih =>
      obtain _ | ⟨ha, _ | ⟨hb, hrest⟩⟩ := h
      obtain ⟨pairs, last⟩ := ih hrest
      exact ⟨.cons ⟨ha, hb⟩ pairs, last⟩

/-- The conditions are related, and so are the values. -/
def Choice.Related (R : Congruence) (p q : Source Bool × Computer) : Prop :=
  p.1.Related R q.1 ∧ p.2.Related R q.2

/-- Choices that are related lead to computers that are. -/
theorem agree_firstTrue {pairs pairs' : List (Source Bool × Computer)}
    {otherwise otherwise' : Computer} (h : List.Forall₂ (Choice.Related R) pairs pairs')
    (ho : otherwise.Related R otherwise') :
    Except.Agree (Computer.Related R) (firstTrue pairs otherwise)
      (firstTrue pairs' otherwise') := by
  induction h with
  | nil => exact .ok ho
  | cons head _ ih =>
      obtain ⟨condition, value⟩ := head
      exact ih.bind fun _ _ rest => value.zip rest fun ha hb => condition.select ha hb

theorem ifBuilder_proper : Builder.Proper R ifBuilder := by
  intro args args' type h
  obtain ⟨pairs, last⟩ := rel_pairUp (h.all "arguments")
  unfold ifBuilder
  generalize pairUp (args.all "arguments") = given,
    pairUp (args'.all "arguments") = given' at pairs last
  obtain ⟨given, rest⟩ := given
  obtain ⟨given', rest'⟩ := given'
  dsimp only at pairs last
  cases last with
  | none =>
      cases pairs with
      | nil => exact .error _
      | cons => exact .error _
  | some related =>
      refine Except.Agree.bind (r := List.Forall₂ (Choice.Related R))
        (Except.Agree.mapM pairs ?_) ?_
      · rintro p q ⟨condition, value⟩
        refine (condition.as .boolean).bind fun s s' hs => ?_
        exact (value.coerce type.base).bind fun c c' hc => .ok ⟨hs, hc⟩
      · intro chosen chosen' hchosen
        exact (related.coerce type.base).bind fun c c' hc => agree_firstTrue hchosen hc

theorem matchesCase_related {value value' case case' : Computer} (hv : value.Related R value')
    (hc : case.Related R case') :
    (matchesCase value case).Related R (matchesCase value' case') := by
  refine Source.present_related (hv.isMissing.bind fun _ => .ite (proper_pure false) ?_)
  refine hc.isMissing.bind fun _ => .ite (proper_pure false) ?_
  exact hv.value.bind fun _ => hc.value.bind fun _ => proper_pure _

theorem switchBuilder_proper : Builder.Proper R switchBuilder := by
  intro args args' type h
  refine (h.required "value").bind fun value value' hv => ?_
  obtain ⟨pairs, last⟩ := rel_pairUp (h.all "cases")
  generalize pairUp (args.all "cases") = given, pairUp (args'.all "cases") = given' at pairs last
  obtain ⟨given, rest⟩ := given
  obtain ⟨given', rest'⟩ := given'
  dsimp only at pairs last
  refine Except.Agree.bind (r := List.Forall₂ (Choice.Related R)) (Except.Agree.mapM pairs ?_) ?_
  · rintro p q ⟨case, result⟩
    exact (result.coerce type.base).bind fun c c' hc => .ok ⟨matchesCase_related hv case, hc⟩
  · intro chosen chosen' hchosen
    cases last with
    | none => exact agree_firstTrue hchosen (Computer.missingOf_related _)
    | some related =>
        exact (related.coerce type.base).bind fun c c' hc => agree_firstTrue hchosen hc

theorem control_proper : AllProper R control :=
  .cons (Function.proper_simple ifBuilder_proper)
    (.cons (Function.proper_simple switchBuilder_proper) .nil)

/-! ## The library -/

/-- All built-in functions are proper. -/
theorem builtIns_proper : AllProper R builtIns := by
  have strings : AllProper R (layout ++ conversions ++ matching ++ slicing ++ editing) :=
    .append (.append (.append (.append layout_proper conversions_proper) matching_proper)
      slicing_proper) editing_proper
  have numbers : AllProper R
      (arithmetic ++ rounding ++ summaries ++ trigonometry ++ distributions) :=
    .append (.append (.append (.append arithmetic_proper rounding_proper) summaries_proper)
      trigonometry_proper) distributions_proper
  have calendar : AllProper R
      (making ++ current ++ extraction ++ parsing ++ formatting ++ calendarArithmetic) :=
    .append (.append (.append (.append (.append making_proper current_proper)
      extraction_proper) parsing_proper) formatting_proper) calendarArithmetic_proper
  have all := ((control_proper.append numbers).append strings).append calendar
  simpa only [builtIns, List.append_assoc] using all

theorem library_proper {name : String} {f : Function} (found : library.get? name = some f) :
    f.Proper R := builtIns_proper f (Library.of_get?_ofList found).1

end Functions

end Rowwise
