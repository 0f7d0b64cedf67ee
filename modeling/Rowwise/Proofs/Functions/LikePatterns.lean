import Rowwise.Proofs.Evaluation.Warnings
import Rowwise.Proofs.Functions.Searches
import Rowwise.Proofs.Text.Like

/-!
# The strings that match a LIKE pattern

`like` reads its pattern row after row.  A pattern whose expression would be too large is a warning
and the result is MISSING.  Otherwise the result says whether the string can be split to match the
pattern (`Text.Like`).
-/

namespace Rowwise

open Eval Functions Text

variable {ctx : TypingContext} {host : Host} {m : Moment} {x y : Expr}

namespace Functions

section LikePatterns

variable {s t : String} {string pattern : Source String} {o i : Bool}

/-- Whether a string matches a pattern, unless the pattern is too large. -/
def likeAnswer (string pattern : Source String) : Eval (Option Bool) := do
  let text ← (pattern.map String.toList).compute
  let w ← Builder.readModifiers none
  let p := LikePattern.ofText text
  if (Regex.Expression.ofLike w p).fits then
    pure (some (p.matches w.same (← (string.map String.toList).compute)))
  else
    warnOfFlaw text .tooLarge
    pure none

theorem compiles_like (functions : ctx.functions = library)
    (hx : x.Compiles ctx host (.of .string o) (.of .string string))
    (hy : y.Compiles ctx host (.of .string i) (.of .string pattern)) (span : Span) :
    (Expr.callOf span "like" [x, y]).Compiles ctx host (.optionalOf .boolean)
      (.of .boolean (Source.partialOver [.of .string string, .of .string pattern]
        (likeAnswer string pattern))) := by
  have found : ctx.functions.get? "like" = some matching[4] :=
    get?_of_mem_builtIns functions (f := matching[4]) (by simp [builtIns, matching])
  have only : matching[4].overloads = [⟨[stringParam "string", stringParam "pattern"] ++
    [modifiersParam], .exactly (.optionalOf .boolean), likeBuilder⟩] := rfl
  exact Expr.compiles_callOf found only (by decide) (List.forall_mem_singleton.mpr rfl) (by decide)
    (.cons hx (.cons hy .nil))
    (.cons (accepts_kindOrMissing .string o) (.cons (accepts_kindOrMissing .string i) .nil))
    rfl rfl span

/-- What the warning says about a pattern that is too large. -/
def likeWarning (pattern : String) : String :=
  s!"Invalid regex pattern '{pattern}'. {Regex.Flaw.tooLarge.message}"

theorem answers_withoutModifiers : (Builder.readModifiers none).Answers m (.ok {}) :=
  answers_pure _

section Held

variable (stringHolds : string.Holds m (some s)) (patternHolds : pattern.Holds m (some t))
include patternHolds

theorem likeAnswer_warns
    (large : (Regex.Expression.ofLike {} (LikePattern.ofText t.toList)).fits = false) :
    (likeAnswer string pattern).Warns m (likeWarning t) none := by
  have warned : (warnOfFlaw t.toList .tooLarge).Warns m (likeWarning t) () := by
    unfold warnOfFlaw
    rw [String.ofList_toList]
    exact warns_warn _
  refine (patternHolds.map String.toList).compute.bind_warns ?_
  refine answers_withoutModifiers.bind_warns ?_
  dsimp only
  rw [if_neg (Bool.eq_false_iff.mp large)]
  exact warned.bind rfl

include stringHolds

theorem likeAnswer_answers
    (fits : (Regex.Expression.ofLike {} (LikePattern.ofText t.toList)).fits = true) :
    (likeAnswer string pattern).Answers m
      (.ok (some ((LikePattern.ofText t.toList).matches ({} : Modifiers).same s.toList))) := by
  refine (patternHolds.map String.toList).compute.bind ?_
  refine answers_withoutModifiers.bind ?_
  dsimp only
  rw [if_pos fits]
  refine (stringHolds.map String.toList).compute.bind ?_
  exact answers_pure _

end Held

end LikePatterns

end Functions

namespace Sample

end Sample

end Rowwise
