import Rowwise.Functions.Editing
import Rowwise.Proofs.Congruence.Builders

/-!
# Functions of strings keep computers related

Searches and patterns get some of their operands unread, and read them or not by what they have
found so far.  That is the same on both sides, so that an operand which is read on the one side is
read on the other.
-/

namespace Rowwise

open Eval Functions

variable {R : Congruence}

namespace Functions

/-! ## Layout and conversion -/

theorem padBuilder_proper (name : String) (side : Side) :
    Builder.Proper R (padBuilder name side) := by
  intro args args' type h
  refine (Builder.agree_inputs h _).bind fun inputs inputs' related => ?_
  refine (Builder.agree_chars h "string").bind fun s s' hs => ?_
  refine (h.source "length" .integer).bind fun length length' hlength => ?_
  refine (h.source? "character" .string).bind fun fill fill' hfill => .ok (.of ?_)
  refine Source.related_propagating related (hlength.compute.bind fun target => ?_)
  -- A length that is too large ends the computation before the other operands are read.
  refine .ite ((proper_fail _).bind fun _ => ?_) ?_
  all_goals
    refine (Source.related_optionalValue? hfill).bind fun _ => ?_
    exact hs.compute.bind fun _ => proper_pure _

theorem joinBuilder_proper : Builder.Proper R joinBuilder := by
  intro args args' type h
  have strings := Except.Agree.mapM (s := Source.Related R) h.values
    fun _ _ related => related.as .string
  refine strings.bind fun sources sources' related => .ok (.of ?_)
  refine Source.related_propagating h.values
    ((Source.related_computeAll related).bind fun texts => ?_)
  cases texts with
  | nil => exact proper_pure _
  | cons separator parts => exact proper_pure _

theorem missingToEmptyBuilder_proper : Builder.Proper R missingToEmptyBuilder := by
  intro args args' type h
  refine (h.source "string" .string).bind fun s s' hs => .ok (.of (Source.present_related ?_))
  exact hs.value?.bind fun _ => proper_pure _

theorem toStringBuilder_proper : Builder.Proper R toStringBuilder := by
  intro args args' type h
  exact (h.required "value").bind fun c c' related => .ok (.of related.textSource)

theorem layout_proper : AllProper R layout := by
  have text {name description : String} {keywords : List String} (f : List Char → List Char) :
      (textFunction name description keywords f).Proper R :=
    Function.proper_simple (Builder.ofText_proper f)
  refine .cons (text _) (.cons (text _) (.cons (text _) ?_))
  refine .cons (Function.proper_simple (padBuilder_proper _ _)) ?_
  refine .cons (Function.proper_simple (padBuilder_proper _ _)) ?_
  refine .cons (Function.proper_simple joinBuilder_proper) ?_
  exact .cons (text _) (.cons (text _) (.cons (text _) (.cons (text _) (.cons (text _) .nil))))

theorem conversions_proper : AllProper R conversions := by
  refine .cons (Function.proper_simple (Builder.ofText?_proper _ _)) ?_
  refine .cons (Function.proper_simple missingToEmptyBuilder_proper) ?_
  refine .cons (Function.proper_simple toStringBuilder_proper) ?_
  refine .cons (Function.proper_simple (Builder.ofText?_proper _ _)) ?_
  refine .cons (Function.proper_simple (Builder.ofText?_proper _ _)) ?_
  exact .cons (Function.proper_simple (Builder.ofText?_proper _ _)) .nil

/-! ## Searches for a fixed text -/

/-- The search gets the modifiers unread. -/
theorem searchBuilder_proper (k : Kind)
    {f : List Char → List Char → Eval Text.Modifiers → Eval k.Carrier}
    (hf : ∀ s search m m', m.Related R m' → (f s search m).Related R (f s search m')) :
    Builder.Proper R (searchBuilder k f) := by
  intro args args' type h
  refine (Builder.agree_inputs h _).bind fun inputs inputs' related => ?_
  refine (Builder.agree_chars h "string").bind fun s s' hs => ?_
  refine (Builder.agree_chars h "search").bind fun search search' hsearch => ?_
  refine (h.source? "modifiers" .string).bind fun m m' hm => .ok (.of ?_)
  refine Source.related_propagating related (hs.compute.bind fun text => ?_)
  exact hsearch.compute.bind fun wanted => hf _ _ _ _ (Builder.related_readModifiers hm)

theorem checkSearch_proper (m : Text.Modifiers) (search : List Char) :
    (checkSearch m search).Proper R := .ite (proper_pure ()) (proper_fail _)

theorem testFunction_proper {name description : String} (plain : List Char → List Char → Bool)
    (modified : Text.Modifiers → List Char → List Char → Bool) :
    (testFunction name description plain modified).Proper R := by
  refine Function.proper_simple (searchBuilder_proper .boolean fun s search m m' hm => ?_)
  refine hm.bind fun m => .ite (proper_pure _) ?_
  exact (checkSearch_proper m search).bind fun _ => proper_pure _

theorem related_countIn (s search : List Char) {m m' : Eval Text.Modifiers} (hm : m.Related R m') :
    (countIn s search m).Related R (countIn s search m') :=
  .ite (proper_pure 0) (hm.bind fun m => (checkSearch_proper m search).bind fun _ => proper_pure _)

theorem compareBuilder_proper : Builder.Proper R compareBuilder := by
  intro args args' type h
  refine (Builder.agree_inputs h _).bind fun inputs inputs' related => ?_
  refine (h.source "string_1" .string).bind fun a a' ha => ?_
  refine (h.source "string_2" .string).bind fun b b' hb => .ok (.of ?_)
  exact Source.related_propagating related
    (ha.compute.bind fun _ => hb.compute.bind fun _ => proper_pure _)

/-! ## Patterns -/

/-- The operation gets the text unread, and what it makes of further parameters is related if they
are. -/
theorem patternBuilder_proper (k : Kind) (extra : List String)
    {f : Arguments Computer → Except EvalError
      (Eval (List Char) → List Char → Text.Modifiers → Eval (Option k.Carrier))}
    (hf : ∀ args args', args.Related R args' →
      Except.Agree (fun g g' => ∀ s s' pattern m, Eval.Related R s s' →
        (g s pattern m).Related R (g' s' pattern m)) (f args) (f args')) :
    Builder.Proper R (patternBuilder k extra f) := by
  intro args args' type h
  refine (Builder.agree_inputs h _).bind fun inputs inputs' related => ?_
  refine (Builder.agree_chars h "string").bind fun s s' hs => ?_
  refine (Builder.agree_chars h "pattern").bind fun pattern pattern' hpattern => ?_
  refine (h.source? "modifiers" .string).bind fun m m' hm => ?_
  refine (hf args args' h).bind fun g g' hg => .ok (.of ?_)
  refine Source.related_partialOver related (hpattern.compute.bind fun text => ?_)
  exact (Builder.related_readModifiers hm).bind fun m => hg _ _ _ _ hs.compute

theorem compilePattern_proper (shown pattern : List Char) (m : Text.Modifiers) :
    (compilePattern shown pattern m).Proper R := by
  unfold compilePattern
  cases Regex.ofText? m.ignoreCase pattern with
  | ok regex => exact proper_pure _
  | error flaw => exact proper_warned ..

/-- The rest of a computation is reached with a pattern that could be compiled only. -/
theorem related_compiled {α : Type} (shown pattern : List Char) (m : Text.Modifiers)
    {f f' : Regex → Eval (Option α)} (hf : ∀ regex, (f regex).Related R (f' regex)) :
    Eval.Related R
      (do
        match ← compilePattern shown pattern m with
        | none => pure none
        | some regex => f regex)
      (do
        match ← compilePattern shown pattern m with
        | none => pure none
        | some regex => f' regex) := by
  refine (compilePattern_proper shown pattern m).bind fun compiled => ?_
  cases compiled with
  | none => exact proper_pure none
  | some regex => exact hf regex

theorem likeBuilder_proper : Builder.Proper R likeBuilder := by
  refine patternBuilder_proper .boolean [] fun _ _ _ => .ok fun s s' pattern m hs => .ite ?_ ?_
  · exact hs.bind fun _ => proper_pure _
  · exact proper_warned ..

theorem regexMatchBuilder_proper : Builder.Proper R regexMatchBuilder := by
  refine patternBuilder_proper .boolean [] fun _ _ _ => .ok fun s s' pattern m hs => ?_
  exact related_compiled _ _ _ fun regex => hs.bind fun _ => proper_pure _

theorem regexExtractBuilder_proper : Builder.Proper R regexExtractBuilder := by
  refine patternBuilder_proper .string ["group"] fun args args' h => ?_
  refine (h.source "group" .integer).bind fun group group' hgroup => .ok fun s s' pattern m hs => ?_
  refine related_compiled _ _ _ fun regex => ?_
  exact hs.bind fun _ => hgroup.compute.bind fun _ => proper_pure _

theorem regexReplaceBuilder_proper : Builder.Proper R regexReplaceBuilder := by
  refine patternBuilder_proper .string ["replacement"] fun args args' h => ?_
  refine (Builder.agree_chars h "replacement").bind fun r r' hr => .ok fun s s' pattern m hs => ?_
  refine related_compiled _ _ _ fun regex => ?_
  exact hs.bind fun _ => hr.compute.bind fun _ => proper_pure _

theorem matching_proper : AllProper R matching := by
  refine .cons (testFunction_proper _ _) (.cons (testFunction_proper _ _) ?_)
  refine .cons (testFunction_proper _ _) ?_
  refine .cons (Function.proper_simple compareBuilder_proper) ?_
  refine .cons (Function.proper_simple likeBuilder_proper) ?_
  refine .cons (Function.proper_simple regexMatchBuilder_proper) ?_
  refine .cons (Function.proper_simple regexExtractBuilder_proper) ?_
  exact .cons (Function.proper_simple regexReplaceBuilder_proper) .nil

/-! ## Parts -/

theorem clampStart_proper (start : Int64) : (clampStart start).Proper R :=
  .ite (proper_warned ..) (proper_pure _)

theorem clampLength_proper (length : Int64) : (clampLength length).Proper R :=
  .ite (proper_warned ..) (proper_pure _)

theorem substring_proper (s : List Char) (start length : Option Int64) :
    (substring s start length).Proper R := by
  refine (clampStart_proper _).bind fun _ => ?_
  cases length with
  | none => exact proper_pure _
  | some n => exact (clampLength_proper n).bind fun _ => proper_pure _

theorem substringBuilder_proper : Builder.Proper R substringBuilder := by
  intro args args' type h
  refine (Builder.agree_inputs h _).bind fun inputs inputs' related => ?_
  refine (Builder.agree_chars h "string").bind fun s s' hs => ?_
  refine (h.source? "start" .integer).bind fun start start' hstart => ?_
  refine (h.source? "length" .integer).bind fun length length' hlength => .ok (.of ?_)
  refine Source.related_propagating related
    ((Source.related_optionalValue? hstart).bind fun a => ?_)
  refine (Source.related_optionalValue? hlength).bind fun b => hs.compute.bind fun text => ?_
  exact (substring_proper text a b).bind fun _ => proper_pure _

theorem partFunction_proper {name description : String} (part : List Char → Nat → List Char) :
    (partFunction name description part).Proper R := by
  refine Function.proper_simple fun args args' type h => ?_
  refine (Builder.agree_inputs h _).bind fun inputs inputs' related => ?_
  refine (Builder.agree_chars h "string").bind fun s s' hs => ?_
  refine (h.source "n" .integer).bind fun n n' hn => .ok (.of ?_)
  exact Source.related_propagating related
    (hs.compute.bind fun _ => hn.compute.bind fun _ => proper_pure _)

theorem lengthBuilder_proper : Builder.Proper R lengthBuilder := by
  intro args args' type h
  exact (h.source "string" .string).bind fun s s' hs => .ok (.of (hs.map _))

theorem slicing_proper : AllProper R slicing := by
  refine .cons (Function.proper_simple substringBuilder_proper) ?_
  refine .cons (partFunction_proper _) (.cons (partFunction_proper _) ?_)
  refine .cons
    (Function.proper_simple (searchBuilder_proper .integer fun s search m m' hm => ?_)) ?_
  · exact hm.bind fun m => (checkSearch_proper m search).bind fun _ => proper_pure _
  refine .cons (Function.proper_simple (searchBuilder_proper .integer fun s search m m' hm =>
    related_countIn s search hm)) ?_
  exact .cons (Function.proper_simple lengthBuilder_proper) .nil

/-! ## Editing -/

theorem replaceBuilder_proper : Builder.Proper R replaceBuilder := by
  intro args args' type h
  refine (Builder.agree_inputs h _).bind fun inputs inputs' related => ?_
  refine (Builder.agree_chars h "string").bind fun s s' hs => ?_
  refine (Builder.agree_chars h "search").bind fun search search' hsearch => ?_
  refine (Builder.agree_chars h "replacement").bind fun r r' hr => ?_
  refine (h.source? "modifiers" .string).bind fun m m' hm => .ok (.of ?_)
  refine Source.related_propagating related (hs.compute.bind fun text => ?_)
  refine hsearch.compute.bind fun wanted => hr.compute.bind fun replacement => ?_
  refine (Builder.related_readModifiers hm).bind fun m => .ite ?_ (proper_pure _)
  exact (checkSearch_proper m wanted).bind fun _ => proper_pure _

theorem replaceCharsBuilder_proper (replacement : Option String) :
    Builder.Proper R (replaceCharsBuilder replacement) := by
  intro args args' type h
  refine (Builder.agree_inputs h _).bind fun inputs inputs' related => ?_
  refine (Builder.agree_chars h "string").bind fun s s' hs => ?_
  refine (Builder.agree_chars h "chars").bind fun chars chars' hchars => ?_
  have partners : Except.Agree (Option.Rel (Source.Related R))
      (replacement.mapM (Builder.chars args)) (replacement.mapM (Builder.chars args')) := by
    cases replacement with
    | none => exact .ok .none
    | some name => exact (Builder.agree_chars h name).map fun _ _ related => .some related
  refine partners.bind fun partners partners' hpartners => ?_
  refine (h.source? "modifiers" .string).bind fun m m' hm => .ok (.of ?_)
  refine Source.related_propagating related ((Builder.related_readModifiers hm).bind fun m => ?_)
  refine hs.compute.bind fun text => hchars.compute.bind fun chars => ?_
  cases hpartners with
  | none => exact proper_pure _
  | some partner => exact partner.compute.bind fun _ => proper_pure _

theorem editing_proper : AllProper R editing := by
  refine .cons (Function.proper_simple replaceBuilder_proper) ?_
  refine .cons (Function.proper_simple (replaceCharsBuilder_proper _)) ?_
  exact .cons (Function.proper_simple (replaceCharsBuilder_proper _)) .nil

end Functions

end Rowwise
