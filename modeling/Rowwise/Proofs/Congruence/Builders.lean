import Rowwise.Functions.Text
import Rowwise.Proofs.Congruence.Basic

/-!
# Builders that keep computers related

A builder is *proper* for a congruence if from arguments that are related it gets to computers that
are related, or to one error.  The shapes of builders that most functions share are proper for every
operation that is.

A function is proper if the builders of all of its overloads are.
-/

namespace Rowwise

open Eval

variable {α : Type} {R : Congruence}

/-! ## Arguments -/

namespace Arguments

/-- The same parameters are bound, to computers that are related one by one. -/
def Related (R : Congruence) (args args' : Arguments Computer) : Prop :=
  List.Forall₂
    (fun slot slot' => slot.1 = slot'.1 ∧ List.Forall₂ (Computer.Related R) slot.2 slot'.2)
    args.slots args'.slots

variable {args args' : Arguments Computer}

theorem Related.all (h : args.Related R args') (name : String) :
    List.Forall₂ (Computer.Related R) (args.all name) (args'.all name) := by
  obtain ⟨slots⟩ := args
  obtain ⟨slots'⟩ := args'
  unfold Arguments.Related at h
  unfold Arguments.all
  dsimp only at h ⊢
  induction h with
  | nil => exact .nil
  | @cons slot slot' _ _ head _ ih =>
      obtain ⟨bound, cs⟩ := slot
      obtain ⟨bound', cs'⟩ := slot'
      obtain ⟨rfl, related⟩ := head
      -- The slots have one name, so that the search ends at both or goes on after both.
      rw [List.find?_cons, List.find?_cons]
      cases bound == name with
      | true => exact related
      | false => exact ih

theorem Related.values (h : args.Related R args') :
    List.Forall₂ (Computer.Related R) args.values args'.values :=
  List.rel_flatMap h fun _ _ slots => slots.2

theorem Related.get? (h : args.Related R args') (name : String) :
    Option.Rel (Computer.Related R) (args.get? name) (args'.get? name) := by
  have all := h.all name
  unfold Arguments.get?
  generalize args.all name = computers, args'.all name = computers' at all
  cases all with
  | nil => exact .none
  | cons head _ => exact .some head

theorem Related.required (h : args.Related R args') (name : String) :
    Except.Agree (Computer.Related R) (args.required name) (args'.required name) := by
  have bound := h.get? name
  unfold Arguments.required
  generalize args.get? name = found, args'.get? name = found' at bound
  cases bound with
  | none => exact .error _
  | some related => exact .ok related

theorem Related.source (h : args.Related R args') (name : String) (k : Kind) :
    Except.Agree (Source.Related R) (args.source name k) (args'.source name k) :=
  (h.required name).bind fun _ _ related => related.as k

theorem Related.floatSource (h : args.Related R args') (name : String) :
    Except.Agree (Source.Related R) (args.floatSource name) (args'.floatSource name) :=
  (h.required name).bind fun _ _ related => related.asFloat

theorem Related.source? (h : args.Related R args') (name : String) (k : Kind) :
    Except.Agree (Option.Rel (Source.Related R)) (args.source? name k) (args'.source? name k) := by
  have bound := h.get? name
  unfold Arguments.source?
  generalize args.get? name = found, args'.get? name = found' at bound
  cases bound with
  | none => exact .ok .none
  | some related => exact (related.as k).map fun _ _ sources => .some sources

theorem Related.floatSource? (h : args.Related R args') (name : String) :
    Except.Agree (Option.Rel (Source.Related R)) (args.floatSource? name)
      (args'.floatSource? name) := by
  have bound := h.get? name
  unfold Arguments.floatSource?
  generalize args.get? name = found, args'.get? name = found' at bound
  cases bound with
  | none => exact .ok .none
  | some related => exact related.asFloat.map fun _ _ sources => .some sources

/-- Arguments that are built one by one from the same bindings are related if each of them is. -/
theorem agree_mapExcept {f f' : α → Except EvalError Computer} (bound : Arguments α)
    (h : ∀ a, Except.Agree (Computer.Related R) (f a) (f' a)) :
    Except.Agree (Related R) (bound.mapExcept f) (bound.mapExcept f') := by
  unfold Arguments.mapExcept
  refine Except.Agree.bind (r := List.Forall₂ fun slot slot' : String × List Computer =>
    slot.1 = slot'.1 ∧ List.Forall₂ (Computer.Related R) slot.2 slot'.2)
      (Except.Agree.mapM_same bound.slots ?_) fun _ _ related => .ok related
  rintro ⟨name, as⟩
  exact (Except.Agree.mapM_same as h).bind fun _ _ related => .ok ⟨rfl, related⟩

end Arguments

/-! ## Builders and functions -/

/-- From arguments that are related, the builder gets to computers that are related. -/
def Builder.Proper (R : Congruence) (build : Builder) : Prop :=
  ∀ args args' type, args.Related R args' →
    Except.Agree (Computer.Related R) (build args type) (build args' type)

/-- The builders of all overloads are proper. -/
def Function.Proper (R : Congruence) (f : Function) : Prop :=
  ∀ o ∈ f.overloads, o.build.Proper R

theorem Function.proper_simple {name description : String} {category : Category}
    {keywords : List String} {params : List Param} {rule : TypeRule} {build : Builder}
    (h : build.Proper R) :
    (Function.simple name category description keywords params rule build).Proper R := by
  intro o ho
  obtain rfl := List.mem_singleton.mp ho
  exact h

/-- All functions of a list are proper. -/
def Functions.AllProper (R : Congruence) (functions : List Function) : Prop :=
  ∀ f ∈ functions, f.Proper R

namespace Functions.AllProper

theorem nil : AllProper R [] := fun _ h => absurd h List.not_mem_nil

theorem cons {f : Function} {rest : List Function} (hf : f.Proper R) (hrest : AllProper R rest) :
    AllProper R (f :: rest) := List.forall_mem_cons.mpr ⟨hf, hrest⟩

theorem append {fs gs : List Function} (hf : AllProper R fs) (hg : AllProper R gs) :
    AllProper R (fs ++ gs) := fun f h => (List.mem_append.mp h).elim (hf f) (hg f)

end Functions.AllProper

/-! ## Shapes of builders -/

namespace Builder

theorem ofNumber_proper {f : Float → Eval Float} (hf : ∀ x, (f x).Proper R) :
    (ofNumber f).Proper R := by
  intro args args' type h
  exact (h.floatSource "x").bind fun x x' hx => .ok (.of (hx.tryMap hf))

theorem ofNumber?_proper {f : Float → Eval (Option Int64)} (hf : ∀ x, (f x).Proper R) :
    (ofNumber? f).Proper R := by
  intro args args' type h
  refine (h.required "x").bind fun input input' related => ?_
  refine related.asFloat.bind fun x x' hx => .ok (.of ?_)
  exact Source.related_partialOver (.cons related .nil) (hx.compute.bind hf)

theorem ofNumbers_proper {first second : String} {f : Float → Float → Eval Float}
    (hf : ∀ x y, (f x y).Proper R) : (ofNumbers first second f).Proper R := by
  intro args args' type h
  refine (h.floatSource first).bind fun a a' ha => ?_
  refine (h.floatSource second).bind fun b b' hb => .ok (.of ?_)
  exact Source.related_propagating h.values
    (ha.compute.bind fun x => hb.compute.bind (hf x))

/-- The operations get the operands unread, and have to be related for operands that are. -/
theorem arithmetic_proper {onIntegers : Eval Int64 → Eval Int64 → Eval Int64}
    {onFloats : Eval Float → Eval Float → Eval Float}
    (hi : ∀ x x' y y', x.Related R x' → y.Related R y' →
      (onIntegers x y).Related R (onIntegers x' y'))
    (hf : ∀ x x' y y', x.Related R x' → y.Related R y' →
      (onFloats x y).Related R (onFloats x' y')) :
    (arithmetic onIntegers onFloats).Proper R := by
  intro args args' type h
  unfold arithmetic
  split
  · refine (h.source "x" .integer).bind fun x x' hx => ?_
    refine (h.source "y" .integer).bind fun y y' hy => .ok (.of ?_)
    exact Source.related_propagating h.values (hi _ _ _ _ hx.compute hy.compute)
  · refine (h.floatSource "x").bind fun x x' hx => ?_
    refine (h.floatSource "y").bind fun y y' hy => .ok (.of ?_)
    exact Source.related_propagating h.values (hf _ _ _ _ hx.compute hy.compute)

theorem reduceFloats_proper (k : Kind) (f : List Float → k.Carrier) :
    (reduceFloats k f).Proper R := by
  intro args args' type h
  have floats := Except.Agree.mapM (s := Source.Related R) h.values
    fun _ _ related => related.asFloat
  refine floats.bind fun sources sources' related => .ok (.of ?_)
  exact Source.related_propagating h.values
    ((Source.related_computeAll related).bind fun _ => proper_pure _)

theorem reduceNumbers_proper (onIntegers : List Int64 → Int64) (onFloats : List Float → Float) :
    (reduceNumbers onIntegers onFloats).Proper R := by
  intro args args' type h
  unfold reduceNumbers
  split
  · have integers := Except.Agree.mapM (s := Source.Related R) h.values
      fun _ _ related => related.as .integer
    refine integers.bind fun sources sources' related => .ok (.of ?_)
    exact Source.related_propagating h.values
      ((Source.related_computeAll related).bind fun _ => proper_pure _)
  · exact reduceFloats_proper .float onFloats args args' type h

/-! ## Parameters of string functions -/

variable {args args' : Arguments Computer}

theorem agree_chars (h : args.Related R args') (name : String) :
    Except.Agree (Source.Related R) (chars args name) (chars args' name) :=
  (h.source name .string).bind fun _ _ related => .ok (related.map String.toList)

theorem agree_inputs (h : args.Related R args') (names : List String) :
    Except.Agree (List.Forall₂ (Computer.Related R)) (inputs args names) (inputs args' names) :=
  Except.Agree.mapM_same names h.required

theorem ofText_proper (f : List Char → List Char) : (ofText f).Proper R := by
  intro args args' type h
  exact (agree_chars h "string").bind fun s s' hs => .ok (.of (hs.map _))

theorem ofText?_proper (k : Kind) (f : List Char → Option k.Carrier) : (ofText? k f).Proper R := by
  intro args args' type h
  refine (h.required "string").bind fun input input' related => ?_
  refine (agree_chars h "string").bind fun s s' hs => .ok (.of ?_)
  exact Source.related_partialOver (.cons related .nil) (hs.compute.bind fun _ => proper_pure _)

theorem related_readModifiers {modifiers modifiers' : Option (Source String)}
    (h : Option.Rel (Source.Related R) modifiers modifiers') :
    (readModifiers modifiers).Related R (readModifiers modifiers') :=
  (Source.related_optionalValue? h).bind fun text => by
    cases text with
    | none => exact proper_pure _
    | some text => exact proper_pure _

end Builder

end Rowwise
