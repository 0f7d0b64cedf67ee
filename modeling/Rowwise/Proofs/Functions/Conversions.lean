import Rowwise.Proofs.Calendar.DurationText
import Rowwise.Proofs.Decimal.FloatText
import Rowwise.Proofs.Evaluation.Refinement
import Rowwise.Proofs.Functions.BuiltIns
import Rowwise.Proofs.Functions.PositionalCalls

/-!
# Values are decoded from their texts

Five of the functions that read a text undo `to_string` (`decoders`).  The reason lies in the texts:
`to_string` writes each of these kinds in a form that the reader of the kind takes back to the same
value, and none of these texts has blanks around it or separators in it which a reader would leave
out.  What stands around that is the same for all five.  A builder that reads finds the value
wherever its argument holds such a text (`Builder.Decodes`), and the computer of a call with one
argument is built from that of the argument (`Expr.build_call1`).

Nothing is said about values that are MISSING.  Their text is `MISSING`, which is not the text of a
value of these kinds.
-/

namespace Rowwise

open Eval Functions

/-! ## Calls with one argument -/

/-- A library finds each of its callables under its name. -/
theorem Library.get?_ofList {α : Type} {name : α → String} {items : List α}
    (distinct : (items.map name).Nodup) {a : α} (ha : a ∈ items) :
    (Library.ofList name items).get? (name a) = some a := by
  have kept : ∀ (items : List α) (l : Library α), name a ∉ items.map name →
      (items.foldl (fun l b => l.insert (name b) b) l).get? (name a) = l.get? (name a) := by
    intro items
    induction items with
    | nil => exact fun _ _ => rfl
    | cons b items ih =>
        intro l new
        rw [List.map_cons, List.mem_cons, not_or] at new
        rw [List.foldl_cons, ih _ new.2, Named.get?_insert, if_neg new.1]
  unfold Library.ofList
  generalize (Named.empty : Library α) = l
  induction items generalizing l with
  | nil => cases ha
  | cons b items ih =>
      rw [List.map_cons, List.nodup_cons] at distinct
      obtain rfl | ha := List.mem_cons.mp ha
      · rw [List.foldl_cons, kept _ _ distinct.1, Named.get?_insert, if_pos rfl]
      · exact ih distinct.2 ha _

/-- A call of a function with one positional argument, as it is parsed. -/
def Expr.call1 (span : Span) (name : String) (arg : Expr) : Expr :=
  .call { span } .function name (.cons none arg .nil) none

section Call

variable {ctx : TypingContext} {name parameter : String} {f : Function} {matcher : Matcher}
  {s t : ValueType} {build : Builder} {x : Expr}

theorem bindArguments_one (accepts : matcher.accepts s = true) :
    bindArguments [.required parameter matcher] [(none, s)] =
      .ok ⟨[(parameter, [.argument 0])]⟩ := by
  change Except.bind (bindParam [s] .empty (.required parameter matcher, [0])) _ = _
  rw [bindParam_required accepts]
  rfl

/-- A call of a function with one overload, which binds the argument to its parameter. -/
theorem Expr.infer_call1_of_binds {params : List Param} (found : ctx.functions.get? name = some f)
    (only : f.overloads = [⟨params, .exactly t, build⟩]) (typed : (x.infer ctx).2 = .ok s)
    (binds : bindArguments params [(none, s)] = .ok ⟨[(parameter, [.argument 0])]⟩) (span : Span) :
    (x.call1 span name).infer ctx =
      (.call { span := span, type := some t } .function name (.cons none (x.infer ctx).1 .nil)
        (some (.function f 0 ⟨[(parameter, [.argument 0])]⟩)), .ok t) :=
  have each : [x].map (fun e => (e.infer ctx).2) = [s].map .ok := congrArg (fun r => [r]) typed
  Expr.infer_callOf found only each (Typing.tryOverload_ok_iff.mpr ⟨binds, rfl⟩)

/-- Its computer is built from that of the argument. -/
theorem Expr.build_call1_of_binds {params : List Param} (found : ctx.functions.get? name = some f)
    (only : f.overloads = [⟨params, .exactly t, build⟩]) (typed : (x.infer ctx).2 = .ok s)
    (binds : bindArguments params [(none, s)] = .ok ⟨[(parameter, [.argument 0])]⟩) (span : Span)
    {host : Host} {c : Computer} (built : (x.infer ctx).1.build host = .ok c) :
    ((x.call1 span name).infer ctx).1.build host = build ⟨[(parameter, [c])]⟩ t := by
  rw [Expr.infer_call1_of_binds found only typed binds]
  refine (Expr.build_boundCall only [(x.infer ctx).1] _).trans ?_
  rw [List.map_singleton, built]
  rfl

section Only

variable (found : ctx.functions.get? name = some f)
  (only : f.overloads = [⟨[.required parameter matcher], .exactly t, build⟩])
  (typed : (x.infer ctx).2 = .ok s) (accepts : matcher.accepts s = true) (span : Span)
include found only typed accepts

theorem Expr.typed_call1 : ((x.call1 span name).infer ctx).2 = .ok t := by
  rw [Expr.infer_call1_of_binds found only typed (bindArguments_one accepts)]

theorem Expr.build_call1 {host : Host} {c : Computer} (built : (x.infer ctx).1.build host = .ok c) :
    ((x.call1 span name).infer ctx).1.build host = build ⟨[(parameter, [c])]⟩ t :=
  Expr.build_call1_of_binds found only typed (bindArguments_one accepts) span built

end Only

end Call

/-! ## Builders that read -/

/-- From a computer that holds the text of a value, one is built that holds the value. -/
def Builder.Decodes (k : Kind) (build : Builder) : Prop :=
  ∀ {m : Moment} {c : Computer} {v : k.Carrier} (t : ValueType),
    c.Holds m (.string (k.text v)) →
      ∃ d, build ⟨[("string", [c])]⟩ t = .ok d ∧ d.Holds m (.of k v)

/-- A function of one text that finds every value of a kind in its text. -/
def Function.Decodes (k : Kind) (f : Function) : Prop :=
  ∃ build : Builder,
    f.overloads = [⟨[stringParam "string"], .exactly (.optionalOf k), build⟩] ∧ build.Decodes k

/-- Where its inputs are present, a computation finds a value or none. -/
theorem Source.partialOver_holds_of_asked {α : Type} {m : Moment} {inputs : List Computer}
    {x : Option α} {compute : Eval (Option α)}
    (asked : (Computer.anyMissing inputs).Answers m (.ok false))
    (finds : compute.Answers m (.ok x)) : (Source.partialOver inputs compute).Holds m x := by
  cases x with
  | none => exact .absent (asked.bind (finds.bind (answers_pure true)))
  | some a =>
      exact .present (asked.bind (finds.bind (answers_pure false))) (finds.bind (answers_pure a))

/-- The same for one input. -/
theorem Source.partialOver_holds {α : Type} {m : Moment} {c : Computer} {v : Value} {x : Option α}
    {compute : Eval (Option α)} (held : c.Holds m v) (there : v.isMissing = false)
    (finds : compute.Answers m (.ok x)) : (Source.partialOver [c] compute).Holds m x := by
  have input := held.isMissing
  rw [there] at input
  exact partialOver_holds_of_asked (input.bind (answers_pure false)) finds

section Builders

variable {k : Kind} {read : List Char → Option k.Carrier}
  (reads : ∀ v, read (k.text v).toList = some v)
include reads

theorem Builder.ofText?_decodes : (Builder.ofText? k read).Decodes k := by
  intro m c v t held
  obtain ⟨s, rfl, holds⟩ := held.of_present
  refine ⟨_, rfl, .of (x := some v) (Source.partialOver_holds held rfl ?_)⟩
  have chars := (holds.map String.toList).compute
  refine chars.bind ?_
  rw [reads]
  exact answers_pure (some v)

theorem amountBuilder_decodes : (amountBuilder k read).Decodes k := by
  intro m c v t held
  obtain ⟨s, rfl, holds⟩ := held.of_present
  refine ⟨_, rfl, .of (x := some v) (Source.partialOver_holds held rfl ?_)⟩
  refine holds.compute.bind ?_
  simp only [reads]
  exact answers_pure (some v)

end Builders

/-! ## Texts of values -/

namespace Functions

/-- There is nothing to leave out of the text of a number. -/
theorem withoutSeparators_eq {s : List Char}
    (h : ∀ c ∈ s, c.isDigit = true ∨ c ∈ "-.eEINafinty".toList) : withoutSeparators s = s := by
  have letters : ∀ c ∈ "-.eEINafinty".toList, Text.isBlank c = false ∧ (c != '_') = true :=
    List.all_iff_forall_prop.mp (by decide)
  have kept : ∀ c ∈ s, Text.isBlank c = false ∧ (c != '_') = true := fun c hc =>
    (h c hc).elim
      (Decimal.forall_isDigit (P := fun c => Text.isBlank c = false ∧ (c != '_') = true) (by decide))
      (letters c)
  rw [withoutSeparators, trim_eq fun c hc => (kept c hc).1, List.filter_eq_self]
  exact fun c hc => (kept c hc).2

theorem readBoolean?_text (b : Bool) : readBoolean? (Kind.text .boolean b).toList = some b := by
  cases b <;> decide

theorem readInteger?_text (n : Int64) :
    Integer.read? (withoutSeparators (Kind.text .integer n).toList) = some n := by
  rw [Kind.text, Integer.text, String.toList_ofList, withoutSeparators_eq, Integer.read?_text]
  intro c hc
  rcases FloatText.mem_intText hc with digit | rfl
  · exact .inl digit
  · exact .inr (by decide)

theorem readFloat?_text (x : Float) :
    FloatText.read? (withoutSeparators (Kind.text .float x).toList) = some x := by
  rw [Kind.text, FloatText.render, String.toList_ofList,
    withoutSeparators_eq (FloatText.mem_valueForm x), FloatText.read?_valueForm]

theorem readDuration?_text (d : Duration) :
    Duration.read? (Kind.text .timeDuration d).toList = some d := by
  rw [Kind.text, String.toList_ofList, Duration.read?_text]

theorem readPeriod?_text (p : Period) :
    Period.read? (Kind.text .dateDuration p).toList = some p := by
  rw [Kind.text, String.toList_ofList, Period.read?_text]

/-! ## Decoders -/

/-- The kinds whose values are read back from their texts, with the functions that do it. -/
def decoders : List (Kind × String) :=
  [(.boolean, "parse_bool"), (.integer, "parse_int"), (.float, "parse_float"),
    (.timeDuration, "parse_time_duration"), (.dateDuration, "parse_date_duration")]

section Members

variable {k : Kind} {read : List Char → Option k.Carrier} {name description : String}
  (reads : ∀ v, read (k.text v).toList = some v)
include reads

theorem readingFunction_decodes : (readingFunction name description k read).Decodes k :=
  ⟨_, rfl, Builder.ofText?_decodes reads⟩

theorem amountFunction_decodes : (amountFunction name description k read).Decodes k :=
  ⟨_, rfl, amountBuilder_decodes reads⟩

end Members

theorem mem_builtIns {f : Function} (h : f ∈ conversions ++ parsing) : f ∈ builtIns := by
  rcases List.mem_append.mp h with h | h <;>
    simp only [builtIns, List.mem_append, h, true_or, or_true]

theorem distinct_builtIns : (builtIns.map Function.name).Nodup := by decide +kernel

/-- A built-in function is in the library under its name. -/
theorem library_get? {f : Function} (member : f ∈ builtIns) : library.get? f.name = some f :=
  Library.get?_ofList distinct_builtIns member

theorem get?_of_mem_builtIns {ctx : TypingContext} (functions : ctx.functions = library)
    {f : Function} (member : f ∈ builtIns) : ctx.functions.get? f.name = some f := by
  rw [functions]
  exact library_get? member

/-- A built-in function that converts or reads is in the library under its name. -/
theorem library_get?_of_find? {name : String} {f : Function}
    (h : (conversions ++ parsing).find? (·.name == name) = some f) :
    library.get? name = some f := by
  obtain rfl : f.name = name := by simpa using List.find?_some h
  exact library_get? (mem_builtIns (List.mem_of_find?_eq_some h))

/-- The library has a decoder under each of the names. -/
theorem exists_decoder {k : Kind} {name : String} (h : (k, name) ∈ decoders) :
    ∃ f, library.get? name = some f ∧ f.Decodes k := by
  simp only [decoders, List.mem_cons, Prod.mk.injEq, List.not_mem_nil, or_false] at h
  obtain ⟨rfl, rfl⟩ | ⟨rfl, rfl⟩ | ⟨rfl, rfl⟩ | ⟨rfl, rfl⟩ | ⟨rfl, rfl⟩ := h
  · exact ⟨_, library_get?_of_find? rfl, readingFunction_decodes readBoolean?_text⟩
  · exact ⟨_, library_get?_of_find? rfl, readingFunction_decodes readInteger?_text⟩
  · exact ⟨_, library_get?_of_find? rfl, readingFunction_decodes readFloat?_text⟩
  · exact ⟨_, library_get?_of_find? rfl, amountFunction_decodes readDuration?_text⟩
  · exact ⟨_, library_get?_of_find? rfl, amountFunction_decodes readPeriod?_text⟩

theorem exists_toString : ∃ f, library.get? "to_string" = some f ∧ f.overloads =
    [⟨[.required "value" .anything], .exactly (.required .string), toStringBuilder⟩] :=
  ⟨_, library_get?_of_find? rfl, rfl⟩

/-- `to_string` followed by the decoder of its kind gives a value back, and is never MISSING there,
whatever expression the value comes from. -/
theorem decoded_text {ctx : TypingContext} (functions : ctx.functions = library) {k : Kind}
    {name : String} (decoder : (k, name) ∈ decoders) {x : Expr} {s : ValueType}
    (typed : (x.infer ctx).2 = .ok s) (inner outer : Span) :
    (((x.call1 inner "to_string").call1 outer name).infer ctx).2 = .ok (.optionalOf k) ∧
      ∀ (host : Host) (m : Moment) (c : Computer) (v : k.Carrier),
        (x.infer ctx).1.build host = .ok c → c.Holds m (.of k v) →
          ∃ d, (((x.call1 inner "to_string").call1 outer name).infer ctx).1.build host = .ok d ∧
            d.Holds m (.of k v) := by
  obtain ⟨encoder, foundEncoder, encodes⟩ := exists_toString
  obtain ⟨f, found, build, only, decodes⟩ := exists_decoder decoder
  rw [← functions] at foundEncoder found
  have typedText := Expr.typed_call1 foundEncoder encodes typed rfl inner
  refine ⟨Expr.typed_call1 found only typedText rfl outer, fun host m c v built held => ?_⟩
  have text := Expr.build_call1 foundEncoder encodes typed rfl inner built
  rw [Expr.build_call1 found only typedText rfl outer text]
  exact decodes _ (.of (x := some _) (Operator.textSource_holds held))

end Functions

namespace Sample

/-- A minute and a half, backwards. -/
def ago : Duration := ⟨-90_000_000_000, by decide⟩

/-- Flow variables that are amounts of time, and the built-in functions. -/
def amounts : TypingContext :=
  { context with
    flowVariable := fun _ => .ok (.required .timeDuration)
    functions := Functions.library }

/-- A host that serves this amount as every flow variable. -/
def amountHost : Host :=
  { Host.empty with flowVariable := fun _ => some (.constant (.of .timeDuration ago)) }

/-- `$$ago` -/
def agoVariable : Expr := .flowVariable {} "ago"

/-- `parse_time_duration(to_string($$ago))` -/
def agoDecoded : Expr := (agoVariable.call1 {} "to_string").call1 {} "parse_time_duration"

theorem ago_decoded :
    (agoDecoded.infer amounts).2 = .ok (.optionalOf .timeDuration) ∧
      ∃ d, (agoDecoded.infer amounts).1.build amountHost = .ok d ∧
        d.Holds ⟨0, default⟩ (.of .timeDuration ago) := by
  have typed : (agoVariable.infer amounts).2 = .ok (.required .timeDuration) := rfl
  have built : (agoVariable.infer amounts).1.build amountHost =
      .ok (.constant (.of .timeDuration ago)) := rfl
  have decoder : (.timeDuration, "parse_time_duration") ∈ Functions.decoders := by decide
  have functions : amounts.functions = Functions.library := rfl
  obtain ⟨type, computes⟩ := Functions.decoded_text functions decoder typed {} {}
  exact ⟨type, computes _ _ _ _ built (Computer.constant_holds _)⟩

end Sample

end Rowwise
