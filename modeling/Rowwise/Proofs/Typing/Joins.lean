import Rowwise.Typing.Operators

/-!
# Joins of many types

The types of several values are joined in two ways.  A list of types is joined from the left, and
nested conditionals join the type of one branch with that of everything behind it, from the right,
and become optional at every level whose condition is.  Both come to the same (`choiceType_eq`),
because joining is associative where it succeeds (`ValueType.join_assoc`) and a side that is made
optional makes the join optional and changes nothing else (`ValueType.join_withOptional`).
-/

namespace Rowwise

/-! ## Joining twice -/

/-- The kind that two kinds have in common. -/
def Kind.join (k l : Kind) : Option Kind :=
  if k = l then some k
  else if k.isNumeric && l.isNumeric then some .float
  else none

theorem Kind.join_assoc (k l m : Kind) :
    (k.join l).bind (·.join m) = (l.join m).bind (k.join ·) := by
  have all : ∀ k ∈ Kind.all, ∀ l ∈ Kind.all, ∀ m ∈ Kind.all,
      (k.join l).bind (·.join m) = (l.join m).bind (k.join ·) := by decide +kernel
  exact all k k.mem_all l l.mem_all m m.mem_all

namespace ValueType

theorem join_of (k l : Kind) (o p : Bool) :
    (of k o).join (of l p) = (k.join l).map (of · (o || p)) := by
  unfold join Kind.join
  grind

theorem missing_join (t : ValueType) : missing.join t = some t.optionalForm := rfl

theorem join_missing (t : ValueType) : t.join missing = some t.optionalForm := by
  cases t <;> rfl

theorem optionalForm_of (k : Kind) (o : Bool) : (of k o).optionalForm = of k true := rfl

/-- It does not matter which two of three types are joined first. -/
theorem join_assoc (a b c : ValueType) :
    (a.join b).bind (·.join c) = (b.join c).bind (a.join ·) := by
  cases b with
  | missing =>
      rw [join_missing, missing_join, Option.bind_some, Option.bind_some]
      cases a with
      | missing => cases c <;> rfl
      | of k o =>
          cases c with
          | missing => rfl
          | of m q => simp [join_of, optionalForm_of]
  | of l p =>
      cases a with
      | missing =>
          cases c with
          | missing => rfl
          | of m q =>
              rw [missing_join, Option.bind_some, optionalForm_of, join_of, join_of]
              cases l.join m <;> rfl
      | of k o =>
          cases c with
          | missing =>
              rw [join_of, join_missing, Option.bind_some, optionalForm_of, join_of, Bool.or_true]
              cases k.join l <;> rfl
          | of m q =>
              -- Kinds may be joined in either order, and so may the options to be MISSING.
              have kinds := congrArg (Option.map (of · (o || (p || q)))) (Kind.join_assoc k l m)
              rw [Option.map_bind, Option.map_bind] at kinds
              rw [join_of, join_of, Option.bind_map, Option.bind_map]
              simpa only [Function.comp_def, join_of, Bool.or_assoc] using kinds

theorem foldlM_join (a b : ValueType) (ts : List ValueType) :
    (a.join b).bind (fun c => ts.foldlM join c) = (ts.foldlM join b).bind (a.join ·) := by
  induction ts generalizing a b with
  | nil => exact Option.bind_fun_some _
  | cons t ts ih =>
      have step (c : ValueType) :
          (t :: ts).foldlM join c = (c.join t).bind fun d => ts.foldlM join d := by
        rw [List.foldlM_cons]
        rfl
      simp only [step]
      rw [← Option.bind_assoc, join_assoc, Option.bind_assoc, Option.bind_assoc]
      simp only [ih]

/-- The join of a list is the join of its head with that of the rest. -/
theorem joinAll_cons {t : ValueType} {ts : List ValueType} (some : ts ≠ []) :
    joinAll (t :: ts) = (joinAll ts).bind (t.join ·) := by
  cases ts with
  | nil => exact absurd rfl some
  | cons u us =>
      rw [joinAll, joinAll, ← foldlM_join, List.foldlM_cons]
      rfl

/-! ## Optional sides -/

theorem withOptional_isOptional (t : ValueType) : t.withOptional t.isOptional = t := by
  cases t <;> rfl

theorem optionalForm_if (t : ValueType) (o : Bool) :
    (if o then t.optionalForm else t) = t.withOptional (t.isOptional || o) := by
  cases o with
  | true => rw [if_pos rfl, Bool.or_true, optionalForm]
  | false => rw [if_neg Bool.false_ne_true, Bool.or_false, withOptional_isOptional]

theorem withOptional_or (t : ValueType) (o p : Bool) :
    (t.withOptional (t.isOptional || o)).withOptional
        ((t.withOptional (t.isOptional || o)).isOptional || p) =
      t.withOptional (t.isOptional || (p || o)) := by
  cases t with
  | missing => rfl
  | of k q =>
      change of k (q || o || p) = of k (q || (p || o))
      rw [Bool.or_assoc, Bool.or_comm o]

/-- A side that is made optional makes the join optional, and nothing else. -/
theorem join_withOptional (a b : ValueType) (o : Bool) :
    a.join (b.withOptional (b.isOptional || o)) =
      (a.join b).map fun t => t.withOptional (t.isOptional || o) := by
  cases a with
  | missing => cases b <;> rfl
  | of k p =>
      cases b with
      | missing => rfl
      | of l q =>
          simp [withOptional, ofBase, base, isOptional, join_of, Function.comp_def, Bool.or_assoc]

end ValueType

/-! ## Nested conditionals -/

/-- The type of nested conditionals, given the types of their conditions with those of their values
and the type of the value at the end. -/
def choiceType : List (ValueType × ValueType) → ValueType → Option ValueType
  | [], otherwise => some otherwise
  | p :: ps, otherwise =>
    (choiceType ps otherwise).bind fun t => (conditionalType p.1 p.2 t).toOption

theorem conditionalType_toOption (c y n : ValueType) :
    (conditionalType c y n).toOption =
      if c.base = some .boolean then
        (y.join n).map fun t => t.withOptional (t.isOptional || c.isOptional)
      else none := by
  unfold conditionalType
  by_cases h : c.base = some .boolean
  · rw [if_neg fun other => other h, if_pos h]
    cases y.join n <;> rfl
  · rw [if_pos h, if_neg h]
    rfl

/-- Nested conditionals have the common type of all values, which is optional also if one of the
conditions is. -/
theorem choiceType_eq (ps : List (ValueType × ValueType)) (o : ValueType) :
    choiceType ps o =
      if ∀ p ∈ ps, p.1.base = some .boolean then
        (ValueType.joinAll (ps.map (·.2) ++ [o])).map fun t =>
          t.withOptional (t.isOptional || ps.any (·.1.isOptional))
      else none := by
  induction ps with
  | nil =>
      rw [if_pos fun _ h => nomatch h]
      change some o = some (o.withOptional (o.isOptional || false))
      rw [Bool.or_false, o.withOptional_isOptional]
  | cons p ps ih =>
      have nonempty : ps.map (·.2) ++ [o] ≠ [] := by simp
      simp only [choiceType, conditionalType_toOption, ih, List.forall_mem_cons]
      by_cases hp : p.1.base = some .boolean
      · by_cases hps : ∀ q ∈ ps, q.1.base = some .boolean
        · rw [if_pos hps, if_pos ⟨hp, hps⟩, List.map_cons, List.cons_append,
            ValueType.joinAll_cons nonempty, Option.bind_map, Option.map_bind]
          refine congrArg (Option.bind _) (funext fun t => ?_)
          simp only [Function.comp_def, if_pos hp, ValueType.join_withOptional, Option.map_map,
            ValueType.withOptional_or, List.any_cons]
        · rw [if_neg hps, if_neg fun both => hps both.2]
          rfl
      · simp only [Option.bind_fun_none, hp, false_and, if_false]

/-- Conditions that are never missing leave the common type of the values. -/
theorem choiceType_required (ps : List (ValueType × ValueType)) (o : ValueType) :
    choiceType (ps.map fun p => (.required .boolean, p.2)) o =
      ValueType.joinAll (ps.map (·.2) ++ [o]) := by
  have conditions : ∀ p ∈ ps.map fun p => (ValueType.required .boolean, p.2),
      p.1.base = some .boolean := List.forall_mem_map.mpr fun _ _ => rfl
  have certain : (ps.map fun p => (ValueType.required .boolean, p.2)).any (·.1.isOptional) =
      false := by simp [ValueType.isOptional]
  have same (t : ValueType) : t.withOptional (t.isOptional || false) = t := by
    rw [Bool.or_false, t.withOptional_isOptional]
  rw [choiceType_eq, if_pos conditions, certain, List.map_map]
  simp only [same, Option.map_id_fun']
  rfl

end Rowwise
