import Rowwise.Proofs.Functions.Calendar
import Rowwise.Proofs.Functions.Choice
import Rowwise.Functions.BuiltIn

/-!
# The library of built-in functions is sound

Every function that the library finds under a name is one of the built-in ones, of which each was
shown to keep to its type rule: those that round only where their argument is not NaN.
-/

namespace Rowwise

variable {R : Regime}

/-- What a library finds under a name was put in under that name. -/
theorem Library.of_get?_ofList {α : Type} {name : α → String} {items : List α} {n : String} {a : α}
    (h : (Library.ofList name items).get? n = some a) : a ∈ items ∧ name a = n := by
  have fold : ∀ (items : List α) (l : Library α),
      (items.foldl (fun l a => l.insert (name a) a) l).get? n = some a →
        (a ∈ items ∧ name a = n) ∨ l.get? n = some a := by
    intro items
    induction items with
    | nil => exact fun l h => .inr h
    | cons b items ih =>
        intro l h
        obtain ⟨ha, hn⟩ | h := ih _ h
        · exact .inl ⟨.tail _ ha, hn⟩
        · rw [Named.get?_insert] at h
          split at h
          · next hn =>
              cases h
              exact .inl ⟨.head _, hn.symm⟩
          · exact .inr h
  obtain h | h := fold items _ h
  · exact h
  · cases h

namespace Functions

/-- Every built-in function is sound in regimes where required values may be read unasked; the one
that may cut an evaluation short, where that is permitted. -/
theorem builtIn_sound {f : Function} (hf : f ∈ builtIns) (unasked : R.unasked)
    (aborted : f.name = "make_zoned" → R.permits .aborted) :
    f.name ∉ roundingNames ∧ f.Sound R ∨ f.name ∈ roundingNames ∧ f.SoundOnNumbers R := by
  have strings : AllSound R (layout ++ conversions ++ matching ++ slicing ++ editing) :=
    .append (.append (.append (.append layout_sound conversions_sound) matching_sound)
      slicing_sound) editing_sound
  have numbers : AllSound R (arithmetic ++ rounding ++ summaries ++ trigonometry ++ distributions) :=
    .append (.append (.append (.append arithmetic_sound rounding_sound) summaries_sound)
      trigonometry_sound) distributions_sound
  have calendar : AllSound R (current ++ extraction ++ parsing ++ formatting ++ calendarArithmetic) :=
    .append (.append (.append (.append current_sound extraction_sound) parsing_sound)
      (formatting_sound unasked)) calendarArithmetic_sound
  have split : builtIns = control ++ (arithmetic ++ rounding ++ summaries ++ trigonometry ++
      distributions) ++ (layout ++ conversions ++ matching ++ slicing ++ editing) ++ (making ++
      (current ++ extraction ++ parsing ++ formatting ++ calendarArithmetic)) := by
    simp only [builtIns, List.append_assoc]
  rw [split, List.mem_append, List.mem_append (s := making)] at hf
  obtain others | makes | reads := hf
  · exact ((control_sound.append numbers).append strings) f others
  · exact making_sound makes aborted f (.head _)
  · exact calendar f reads

end Functions

/-- Contexts with the built-in functions and aggregations agree on them. -/
theorem TypingContext.agree_of_libraries {contexts : List TypingContext}
    (functions : ∀ c ∈ contexts, c.functions = Functions.library)
    (aggregations : ∀ c ∈ contexts, c.aggregations = Aggregation.library) :
    TypingContext.Agree contexts where
  functions c hc d hd n k f g hf hg same := by
    rw [functions c hc] at hf
    rw [functions d hd] at hg
    have hn := (Library.of_get?_ofList hf).2
    have hk := (Library.of_get?_ofList hg).2
    have names : f.name = g.name := beq_iff_eq.mp (Bool.and_eq_true_iff.mp same).2
    rw [← hn, names, hk, hg] at hf
    exact (Option.some.inj hf).symm
  aggregations c hc d hd n k a b ha hb names := by
    rw [aggregations c hc] at ha
    rw [aggregations d hd] at hb
    have hn := (Library.of_get?_ofList ha).2
    have hk := (Library.of_get?_ofList hb).2
    rw [← hn, names, hk, hb] at ha
    exact (Option.some.inj ha).symm

end Rowwise
