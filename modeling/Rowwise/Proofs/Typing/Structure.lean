import Rowwise.Proofs.Parsing.Levels
import Rowwise.Proofs.Typing.Inference

/-!
# Typing keeps the structure of a tree

Typing writes types and bindings and nothing else, so the tree without them stays what it was:
`Expr.fresh_infer`, and without spans `Expr.erase_infer`.  Hence what the nodes of a tree read can
be said of the tree that was parsed as well as of the one that was typed:
`Expr.exists_mem_nodes_infer` finds every node in the other tree.
-/

namespace Rowwise

open Typing

variable {ctx : TypingContext}

/-! ## The tree without notes -/

/-- The note of a node that has not been typed. -/
def Note.fresh (note : Note) : Note := { note with type := none }

mutual

/-- The tree as it was before it was typed: without types and bindings, with the same spans. -/
def Expr.fresh : Expr → Expr
  | .constant note c => .constant note.fresh c
  | .column note ref => .column note.fresh ref
  | .flowVariable note name => .flowVariable note.fresh name
  | .unary note op arg => .unary note.fresh op arg.fresh
  | .binary note left op right => .binary note.fresh left.fresh op right.fresh
  | .conditional note condition yes no =>
    .conditional note.fresh condition.fresh yes.fresh no.fresh
  | .call note callee name args _ => .call note.fresh callee name args.fresh none

def Args.fresh : Args → Args
  | .nil => .nil
  | .cons name value rest => .cons name value.fresh rest.fresh

end

mutual

/-- A tree that has not been typed is as it was. -/
theorem Expr.Untyped.fresh_eq : ∀ {e : Expr}, e.Untyped → e.fresh = e
  | .constant _ _, h | .column _ _, h | .flowVariable _ _, h => by
      rw [Expr.Untyped] at h
      rw [Expr.fresh, Note.fresh, ← h]
  | .unary _ _ _, h => by
      rw [Expr.fresh, Note.fresh, ← h.1, h.2.fresh_eq]
  | .binary _ _ _ _, h => by
      rw [Expr.fresh, Note.fresh, ← h.1, h.2.1.fresh_eq, h.2.2.fresh_eq]
  | .conditional _ _ _ _, h => by
      rw [Expr.fresh, Note.fresh, ← h.1, h.2.1.fresh_eq, h.2.2.1.fresh_eq, h.2.2.2.fresh_eq]
  | .call _ _ _ _ _, h => by
      rw [Expr.fresh, Note.fresh, ← h.1, ← h.2.1, h.2.2.fresh_eq]

theorem Args.Untyped.fresh_eq : ∀ {args : Args}, args.Untyped → args.fresh = args
  | .nil, _ => rfl
  | .cons _ _ _, h => by rw [Args.fresh, h.1.fresh_eq, h.2.fresh_eq]

end

theorem Expr.fresh_withNote {note : Note} {e : Expr} (h : note.span = e.note.span) :
    (e.withNote note).fresh = e.fresh := by
  cases e <;> simp only [withNote, fresh, Note.fresh, h] <;> rfl

theorem Typing.fresh_settle (e : Expr) (r : Inferred) : (settle e r).1.fresh = e.fresh := by
  obtain ⟨note, left⟩ := settle_fst e r
  rw [left]
  refine Expr.fresh_withNote ?_
  rw [← note_span_settle e r, left, Expr.note_withNote]

theorem Args.fresh_noteLiterals (args : Args) : args.noteLiterals.fresh = args.fresh := by
  cases args with
  | nil => rfl
  | cons _ value rest =>
      have ih := fresh_noteLiterals rest
      cases value <;> simp only [noteLiterals, fresh, Expr.fresh, Note.fresh, ih]

mutual

/-- Typing changes types and bindings only. -/
theorem Expr.fresh_infer (ctx : TypingContext) : ∀ e : Expr, (e.infer ctx).1.fresh = e.fresh
  | .constant _ _ | .column _ _ | .flowVariable _ _ => fresh_settle _ _
  | .unary _ _ arg => by
      rw [Expr.infer, fresh_settle, Expr.fresh, Expr.fresh_infer ctx arg, Expr.fresh]
  | .binary _ left _ right => by
      rw [Expr.infer, fresh_settle, Expr.fresh, Expr.fresh_infer ctx left,
        Expr.fresh_infer ctx right, Expr.fresh]
  | .conditional _ condition yes no => by
      rw [Expr.infer, fresh_settle, Expr.fresh, Expr.fresh_infer ctx condition,
        Expr.fresh_infer ctx yes, Expr.fresh_infer ctx no, Expr.fresh]
  | .call _ .function _ args _ => by
      rw [Expr.infer, fresh_settle, Expr.fresh, Args.fresh_infer ctx args, Expr.fresh]
  | .call _ .aggregation _ args _ => by
      rw [Expr.infer]
      split
      · rfl
      · rw [fresh_settle, Expr.fresh, Args.fresh_noteLiterals, Expr.fresh]

theorem Args.fresh_infer (ctx : TypingContext) :
    ∀ args : Args, (args.infer ctx).1.fresh = args.fresh
  | .nil => rfl
  | .cons _ value rest => by
      rw [Args.infer, Args.fresh, Expr.fresh_infer ctx value, Args.fresh_infer ctx rest, Args.fresh]

end

/-! ## The tree without spans -/

mutual

theorem Expr.erase_fresh : ∀ e : Expr, e.fresh.erase = e.erase
  | .constant _ _ | .column _ _ | .flowVariable _ _ => rfl
  | .unary _ _ arg => by
      rw [Expr.fresh, Expr.erase, Expr.erase_fresh arg, Expr.erase]
  | .binary _ left _ right => by
      rw [Expr.fresh, Expr.erase, Expr.erase_fresh left, Expr.erase_fresh right, Expr.erase]
  | .conditional _ condition yes no => by
      rw [Expr.fresh, Expr.erase, Expr.erase_fresh condition, Expr.erase_fresh yes,
        Expr.erase_fresh no, Expr.erase]
  | .call _ _ _ args _ => by
      rw [Expr.fresh, Expr.erase, Args.erase_fresh args, Expr.erase]

theorem Args.erase_fresh : ∀ args : Args, args.fresh.erase = args.erase
  | .nil => rfl
  | .cons _ value rest => by
      rw [Args.fresh, Args.erase, Expr.erase_fresh value, Args.erase_fresh rest, Args.erase]

end

theorem Expr.erase_infer (ctx : TypingContext) (e : Expr) : (e.infer ctx).1.erase = e.erase := by
  rw [← Expr.erase_fresh, Expr.fresh_infer, Expr.erase_fresh]

mutual

theorem Expr.nodes_erase : ∀ e : Expr, e.erase.nodes = e.nodes.map Expr.erase
  | .constant _ _ | .column _ _ | .flowVariable _ _ => rfl
  | .unary _ _ arg => by
      simp only [Expr.erase, Expr.nodes, List.map_cons, Expr.nodes_erase arg]
  | .binary _ left _ right => by
      simp only [Expr.erase, Expr.nodes, List.map_cons, List.map_append, Expr.nodes_erase left,
        Expr.nodes_erase right]
  | .conditional _ condition yes no => by
      simp only [Expr.erase, Expr.nodes, List.map_cons, List.map_append,
        Expr.nodes_erase condition, Expr.nodes_erase yes, Expr.nodes_erase no]
  | .call _ _ _ args _ => by
      simp only [Expr.erase, Expr.nodes, List.map_cons, Args.nodes_erase args]

theorem Args.nodes_erase : ∀ args : Args, args.erase.nodes = args.nodes.map Expr.erase
  | .nil => rfl
  | .cons _ value rest => by
      simp only [Args.erase, Args.nodes, List.map_append, Expr.nodes_erase value,
        Args.nodes_erase rest]

end

/-- The nodes before and after typing are the same but for their notes and bindings. -/
theorem Expr.map_erase_nodes_infer (ctx : TypingContext) (e : Expr) :
    (e.infer ctx).1.nodes.map Expr.erase = e.nodes.map Expr.erase := by
  rw [← Expr.nodes_erase, Expr.erase_infer, Expr.nodes_erase]

/-- Every node of a tree is there after typing. -/
theorem Expr.exists_mem_nodes_infer {e n : Expr} (hn : n ∈ e.nodes) :
    ∃ typed ∈ (e.infer ctx).1.nodes, typed.erase = n.erase := by
  have mem : n.erase ∈ (e.infer ctx).1.nodes.map Expr.erase := by
    rw [Expr.map_erase_nodes_infer]
    exact List.mem_map_of_mem hn
  exact List.mem_map.mp mem

/-- An access to a column is one without its note, too. -/
theorem Expr.erase_eq_column {e : Expr} {ref : ColumnRef} (h : e.erase = .column {} ref) :
    ∃ note, e = .column note ref := by
  cases e <;> simp only [Expr.erase] at h <;> cases h
  exact ⟨_, rfl⟩

end Rowwise
