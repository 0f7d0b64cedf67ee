import Rowwise.Regex.Footprint

/-!
# Matching programs

An expression is compiled to a row of steps that a backtracking search can follow.  After a step
comes the one behind it, unless it says otherwise.  A fork tries its first way before its second
one, which gives the greedy and the short repetitions, and the order of branches, their meaning.
-/

namespace Rowwise.Regex

open Text

inductive Step where
  | char (c : Char)
  /-- Accepts one character of a set. -/
  | one (s : CharSet)
  /-- Goes on only if a condition holds. -/
  | look (l : Look)
  /-- Remembers the position in a slot. -/
  | save (slot : Nat)
  /-- Tries two ways, the first one first. -/
  | fork (first second : Nat)
  | jump (target : Nat)
  | accept

abbrev Steps := Array Step

/-- A fork that prefers `more` if greedy, and otherwise `done`. -/
def Step.choice (greedy : Bool) (more done : Nat) : Step :=
  if greedy then .fork more done else .fork done more

/-- Puts steps in the places that were kept free for them. -/
def Steps.fill (steps : Steps) (places : List Nat) (s : Nat → Step) : Steps :=
  places.foldl (fun steps i => steps.setIfInBounds i (s i)) steps

mutual

/-- Adds the steps of an expression.  A place that is filled later holds `accept` so long. -/
def Expression.compile : Expression → Steps → Steps
  | empty, steps => steps
  | literal cs, steps => cs.foldl (fun steps c => steps.push (.char c)) steps
  | one _ s, steps => steps.push (.one s)
  | look l, steps => steps.push (.look l)
  | capture index e, steps =>
    (e.compile (steps.push (.save (2 * index)))).push (.save (2 * index + 1))
  | sequence es, steps => Expression.compileRow es steps
  | alternative es, steps =>
    let (steps, exits) := Expression.compileBranches [] es steps
    let behind := steps.size
    steps.fill exits fun _ => .jump behind
  | repetition least most greedy e, steps =>
    let times := fun n steps => n.fold (fun _ _ steps => e.compile steps) steps
    match most with
    | some most =>
      let (steps, forks) := (most - least).fold
        (fun _ _ (steps, forks) =>
          let fork := steps.size
          (e.compile (steps.push .accept), fork :: forks))
        (times least steps, [])
      let behind := steps.size
      steps.fill forks fun i => .choice greedy (i + 1) behind
    | none =>
      if least = 0 then
        let first := steps.size
        let steps := e.compile (steps.push .accept)
        let done := steps.size + 1
        let step := Step.choice greedy (first + 1) done
        (steps.push step).setIfInBounds first step
      else
        let steps := times (least - 1) steps
        let first := steps.size
        let steps := e.compile steps
        steps.push (.choice greedy first (steps.size + 1))

def Expression.compileRow : List Expression → Steps → Steps
  | [], steps => steps
  | e :: es, steps => Expression.compileRow es (e.compile steps)

/-- Adds the steps of branches, and answers the places from where to go on behind all of them. -/
def Expression.compileBranches (exits : List Nat) : List Expression → Steps → Steps × List Nat
  | [], steps => (steps, exits)
  | [e], steps => (e.compile steps, exits)
  | e :: es, steps =>
    let first := steps.size
    let steps := e.compile (steps.push .accept)
    let exit := steps.size
    Expression.compileBranches (exit :: exits) es
      ((steps.push .accept).setIfInBounds first (.fork (first + 1) (exit + 1)))

end

/-- A compiled expression. -/
structure Program where
  steps : Steps
  groups : Nat

/-- The program of an expression with so many groups, unless it is too large. -/
def Program.ofExpression? (e : Expression) (groups : Nat) : Except Flaw Program :=
  if e.fits then .ok ⟨((Expression.capture 0 e).compile #[]).push .accept, groups⟩
  else .error .tooLarge

end Rowwise.Regex
