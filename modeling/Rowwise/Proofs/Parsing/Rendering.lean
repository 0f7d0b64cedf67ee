import Rowwise.Proofs.Parsing.Finds
import Rowwise.Proofs.Parsing.Primaries

/-!
# Renderings are parsed as what they render

`Renders first L ts e` says that the tokens `ts` are a way to write the tree `e` where an expression
of the level `L` is asked for: the tokens of the tree in order, with parentheses around every operand
that is looser than its place allows, and around any other expression at will.  What the grammar
says about precedence and grouping is said here by the levels of the operands alone.

Two names ask for care.  A call named `not` cannot be written where a prefix `not` may stand, which
is what `first` tells: such a place is the beginning of an expression, of an operand of `and`, `or`
and `not`, and of their left operands in turn.  A call named `if` is taken for a block as long as
its arguments can be read as a condition, so that its first argument must not be a named one.
-/

namespace Rowwise

open Grammar Reader

/-- The first argument has a name. -/
def Args.BeginsNamed : Args → Prop
  | .cons (some _) _ _ => True
  | _ => False

/-- The tokens are a way to write the tree where an expression of the level is asked for. -/
inductive Renders : (first : Bool) → Level → List Token → Expr → Prop where
  | parens {first : Bool} {L : Level} {ts : List Token} {e : Expr} (h : Renders true .or ts e) :
      Renders first L (.mark "(" :: (ts ++ [.mark ")"])) e
  | constant {first : Bool} {L : Level} {note : Note} {c : Constant} {t : Token}
      (h : t.Denotes c) : Renders first L [t] (.constant note c)
  | column {first : Bool} {L : Level} {note : Note} {ref : ColumnRef} {ts : List Token}
      (h : ref.Renders ts) : Renders first L ts (.column note ref)
  | flowVariable {first : Bool} {L : Level} {note : Note} {n : String} {ts : List Token}
      (h : FlowVariableRenders n ts) : Renders first L ts (.flowVariable note n)
  | not {L : Level} {note : Note} {ts : List Token} {arg : Expr} (le : L ≤ .not)
      (h : Renders true .not ts arg) : Renders true L (.word "not" :: ts) (.unary note .not arg)
  | minus {first : Bool} {L : Level} {note : Note} {ts : List Token} {arg : Expr}
      (le : L ≤ .minus) (h : Renders false .minus ts arg) :
      Renders first L (.mark "-" :: ts) (.unary note .minus arg)
  | binary {first : Bool} {L : Level} {note : Note} {tl tr : List Token} {t : Token}
      {l r : Expr} {op : BinaryOp} (le : L ≤ op.level) (hl : Renders first op.level.left tl l)
      (hop : op.Spells t) (hr : Renders op.isLogical op.level.right tr r) :
      Renders first L (tl ++ t :: tr) (.binary note l op r)
  | conditional {first : Bool} {L : Level} {note : Note} {cs ys ns : List Token} {c y n : Expr}
      (hc : Renders true .or cs c) (hy : Renders true .or ys y) (hn : Renders true .or ns n) :
      Renders first L (blockTokens cs ys ns) (.conditional note c y n)
  | call {first : Bool} {L : Level} {note : Note} {name : String} {args : Args}
      {resolution : Option Resolution} {ts : List Token}
      (h : ArgumentsTokens (Renders true .or) args ts)
      (notPrefix : first = true → name ≠ "not") (notBlock : name = "if" → ¬args.BeginsNamed) :
      Renders first L (.word name :: .mark "(" :: (ts ++ [.mark ")"]))
        (.call note (Callee.ofName name) name args resolution)

/-- What is rendered is readable, and only begins like a prefix `not` where it may. -/
structure Sound (first : Bool) (L : Level) (ts : List Token) (e : Expr) : Prop where
  readable : Readable L ts e
  notPrefix : first = true → .not < L → ts.head? ≠ some (.word "not")

/-- What is asked for may be looser than what is written. -/
theorem Sound.loosen {first : Bool} {L M : Level} {ts : List Token} {e : Expr}
    (h : Sound first M ts e) (le : L ≤ M) (start : L ≤ .not → first = true) :
    Sound first L ts e where
  readable := h.readable.loosenTo le fun hL => h.notPrefix (start hL)
  notPrefix hfirst hL := h.notPrefix hfirst (Level.lt_of_lt_of_le hL le)

theorem Level.le_left (L : Level) : L ≤ L.left := by cases L <;> decide

/-- Only the operands of `and` and `or` may begin with a prefix `not`. -/
theorem BinaryOp.isLogical_of_right {op : BinaryOp} (h : op.level.right ≤ .not) :
    op.isLogical = true := by
  cases op <;> first | rfl | exact absurd h (by decide)

/-- By induction on the number of tokens: parentheses leave the tree as it is. -/
theorem Renders.sound {first : Bool} {L : Level} {ts : List Token} {e : Expr}
    (h : Renders first L ts e) (start : L ≤ .not → first = true) : Sound first L ts e := by
  induction hn : ts.length using Nat.strongRecOn generalizing first L ts e with
  | ind n ih =>
    subst hn
    have tight {M : Level} : M ≤ .primary := by cases M <;> decide
    have inside {us : List Token} {f : Expr} (h : Renders true .or us f)
        (lt : us.length < ts.length) : Readable .or us f := (ih _ lt h (fun _ => rfl) rfl).readable
    cases h with
    | @parens _ _ us _ h =>
        have shorter : us.length < (Token.mark "(" :: (us ++ [.mark ")"])).length := by
          rw [List.length_cons, List.length_append]
          omega
        exact .loosen ⟨(inside h shorter).parens, by simp⟩ tight start
    | constant h =>
        refine .loosen ⟨.constant h, fun _ _ same => ?_⟩ tight start
        cases same
        obtain ⟨d, hd, _⟩ := h
        exact (namedConstant_ne hd).2 rfl
    | column h => exact .loosen ⟨.column h, by cases h <;> simp⟩ tight start
    | flowVariable h => exact .loosen ⟨.flowVariable h, by cases h <;> simp⟩ tight start
    | not le h =>
        have arg := ih _ (by simp) h (fun _ => rfl) rfl
        refine .loosen ⟨arg.readable.not, fun _ lt => ?_⟩ le start
        exact absurd lt (by decide)
    | minus le h =>
        have arg := ih _ (by simp) h (fun le => absurd le (by decide)) rfl
        exact .loosen ⟨arg.readable.negation, by simp⟩ le start
    | @binary _ _ _ tl tr t l r op le hl hop hr =>
        have left := ih tl.length (by simp) hl (fun hleft =>
          start (Nat.le_trans (Nat.le_trans le op.level.le_left) hleft)) rfl
        have right := ih tr.length (by simp; omega) hr BinaryOp.isLogical_of_right rfl
        refine .loosen ⟨left.readable.binary hop right.readable, fun hfirst lt => ?_⟩ le start
        rw [left.readable.opens.head_append]
        exact left.notPrefix hfirst (Level.lt_of_lt_of_le lt op.level.le_left)
    | conditional hc hy hn =>
        have condition := inside hc (by rw [length_blockTokens]; omega)
        have yes := inside hy (by rw [length_blockTokens]; omega)
        have no := inside hn (by rw [length_blockTokens]; omega)
        exact .loosen ⟨condition.conditional yes no, by simp [blockTokens]⟩ tight start
    | @call _ _ _ name args _ ts h notPrefix notBlock =>
        have arguments : ArgumentsTokens (Readable .or) args ts :=
          h.mono fun us f le h => inside h (by simp; omega)
        have block (same : name = "if") : NoBlock ts := by
          cases args with
          | nil =>
              cases arguments
              exact noBlock_nil
          | cons n value rest =>
              cases n with
              | none => exact noBlock_positional arguments
              | some n => exact absurd trivial (notBlock same)
        refine .loosen ⟨.call arguments rfl block, fun hfirst _ same => ?_⟩ tight start
        cases same
        exact notPrefix hfirst rfl

/-- Every rendering of a tree is parsed as the tree, whatever stands between its tokens. -/
theorem Renders.parsed {ts : List Token} {e : Expr} {source : String}
    (h : Renders true .or ts e) (spelled : Spelled ts source.toList) :
    ∃ f, parse source = .ok f ∧ f.erase = e.erase :=
  (h.sound fun _ => rfl).readable.parse spelled

namespace Sample

/-- The tokens of `not 1 - $x * (2)`. -/
def grouping : List Token :=
  [.word "not", .integer 1, .mark "-", .column "x", .mark "*", .mark "(", .integer 2, .mark ")"]

/-- The product is grouped first, then the difference, then the negation. -/
def grouped : Expr :=
  .unary {} .not (.binary {} (.constant {} (.integer 1)) .minus
    (.binary {} (.column {} (.named "x" 0)) .multiply (.constant {} (.integer 2))))

theorem renders_grouping : Renders true .or grouping grouped := by
  have one : Renders true .sum [.integer 1] (.constant {} (.integer 1)) :=
    .constant (by exact rfl)
  have two : Renders false .minus [.mark "(", .integer 2, .mark ")"] (.constant {} (.integer 2)) :=
    .parens (.constant (by exact rfl))
  have x : Renders false .product [.column "x"] (.column {} (.named "x" 0)) := .column .plain
  have product : Renders false .product ([.column "x"] ++ .mark "*" :: [.mark "(", .integer 2,
      .mark ")"]) (.binary {} (.column {} (.named "x" 0)) .multiply (.constant {} (.integer 2))) :=
    .binary (by decide) x ⟨"*", .head _, rfl⟩ two
  have difference : Renders true .not ([.integer 1] ++ .mark "-" :: [.column "x", .mark "*",
      .mark "(", .integer 2, .mark ")"]) (.binary {} (.constant {} (.integer 1)) .minus
        (.binary {} (.column {} (.named "x" 0)) .multiply (.constant {} (.integer 2)))) :=
    .binary (by decide) one ⟨"-", .head _, rfl⟩ product
  exact .not (by decide) difference

theorem spelled_grouping : Spelled grouping "not 1 -$x*(2)# two\n".toList := by
  have one : (Token.integer 1).Writes ['1'] := ⟨⟨'1', [], rfl, rfl, by simp⟩, rfl⟩
  have two : (Token.integer 2).Writes ['2'] := ⟨⟨'2', [], rfl, rfl, by simp⟩, rfl⟩
  have column : (Token.column "x").Writes ['$', 'x'] := ⟨rfl, rfl⟩
  have comment : Gap ('#' :: (" two".toList ++ ['\n'])) := .comment (by simp) .nil
  have close := (Spelled.nil comment).mark ")" (by decide)
  have factor := (close.token two fun _ => lacks_cons.mpr rfl).mark "(" (by decide)
  have product := (factor.mark "*" (by decide)).token column fun _ => lacks_cons.mpr rfl
  have difference := (product.mark "-" (by decide)).space.token one fun _ => lacks_cons.mpr rfl
  exact difference.space.word "not" (by decide) (lacks_cons.mpr rfl)

theorem grouping_parsed : ∃ f, parse "not 1 -$x*(2)# two\n" = .ok f ∧ f.erase = grouped.erase :=
  Renders.parsed renders_grouping spelled_grouping

/-- Whether the text is parsed as the tree. -/
def isRead (source : String) (e : Expr) : Bool := (parse source).toOption.any (·.same e)

/-- The blanks of ASCII, of which a form feed is none in an expression. -/
def asciiBlanks : List Char := [' ', '\t', '\n', '\x0c', '\r']

def onePlusTwo : Expr :=
  .binary {} (.constant {} (.integer 1)) .plus (.constant {} (.integer 2))

/-- A call with one argument. -/
def callOf (name : String) (label : Option String) : Expr :=
  .call {} .function name (.cons label (.constant {} (.integer 1)) .nil) none

/-- Between the tokens of a rendering not every blank of ASCII may stand, and the names `not` and
`if` are no names like others. -/
theorem renderings_refused :
    (Renders true .or [.integer 1, .mark "+", .integer 2] onePlusTwo ∧ '\x0c' ∈ asciiBlanks ∧
      isRead "1\x0c+ 2" onePlusTwo = false) ∧
    isRead "not(1)" (callOf "not" none) = false ∧
    isRead "if(x=1)" (callOf "if" (some "x")) = false := by
  have one : Renders true .sum [.integer 1] (.constant {} (.integer 1)) := .constant (by exact rfl)
  have two : Renders false .product [.integer 2] (.constant {} (.integer 2)) :=
    .constant (by exact rfl)
  have sum : Renders true .or ([.integer 1] ++ .mark "+" :: [.integer 2]) onePlusTwo :=
    .binary (by decide) one ⟨"+", .head _, rfl⟩ two
  exact ⟨⟨sum, by decide, by decide +kernel⟩, by decide +kernel, by decide +kernel⟩

end Sample

end Rowwise
