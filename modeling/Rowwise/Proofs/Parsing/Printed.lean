import Rowwise.Expr.Printer
import Rowwise.Proofs.Decimal.FloatText
import Rowwise.Proofs.Parsing.Finds
import Rowwise.Proofs.Parsing.Primaries

/-!
# Printed forms as tokens

`Expr.tokens` lists the tokens of a printed form, and `Expr.prints` says that the printed form
spells them.  What follows a printed form must not go on with its last word or number.

A literal is printed in one token.  For an integer that needs a number without a sign, and for a
float also that the digits which are printed are read as the same float: `Constant.Restored` asks for
that, since it is what the text forms of floats are made for.  No float fails it (`restored_all`).
-/

namespace Rowwise

open Decimal Grammar Printer Reader

/-! ## Numbers -/

theorem digits_digits (n : Nat) : Digits (digits n) :=
  ⟨digits_ne_nil n, fun _ h => isDigit_of_mem_digits h⟩

/-- An integer is printed as digits behind at most one minus sign. -/
theorem intText_eq (n : Int) : ∃ (sign : Option Char) (ds : List Char),
    intText n = sign.toList ++ ds ∧ (∀ c, sign = some c → c = '-') ∧ Digits ds := by
  cases n with
  | ofNat n => exact ⟨none, digits n, rfl, by simp, digits_digits n⟩
  | negSucc n => exact ⟨some '-', digits (n + 1), rfl, by simp, digits_digits _⟩

theorem integerOfDigits_intText (n : Int64) : integerOfDigits (intText n.toInt) = .ok n := by
  rw [integerOfDigits, Integer.read?_text]

theorem writes_integer {n : Int64} (h : 0 ≤ n.toInt) :
    (Token.integer n).Writes (intText n.toInt) := by
  obtain ⟨k, hk⟩ : ∃ k : Nat, n.toInt = k := Int.eq_ofNat_of_zero_le h
  have text : intText n.toInt = digits k := by rw [hk]; rfl
  obtain ⟨c, cs, same, digit⟩ := exists_digits_eq_cons k
  have all : ∀ a ∈ digits k, a.isDigit = true := fun a => isDigit_of_mem_digits
  have plain : (digits k).filter (· != '_') = digits k := by
    rw [List.filter_eq_self]
    intro a ha
    rw [bne_iff_ne]
    rintro rfl
    cases all _ ha
  refine ⟨⟨c, cs, text.trans same, digit, fun a ha => ?_⟩, ?_⟩
  · rw [all a (same ▸ .tail _ ha), Bool.true_or]
  · rw [text, plain, ← text]
    exact integerOfDigits_intText n

theorem writes_offset (n : Int64) : (Token.offset n).Writes (intText n.toInt) := by
  obtain ⟨sign, ds, text, minus, digits⟩ := intText_eq n.toInt
  exact ⟨sign, ds, text, fun c hc => .inr (minus c hc), digits, integerOfDigits_intText n⟩

namespace FloatText

theorem isExponent_intText (n : Int) : IsExponent ('e' :: intText n) := by
  obtain ⟨sign, ds, text, minus, digits⟩ := intText_eq n
  refine ⟨'e', sign, ds, ?_, .inl rfl, fun c hc => .inr (minus c hc), digits⟩
  rw [text]
  rfl

/-- Digits without a point get one. -/
theorem isFloat_withPoint_digits {ds : List Char} (h : Digits ds) : IsFloat (withPoint ds) := by
  have none : ds.contains '.' = false := by
    rw [List.contains_eq_mem, decide_eq_false_iff_not]
    intro mem
    cases h.2 _ mem
  have point : withPoint ds = ds ++ '.' :: ['0'] ++ [] := by
    rw [withPoint, none, List.append_nil]
    rfl
  rw [point]
  exact .point h (by simp) (.inl rfl)

/-- A point stays where it is. -/
theorem isFloat_withPoint {whole fraction : List Char} (hw : Digits whole)
    (hf : ∀ c ∈ fraction, c.isDigit = true) : IsFloat (withPoint (whole ++ '.' :: fraction)) := by
  have point : withPoint (whole ++ '.' :: fraction) = whole ++ '.' :: fraction ++ [] := by
    rw [withPoint, if_pos (by simp), List.append_nil]
  rw [point]
  exact .point hw hf (.inl rfl)

theorem isFloat_positional (s : Scaled) : IsFloat (withPoint s.positional) := by
  have digits : Digits s.digits := digits_digits s.significand
  have zeros (n : Nat) : ∀ c ∈ List.replicate n '0', c.isDigit = true := by
    intro c hc
    rw [List.eq_of_mem_replicate hc]
    decide
  unfold Scaled.positional
  split
  · split
    · exact isFloat_withPoint_digits digits
    · refine isFloat_withPoint_digits ⟨by simp [digits.1], fun c hc => ?_⟩
      rcases List.mem_append.mp hc with hc | hc
      · exact digits.2 c hc
      · exact zeros _ c hc
  · dsimp only
    split
    · next enough =>
        refine isFloat_withPoint ⟨?_, fun c hc => ?_⟩ fun c hc => ?_
        · rw [ne_eq, List.take_eq_nil_iff, not_or]
          exact ⟨by omega, digits.1⟩
        · exact digits.2 c (List.mem_of_mem_take hc)
        · exact digits.2 c (List.mem_of_mem_drop hc)
    · have zero : Digits ['0'] := ⟨List.cons_ne_nil _ _, by simp⟩
      refine isFloat_withPoint zero fun c hc => ?_
      rcases List.mem_append.mp hc with hc | hc
      · exact zeros _ c hc
      · exact digits.2 c hc

theorem isFloat_scientific (s : Scaled) (exponent : Int) :
    IsFloat (s.mantissaText ++ 'e' :: intText exponent) := by
  have digits : Digits s.digits := digits_digits s.significand
  have power : IsExponent ('e' :: intText exponent) := isExponent_intText exponent
  unfold Scaled.mantissaText
  cases h : s.digits with
  | nil => exact absurd h digits.1
  | cons d ds =>
      rw [h] at digits
      have first : Digits [d] :=
        ⟨List.cons_ne_nil _ _, fun c hc => digits.2 c (List.mem_singleton.mp hc ▸ .head _)⟩
      cases ds with
      | nil => exact .exponent first power
      | cons a as => exact .point first (fun c hc => digits.2 c (.tail _ hc)) (.inr power)

/-- Finite floats without a sign are printed as literals. -/
theorem isFloat_sourceForm {x : Float} (number : x.isNaN = false) (finite : x.isInf = false)
    (unsigned : isNegative x = false) : IsFloat (sourceForm x) := by
  have noSign : signText x = [] := by
    rw [signText, unsigned]
    rfl
  unfold sourceForm
  simp only [number, finite, noSign, Bool.false_eq_true, if_false, List.nil_append]
  split
  · exact isFloat_positional _
  · exact isFloat_scientific _ _

/-- The printed form of the float is read as the float. -/
def Restored (x : Float) : Prop := read? (sourceForm x) = some x

/-- The only infinity without a sign. -/
theorem Restored.eq_infinity {x : Float} (h : Restored x) (number : x.isNaN = false)
    (infinite : x.isInf = true) (unsigned : isNegative x = false) :
    sourceForm x = "INFINITY".toList ∧ x = FloatMath.infinity := by
  have positive : read? "INFINITY".toList = some FloatMath.infinity := by decide +kernel
  have negative : read? "-INFINITY".toList = some (-FloatMath.infinity) := by decide +kernel
  have signed : isNegative (-FloatMath.infinity) = true := by decide +kernel
  unfold Restored at h
  by_cases below : x < 0
  · have form : sourceForm x = "-INFINITY".toList := by
      simp only [sourceForm, number, infinite, below, Bool.false_eq_true, if_false, if_true]
    rw [form, negative] at h
    rw [← Option.some.inj h, signed] at unsigned
    cases unsigned
  · have form : sourceForm x = "INFINITY".toList := by
      simp only [sourceForm, number, infinite, below, Bool.false_eq_true, if_false, if_true]
    rw [form, positive] at h
    exact ⟨form, (Option.some.inj h).symm⟩

end FloatText

/-! ## Literals and names -/

/-- The constant is not a negative float. -/
def Constant.Unsigned : Constant → Prop
  | .float x => x.isNaN = true ∨ FloatText.isNegative x = false
  | _ => True

/-- A float is restored from its printed form. -/
def Constant.Restored : Constant → Prop
  | .float x => FloatText.Restored x
  | _ => True

/-- The token that a constant is printed as. -/
def Constant.token : Constant → Token
  | .missing => .word "MISSING"
  | .boolean true => .word "TRUE"
  | .boolean false => .word "FALSE"
  | .integer n => if n = Int64.minValue then .word "MIN_INTEGER" else .integer n
  | .float x => if x.isNaN then .word "NaN" else if x.isInf then .word "INFINITY" else .float x
  | .string s => .text s

theorem quoted_escaped (s : List Char) : Quoted '"' (s.flatMap escapeChar) s := by
  induction s with
  | nil => exact .nil
  | cons c s ih =>
      rw [List.flatMap_cons]
      unfold escapeChar
      split
      all_goals first
        | exact .escaped ih
        | next quote slash _ _ _ _ => exact .plain slash quote ih

theorem writes_text (s : String) : (Token.text s).Writes (quoted s).toList := by
  refine ⟨'"', s.toList.flatMap escapeChar, .inl rfl, ?_, quoted_escaped _⟩
  rw [quoted, String.toList_ofList, List.cons_append]

variable {c : Constant}

/-- A constant that was written and is not negative is printed as its token, which denotes it. -/
theorem Constant.writes_token (written : c.Written) (unsigned : c.Unsigned)
    (restored : c.Restored) : c.token.Writes (constant c).toList ∧ c.token.Denotes c := by
  cases c with
  | missing => exact ⟨⟨by decide, rfl⟩, _, rfl, rfl⟩
  | boolean b => cases b <;> exact ⟨⟨by decide, rfl⟩, _, rfl, rfl⟩
  | string s => exact ⟨writes_text s, rfl⟩
  | integer n =>
      rw [Constant.token, Printer.constant]
      -- The least integer has a name, since its digits alone would be too large.
      by_cases least : n = Int64.minValue
      · rw [if_pos least, if_pos least]
        exact ⟨⟨by decide, rfl⟩, _, rfl, by rw [least]⟩
      · rw [if_neg least, if_neg least, Integer.text, String.toList_ofList]
        exact ⟨writes_integer (written.resolve_right least), rfl⟩
  | float x =>
      have restored : FloatText.Restored x := restored
      rw [Constant.token, Printer.constant, String.toList_ofList]
      by_cases nan : x.isNaN = true
      · have form : FloatText.sourceForm x = "NaN".toList := by
          rw [FloatText.sourceForm, if_pos nan]
        have named : FloatMath.nan.isNaN = true := by decide +kernel
        rw [if_pos nan, form]
        refine ⟨⟨by decide, rfl⟩, _, rfl, ?_⟩
        rw [Constant.erase, Constant.erase, if_pos nan, if_pos named]
      · have unsigned : FloatText.isNegative x = false := unsigned.resolve_left nan
        have number : x.isNaN = false := Bool.eq_false_iff.mpr nan
        rw [if_neg nan]
        by_cases infinite : x.isInf = true
        · obtain ⟨form, rfl⟩ := restored.eq_infinity number infinite unsigned
          rw [if_pos infinite, form]
          exact ⟨⟨by decide, rfl⟩, _, rfl, rfl⟩
        · have finite : x.isInf = false := Bool.eq_false_iff.mpr infinite
          rw [if_neg infinite]
          exact ⟨⟨FloatText.isFloat_sourceForm number finite unsigned, restored⟩, rfl⟩

/-! ## Spelling -/

/-- Wherever the text stands in front of a gap, a mark or the end, it spells the tokens. -/
def Prints (ts : List Token) (text : List Char) : Prop :=
  ∀ us rest, Spelled us rest → Lacks goesOn rest → Spelled (ts ++ us) (text ++ rest)

namespace Prints

variable {t : Token} {ts us : List Token} {a b : List Char}

theorem nil : Prints [] [] := fun _ _ h _ => h

theorem token (writes : t.Writes a) : Prints [t] a := fun _ _ h last => h.token writes fun _ => last

theorem space (h : Prints ts a) : Prints ts (' ' :: a) := fun us rest hus last =>
  (h us rest hus last).space

/-- Only words and numbers must be kept apart from what follows. -/
theorem sign (writes : t.Writes a) (own : ¬t.IsWord) (h : Prints us b) :
    Prints (t :: us) (a ++ b) := by
  intro vs rest hvs last
  rw [List.append_assoc]
  exact (h vs rest hvs last).token writes fun word => absurd word own

theorem mark (symbol : String) (hs : symbol ∈ marks) (h : Prints us b) :
    Prints (.mark symbol :: us) (symbol.toList ++ b) := h.sign ⟨hs, rfl⟩ id

theorem append (ha : Prints ts a) (hb : Prints us b) (apart : Lacks goesOn b) :
    Prints (ts ++ us) (a ++ b) := by
  intro vs rest hvs last
  rw [List.append_assoc, List.append_assoc]
  refine ha _ _ (hb vs rest hvs last) ?_
  cases b with
  | nil => exact last
  | cons c b => exact lacks_cons.mpr (lacks_cons.mp apart)

theorem word {w : String} (plain : isPlainName w = true) (h : Prints ts a)
    (apart : Lacks goesOn a) : Prints (.word w :: ts) (w.toList ++ a) :=
  append (token (t := .word w) ⟨plain, rfl⟩) h apart

/-- Text that stands on its own spells its tokens. -/
theorem spelled (h : Prints ts a) : Spelled ts a := by
  have all : Spelled (ts ++ []) (a ++ []) := h [] [] (.nil .nil) lacks_nil
  rwa [List.append_nil, List.append_nil] at all

end Prints

/-! ## Accesses and operators -/

/-- The tokens that a column access is printed as. -/
def ColumnRef.tokens : ColumnRef → List Token
  | .named name offset =>
    if offset = 0 then
      if isPlainName name then [.column name] else [.openColumn, .text name, .mark "]"]
    else [.openColumn, .text name, .mark ",", .offset offset, .mark "]"]
  | .rowId => [.openColumn, .word "ROW_ID", .mark "]"]
  | .rowIndex => [.openColumn, .word "ROW_INDEX", .mark "]"]
  | .rowNumber => [.openColumn, .word "ROW_NUMBER", .mark "]"]

theorem ColumnRef.renders_tokens (ref : ColumnRef) : ref.Renders ref.tokens := by
  cases ref with
  | named name offset =>
      rw [ColumnRef.tokens]
      by_cases here : offset = 0
      · subst here
        rw [if_pos rfl]
        split
        · exact .plain
        · exact .bracketed .name
      · rw [if_neg here]
        exact .bracketed .offset
  | rowId => exact .bracketed .rowId
  | rowIndex => exact .bracketed .rowIndex
  | rowNumber => exact .bracketed .rowNumber

/-- What stands in brackets. -/
theorem prints_bracketed {t : Token} {sign body : List Char} {us : List Token}
    (writes : t.Writes sign) (own : ¬t.IsWord) (h : Prints us body) :
    Prints (t :: (us ++ [.mark "]"])) (sign ++ (body ++ [']'])) := by
  have close : Prints [.mark "]"] [']'] := Prints.nil.mark "]" (by decide)
  exact (h.append close (lacks_cons.mpr rfl)).sign writes own

theorem ColumnRef.prints (ref : ColumnRef) : Prints ref.tokens (column ref).toList := by
  have opening : Token.openColumn.Writes ['$', '['] := rfl
  have text (name : String) : Prints [.text name] (quoted name).toList := .token (writes_text name)
  cases ref with
  | named name offset =>
      rw [ColumnRef.tokens, Printer.column]
      by_cases here : offset = 0
      · rw [if_pos here, if_pos here]
        split
        · next plain =>
            rw [String.toList_append]
            exact .token ⟨plain, rfl⟩
        · simp only [String.toList_append, List.append_assoc]
          exact prints_bracketed opening id (text name)
      · have number : Prints [.offset offset] (Integer.text offset).toList := by
          rw [Integer.text, String.toList_ofList]
          exact .token (writes_offset offset)
        have selector := (number.space.mark "," (by decide)).sign (writes_text name) id
        have access := prints_bracketed opening id selector
        rw [List.append_assoc] at access
        rw [if_neg here, if_neg here]
        simp only [String.toList_append, List.append_assoc]
        exact access
  | rowId => exact prints_bracketed opening id (.token (t := .word "ROW_ID") ⟨by decide, rfl⟩)
  | rowIndex => exact prints_bracketed opening id (.token (t := .word "ROW_INDEX") ⟨by decide, rfl⟩)
  | rowNumber =>
      exact prints_bracketed opening id (.token (t := .word "ROW_NUMBER") ⟨by decide, rfl⟩)

/-- The tokens that an access to a flow variable is printed as. -/
def flowVariableTokens (name : String) : List Token :=
  if isPlainName name then [.flowVariable name] else [.openFlowVariable, .text name, .mark "]"]

theorem renders_flowVariableTokens (name : String) :
    FlowVariableRenders name (flowVariableTokens name) := by
  unfold flowVariableTokens
  split
  · exact .plain
  · exact .bracketed

theorem prints_flowVariable (name : String) :
    Prints (flowVariableTokens name) (flowVariable name).toList := by
  unfold flowVariableTokens flowVariable
  split
  · next plain =>
      rw [String.toList_append]
      exact .token ⟨plain, rfl⟩
  · have opening : Token.openFlowVariable.Writes ['$', '$', '['] := rfl
    simp only [String.toList_append, List.append_assoc]
    exact prints_bracketed opening id (.token (writes_text name))

/-- The token that an operator is printed as. -/
def BinaryOp.token (op : BinaryOp) : Token :=
  if op.isLogical then .word op.symbol else .mark op.symbol

theorem BinaryOp.spells_token (op : BinaryOp) : op.Spells op.token :=
  ⟨op.symbol, by cases op <;> exact .head _, rfl⟩

theorem BinaryOp.writes_token (op : BinaryOp) : op.token.Writes op.symbol.toList := by
  cases op <;> exact ⟨by decide, rfl⟩

/-! ## Expressions -/

/-- The tokens of an operand, which may stand in parentheses. -/
def parenthesizedTokens (parens : Bool) (ts : List Token) : List Token :=
  if parens then .mark "(" :: (ts ++ [.mark ")"]) else ts

theorem Prints.parenthesized {ts : List Token} {text : String} (h : Prints ts text.toList)
    (parens : Bool) :
    Prints (parenthesizedTokens parens ts) (Printer.parenthesized parens text).toList := by
  cases parens with
  | false => exact h
  | true =>
      have close : Prints [.mark ")"] [')'] := Prints.nil.mark ")" (by decide)
      have inside := (h.append close (lacks_cons.mpr rfl)).mark "(" (by decide)
      rw [Printer.parenthesized, if_pos rfl, String.toList_append, String.toList_append,
        List.append_assoc]
      exact inside

/-- The tokens of the name of an argument. -/
def labelTokens : Option String → List Token
  | some name => [.word name, .mark "="]
  | none => []

mutual

/-- The tokens of the printed form of an expression. -/
def Expr.tokens : Expr → List Token
  | .constant _ c => [c.token]
  | .column _ ref => ref.tokens
  | .flowVariable _ name => flowVariableTokens name
  | .unary _ .minus arg => .mark "-" :: parenthesizedTokens (needsParens arg) arg.tokens
  | .unary _ .not arg => .word "not" :: parenthesizedTokens (needsParens arg) arg.tokens
  | .binary _ left op right =>
    parenthesizedTokens (needsParens left) left.tokens ++
      op.token :: parenthesizedTokens (needsParens right) right.tokens
  | .conditional _ condition yes no => blockTokens condition.tokens yes.tokens no.tokens
  | .call _ _ name args _ => .word name :: .mark "(" :: (args.tokens ++ [.mark ")"])

/-- The tokens of the printed form of arguments. -/
def Args.tokens : Args → List Token
  | .nil => []
  | .cons name value .nil => labelTokens name ++ value.tokens
  | .cons name value rest => labelTokens name ++ value.tokens ++ .mark "," :: rest.tokens

end

/-! ## Printable trees -/

/-- A prefix `not` whose operand is printed without parentheses. -/
def Expr.IsBareNot : Expr → Prop
  | .unary _ .not arg => needsParens arg = false
  | _ => False

/-- Taken for the condition of a block, the first argument is an equation that fails for good: its
name is not that of a constant, or its value is a `not` that no parenthesis follows. -/
def Args.FailAsCondition : Args → Prop
  | .cons (some name) value _ => namedConstant? name = none ∨ value.IsBareNot
  | _ => False

mutual

/-- What is printed is read as the tree again.  A negative float would be read as a minus sign and
its magnitude.  A call named `not` would be read as a prefix `not` wherever one may stand, which is
everywhere but behind a minus sign and as the right operand of an operator that is not logical;
`first` tells whether one may stand in front of this tree.  A call named `if` is first read as a
block, which must not fail for good. -/
def Expr.Printable : (first : Bool) → Expr → Prop
  | _, .constant _ c => c.Unsigned
  | _, .column .. | _, .flowVariable .. => True
  | _, .unary _ op arg => arg.Printable (op == .not)
  | _, .binary _ left op right => left.Printable true ∧ right.Printable op.isLogical
  | _, .conditional _ condition yes no =>
    condition.Printable true ∧ yes.Printable true ∧ no.Printable true
  | first, .call _ _ name args _ =>
    (first = true → name ≠ "not") ∧ (name = "if" → ¬args.FailAsCondition) ∧ args.Printable

def Args.Printable : Args → Prop
  | .nil => True
  | .cons _ value rest => value.Printable true ∧ rest.Printable

end

/-! Whether a tree is printable can be computed. -/

instance : (c : Constant) → Decidable c.Unsigned
  | .float x => inferInstanceAs (Decidable (x.isNaN = true ∨ FloatText.isNegative x = false))
  | .missing | .boolean _ | .integer _ | .string _ => isTrue trivial

instance : (e : Expr) → Decidable e.IsBareNot
  | .unary _ .not arg => inferInstanceAs (Decidable (needsParens arg = false))
  | .unary _ .minus _ | .constant .. | .column .. | .flowVariable .. => isFalse id
  | .binary .. | .conditional .. | .call .. => isFalse id

instance : (args : Args) → Decidable args.FailAsCondition
  | .cons (some _) _ _ => decidable_of_iff _ (or_congr Option.isNone_iff_eq_none Iff.rfl)
  | .cons none _ _ | .nil => isFalse id

mutual

def Expr.decidePrintable : (first : Bool) → (e : Expr) → Decidable (e.Printable first)
  | _, .constant _ c => inferInstanceAs (Decidable c.Unsigned)
  | _, .column .. | _, .flowVariable .. => isTrue trivial
  | _, .unary _ op arg => arg.decidePrintable (op == .not)
  | _, .binary _ left op right =>
    @instDecidableAnd _ _ (left.decidePrintable true) (right.decidePrintable op.isLogical)
  | _, .conditional _ condition yes no =>
    @instDecidableAnd _ _ (condition.decidePrintable true)
      (@instDecidableAnd _ _ (yes.decidePrintable true) (no.decidePrintable true))
  | first, .call _ _ name args _ =>
    @instDecidableAnd (first = true → name ≠ "not") _ inferInstance
      (@instDecidableAnd (name = "if" → ¬args.FailAsCondition) _ inferInstance
        args.decidePrintable)

def Args.decidePrintable : (args : Args) → Decidable args.Printable
  | .nil => isTrue trivial
  | .cons _ value rest => @instDecidableAnd _ _ (value.decidePrintable true) rest.decidePrintable

end

instance (first : Bool) (e : Expr) : Decidable (e.Printable first) := e.decidePrintable first

/-- The float that a node itself is. -/
def Expr.float? : Expr → Option Float
  | .constant _ (.float x) => some x
  | _ => none

/-- The floats among the nodes are restored from their printed forms. -/
def Restored (nodes : List Expr) : Prop := ∀ x ∈ nodes.filterMap Expr.float?, FloatText.Restored x

instance (x : Float) : Decidable (FloatText.Restored x) :=
  inferInstanceAs (Decidable (FloatText.read? _ = some x))

instance (nodes : List Expr) : Decidable (Restored nodes) :=
  inferInstanceAs (Decidable (∀ x ∈ nodes.filterMap Expr.float?, FloatText.Restored x))

/-- Every float is. -/
theorem restored_all (nodes : List Expr) : Restored nodes :=
  fun x _ => FloatText.read?_sourceForm x

theorem Restored.mono {nodes others : List Expr} (h : Restored nodes)
    (some : ∀ e ∈ others, e ∈ nodes) : Restored others := by
  intro x hx
  obtain ⟨e, he, float⟩ := List.mem_filterMap.mp hx
  exact h x (List.mem_filterMap.mpr ⟨e, some e he, float⟩)

theorem Restored.constant {note : Note} {c : Constant} (h : Restored (Expr.constant note c).nodes) :
    c.Restored := by
  cases c with
  | float x => exact h x (.head _)
  | _ => trivial

/-- The name of an argument stands in front of its value. -/
theorem Prints.label {ts : List Token} {text : List Char} (h : Prints ts text)
    {name : Option String} (plain : ∀ n, name = some n → isPlainName n = true) :
    Prints (labelTokens name ++ ts) ((argumentLabel name).toList ++ text) := by
  cases name with
  | none => exact h
  | some n =>
      have named := (h.mark "=" (by decide)).word (plain n rfl) (lacks_cons.mpr rfl)
      rw [argumentLabel, String.toList_append, List.append_assoc]
      exact named

/-- A block is printed from its last brace to the first one. -/
theorem Prints.block {cs ys ns : List Token} {c y n : String} (hc : Prints cs c.toList)
    (hy : Prints ys y.toList) (hn : Prints ns n.toList) :
    Prints (blockTokens cs ys ns)
      ("if (" ++ c ++ ") \x7b " ++ y ++ " \x7d else \x7b " ++ n ++ " \x7d").toList := by
  have close : Prints [.mark "\x7d"] ['\x7d'] := Prints.nil.mark "\x7d" (by decide)
  have apart (b : List Char) : Lacks goesOn (' ' :: b) := lacks_cons.mpr rfl
  have last := ((hn.append close.space (apart _)).space.mark "\x7b" (by decide)).space
  have otherwise := ((last.word (w := "else") (by decide) (apart _)).space.mark "\x7d" (by decide)).space
  have first := ((hy.append otherwise (apart _)).space.mark "\x7b" (by decide)).space
  have head := (hc.append (first.mark ")" (by decide)) (lacks_cons.mpr rfl)).mark "(" (by decide)
  have all := head.space.word (w := "if") (by decide) (apart _)
  simp only [String.toList_append, List.append_assoc]
  exact all

mutual

theorem Expr.prints : ∀ {first : Bool} (e : Expr), e.Parsed → e.Printable first → Restored e.nodes →
    Prints e.tokens e.print.toList
  | _, .constant _ c, parsed, printable, restored => by
      rw [Expr.tokens, Expr.print]
      exact .token (Constant.writes_token parsed.2 printable restored.constant).1
  | _, .column _ ref, _, _, _ => by
      rw [Expr.tokens, Expr.print]
      exact ref.prints
  | _, .flowVariable _ name, _, _, _ => by
      rw [Expr.tokens, Expr.print]
      exact prints_flowVariable name
  | _, .unary _ op arg, parsed, printable, restored => by
      have operand : Prints arg.tokens arg.print.toList :=
        arg.prints parsed.2 printable <| restored.mono fun _ h => .tail _ h
      have parens := operand.parenthesized (needsParens arg)
      cases op with
      | minus =>
          rw [Expr.tokens, Expr.print, String.toList_append]
          exact parens.mark "-" (by decide)
      | not =>
          rw [Expr.tokens, Expr.print, String.toList_append]
          exact parens.space.word (w := "not") (by decide) (lacks_cons.mpr rfl)
  | _, .binary _ left op right, parsed, printable, restored => by
      have l : Prints left.tokens left.print.toList :=
        left.prints parsed.2.1 printable.1 <|
          restored.mono fun _ h => .tail _ (List.mem_append_left _ h)
      have r : Prints right.tokens right.print.toList :=
        right.prints parsed.2.2 printable.2 <|
          restored.mono fun _ h => .tail _ (List.mem_append_right _ h)
      -- Spaces stand on both sides of an operator, so that no token runs into it.
      have behind := (r.parenthesized (needsParens right)).space
      have operator := (Prints.token op.writes_token).append behind (lacks_cons.mpr rfl)
      have all := (l.parenthesized (needsParens left)).append operator.space (lacks_cons.mpr rfl)
      rw [Expr.tokens, Expr.print]
      simp only [String.toList_append, List.append_assoc]
      exact all
  | _, .conditional _ condition yes no, parsed, printable, restored => by
      have c : Prints condition.tokens condition.print.toList :=
        condition.prints parsed.2.1 printable.1 <|
          restored.mono fun _ h => .tail _ (List.mem_append_left _ (List.mem_append_left _ h))
      have y : Prints yes.tokens yes.print.toList :=
        yes.prints parsed.2.2.1 printable.2.1 <|
          restored.mono fun _ h => .tail _ (List.mem_append_left _ (List.mem_append_right _ h))
      have n : Prints no.tokens no.print.toList :=
        no.prints parsed.2.2.2 printable.2.2 <|
          restored.mono fun _ h => .tail _ (List.mem_append_right _ h)
      exact c.block y n
  | _, .call _ _ name args _, parsed, printable, restored => by
      have arguments : Prints args.tokens args.print.toList :=
        args.prints parsed.2.2.2.2 printable.2.2 <| restored.mono fun _ h => .tail _ h
      have close : Prints [.mark ")"] [')'] := Prints.nil.mark ")" (by decide)
      have inside := (arguments.append close (lacks_cons.mpr rfl)).mark "(" (by decide)
      have all := inside.word parsed.2.2.2.1 (lacks_cons.mpr rfl)
      rw [Expr.tokens, Expr.print]
      simp only [String.toList_append, List.append_assoc]
      exact all

theorem Args.prints : ∀ args : Args, args.Parsed → args.Printable →
    Restored args.nodes →
    Prints args.tokens args.print.toList
  | .nil, _, _, _ => .nil
  | .cons name value .nil, parsed, printable, restored => by
      have one : Prints value.tokens value.print.toList :=
        value.prints parsed.2.1 printable.1 <| restored.mono fun _ h => List.mem_append_left _ h
      rw [Args.tokens, Args.print, String.toList_append]
      exact one.label parsed.1
  | .cons name value (.cons other next rest), parsed, printable, restored => by
      have one : Prints value.tokens value.print.toList :=
        value.prints parsed.2.1 printable.1 <| restored.mono fun _ h => List.mem_append_left _ h
      have others := (Args.cons other next rest).prints parsed.2.2 printable.2 <|
        restored.mono fun _ h => List.mem_append_right _ h
      have all := (one.label parsed.1).append (others.space.mark "," (by decide))
        (lacks_cons.mpr rfl)
      rw [List.append_assoc (argumentLabel name).toList] at all
      rw [Args.tokens, Args.print]
      · simp only [String.toList_append, List.append_assoc (argumentLabel name).toList]
        simp only [List.append_assoc value.print.toList]
        exact all
      -- The arguments after the first one are some.
      · exact nofun
      · exact nofun

end

end Rowwise
