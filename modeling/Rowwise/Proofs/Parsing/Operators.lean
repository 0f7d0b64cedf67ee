import Rowwise.Proofs.Parsing.Literals

/-!
# Levels of precedence and their operators

The grammar has ten levels, from `or`, the loosest one, to primary expressions.  Behind an operator
there is always a token that opens an operand; therefore an operator is never taken for the
beginning of a longer one, and the operators of a level are told from those of all the others.

`Follows L us` says that the tokens `us` do not go on with an expression of the level `L`: there
is none, a closing one or a comma, or an operator of a looser level.
-/

namespace Rowwise

open Grammar Reader

/-! ## Levels -/

/-- The levels of the grammar, the loosest one first. -/
inductive Level where
  | or
  | and
  | not
  | comparison
  | sum
  | product
  | minus
  | power
  | fallback
  | primary
  deriving DecidableEq

namespace Level

def rank : Level → Nat
  | or => 0
  | and => 1
  | not => 2
  | comparison => 3
  | sum => 4
  | product => 5
  | minus => 6
  | power => 7
  | fallback => 8
  | primary => 9

/-- Looser levels are less than tighter ones. -/
instance : LE Level := ⟨fun L M => L.rank ≤ M.rank⟩
instance : LT Level := ⟨fun L M => L.rank < M.rank⟩

instance (L M : Level) : Decidable (L ≤ M) := inferInstanceAs (Decidable (L.rank ≤ M.rank))
instance (L M : Level) : Decidable (L < M) := inferInstanceAs (Decidable (L.rank < M.rank))

theorem le_iff {L M : Level} : L ≤ M ↔ L.rank ≤ M.rank := Iff.rfl
theorem lt_iff {L M : Level} : L < M ↔ L.rank < M.rank := Iff.rfl

theorem lt_of_lt_of_le {L M N : Level} (h : L < M) (le : M ≤ N) : L < N :=
  Nat.lt_of_lt_of_le h le

/-- The next level. -/
def tighter : Level → Level
  | or => and
  | and => not
  | not => comparison
  | comparison => sum
  | sum => product
  | product => minus
  | minus => power
  | power => fallback
  | fallback | primary => primary

theorem le_tighter (L : Level) : L ≤ L.tighter := by cases L <;> decide

theorem eq_or_lt_of_le {L M : Level} (h : L ≤ M) : L = M ∨ L < M := by
  cases L <;> cases M <;>
    first | exact .inl rfl | exact .inr (by decide) | exact absurd h (by decide)

/-- Only the tightest level is not followed by a tighter one. -/
theorem lt_tighter {L M : Level} (h : L < M) : L < L.tighter := by
  cases L <;> first | decide | (cases M <;> exact absurd h (by decide))

theorem tighter_le_of_lt {L M : Level} (h : L < M) : L.tighter ≤ M := by
  cases L <;> cases M <;> first | decide | exact absurd h (by decide)

/-- The levels whose operators group to the left. -/
def Groups : Level → Prop
  | or | and | sum | product => True
  | _ => False

/-- The reader for the expressions of a level. -/
def reader (g : Nested) : Level → Reader Expr
  | or => g.disjunction
  | and => g.conjunction
  | not => g.negated
  | comparison => g.compared
  | sum => g.sum
  | product => g.product
  | minus => g.unary
  | power => g.power
  | fallback => g.fallback
  | primary => g.primary

/-- The reader for the binary operators of a level. -/
def operator : Level → Reader BinaryOp
  | or => do keyword "or"; pure .or
  | and => do keyword "and"; pure .and
  | comparison => Grammar.comparison
  | sum => additive
  | product => multiplicative
  | power => do literal "**"; pure .exponent
  | fallback => do literal "??"; pure .missingFallback
  | not | minus | primary => failed

/-- The first characters of the operators of a level. -/
def signs : Level → List Char
  | or => ['o']
  | and => ['a']
  | comparison => ['=', '!', '<', '>']
  | sum => ['+', '-']
  | product => ['/', '*', '%']
  | power => ['*']
  | fallback => ['?']
  | not | minus | primary => []

end Level

namespace BinaryOp

def level : BinaryOp → Level
  | or => .or
  | and => .and
  | lessThan | lessThanEqual | greaterThan | greaterThanEqual | equal | notEqual => .comparison
  | plus | minus => .sum
  | multiply | divide | floorDivide | remainder => .product
  | exponent => .power
  | missingFallback => .fallback

/-- The ways to write an operator.  Equality is written with two signs here. -/
def symbols : BinaryOp → List String
  | notEqual => ["!=", "<>"]
  | op => [op.symbol]

/-- The token of an operator: a word for a logical one, a mark for any other. -/
def Spells (op : BinaryOp) (t : Token) : Prop :=
  ∃ s ∈ op.symbols, t = if op.isLogical then .word s else .mark s

end BinaryOp

/-! ## What may follow -/

/-- The tokens that open an operand. -/
def Token.Opens : Token → Prop
  | word _ | integer _ | float _ | text _ | column _ | flowVariable _ => True
  | openColumn | openFlowVariable => True
  | offset _ => False
  | mark symbol => symbol = "(" ∨ symbol = "-"

/-- An operand stands in front. -/
def Opens (ts : List Token) : Prop := ∃ t ∈ ts.head?, t.Opens

/-- The tokens do not go on with an expression of the level.  A single sign of equality is looser
than sums like any comparison, although it also names an argument. -/
inductive Follows (L : Level) : List Token → Prop where
  | nil : Follows L []
  | close {symbol : String} {us : List Token} (h : symbol ∈ [")", ",", "\x7d"]) :
      Follows L (.mark symbol :: us)
  | operator {op : BinaryOp} {t : Token} {us : List Token} (h : op.Spells t)
      (looser : op.level < L) (opens : Opens us) : Follows L (t :: us)
  | assign {us : List Token} (looser : .comparison < L) : Follows L (.mark "=" :: us)

theorem Follows.tighten {L M : Level} {us : List Token} (h : Follows L us) (le : L ≤ M) :
    Follows M us := by
  cases h with
  | nil => exact .nil
  | close h => exact .close h
  | operator h looser opens => exact .operator h (Level.lt_of_lt_of_le looser le) opens
  | assign looser => exact .assign (Level.lt_of_lt_of_le looser le)

/-- There is no binary operator at the level of the prefix minus. -/
theorem Follows.minus_of_power {us : List Token} (h : Follows .power us) : Follows .minus us := by
  cases h with
  | nil => exact .nil
  | close h => exact .close h
  | @operator op _ _ h looser opens =>
      refine .operator h ?_ opens
      cases op <;> first | decide | exact absurd looser (by decide)
  | assign => exact .assign (by decide)

theorem Opens.append {ts : List Token} (h : Opens ts) (us : List Token) : Opens (ts ++ us) := by
  obtain ⟨t, ht, opens⟩ := h
  cases ts with
  | nil => cases ht
  | cons a ts => exact ⟨t, ht, opens⟩

theorem Opens.head_append {ts : List Token} (h : Opens ts) (us : List Token) :
    (ts ++ us).head? = ts.head? := by
  obtain ⟨t, ht, _⟩ := h
  rw [List.head?_append, ht, Option.some_or]

/-- A character with which an operator could go on. -/
def joins (c : Char) : Bool := c == '=' || c == '>' || c == '*' || c == '/'

/-- No operator goes on where an operand stands. -/
theorem Opens.lacks_joins {us : List Token} {text : List Char} (h : Opens us)
    (spelled : Spelled us text) : Lacks joins text := by
  obtain ⟨t, ht, opens⟩ := h
  intro c hc
  rw [Bool.eq_false_iff]
  intro hjoins
  have sign : c = '=' ∨ c = '>' ∨ c = '*' ∨ c = '/' := by
    simpa [joins, or_assoc] using hjoins
  cases spelled with
  | nil => cases ht
  | cons gap writes _ _ =>
      cases ht
      cases gap with
      | blank hb =>
          cases hc
          obtain rfl | rfl | rfl | rfl := sign <;> cases hb
      | comment =>
          cases hc
          cases hjoins
      | nil =>
          obtain ⟨a, cs, rfl, starts⟩ := writes.head
          cases hc
          cases t with
          | mark symbol =>
              obtain rfl | rfl := opens <;>
                (obtain rfl | rfl | rfl | rfl := sign <;> cases starts)
          | offset n => exact opens
          | _ => obtain rfl | rfl | rfl | rfl := sign <;> cases starts

/-! ## Reading operators -/

/-- A text that is neither begun nor gone on with is told from another one. -/
theorem refuses_other {word symbol : String} {rest : List Char}
    (begun : word.toList.isPrefixOf symbol.toList = false)
    (goesOn : (word.toList.drop symbol.toList.length).head?.all joins = true)
    (last : Lacks joins rest) : (literal word).Refuses (symbol.toList ++ rest) := by
  refine refuses_literal ?_
  rw [Bool.eq_false_iff]
  intro h
  obtain ⟨more, same⟩ := List.isPrefixOf_iff_prefix.mp h
  obtain ⟨as, hs, _⟩ | ⟨as, hw, hrest⟩ := List.append_eq_append_iff.mp same
  · have : word.toList.isPrefixOf symbol.toList = true :=
      List.isPrefixOf_iff_prefix.mpr ⟨as, hs.symm⟩
    rw [begun] at this
    cases this
  · cases as with
    | nil =>
        rw [hw, List.append_nil, List.isPrefixOf_iff_prefix.mpr (List.prefix_refl _)] at begun
        cases begun
    | cons a as =>
        rw [hw, List.drop_left] at goesOn
        have : joins a = false := last a (by rw [hrest]; rfl)
        rw [List.head?_cons, Option.all_some, this] at goesOn
        cases goesOn

/-- The reader for one symbol finds it where it stands. -/
theorem takes_lone (symbol : String) (op : BinaryOp) (rest : List Char) :
    Reader.Takes (do literal symbol; pure op) (symbol.toList ++ rest)
      fun found left => found = op ∧ left = rest := by
  refine (takes_literal symbol).bind ?_
  rintro _ _ rfl
  exact ends_pure ⟨rfl, rfl⟩

/-- The symbol at a place is found if it is told from those in front of it. -/
theorem takes_symbol {symbols : List (String × BinaryOp)} (k : Nat) {symbol : String}
    {op : BinaryOp} {rest : List Char} (place : symbols[k]? = some (symbol, op))
    (others : ∀ p ∈ symbols.take k, p.1.toList.isPrefixOf symbol.toList = false ∧
      (p.1.toList.drop symbol.toList.length).head?.all joins = true)
    (last : Lacks joins rest) :
    (operator symbols).Takes (symbol.toList ++ rest) fun found left => found = op ∧ left = rest := by
  induction k generalizing symbols with
  | zero =>
      cases symbols with
      | nil => cases place
      | cons p symbols =>
          cases place
          exact Takes.choice (takes_lone symbol op rest)
  | succ k ih =>
      cases symbols with
      | nil => cases place
      | cons p symbols =>
          obtain ⟨⟨begun, goesOn⟩, others⟩ := List.forall_mem_cons.mp others
          have refused : Reader.Refuses (do literal p.1; pure p.2) (symbol.toList ++ rest) :=
            (refuses_other begun goesOn last).bind _
          have found := ih place others
          cases symbols with
          | nil => cases place
          | cons q symbols => exact refused.choice found

/-- The multiplicative operators are tried one after the other, a doubled sign before the single
one that it begins with. -/
theorem takes_multiplicative {op : BinaryOp} {rest : List Char} (product : op.level = .product)
    (last : Lacks joins rest) :
    multiplicative.Takes (op.symbol.toList ++ rest) fun found left => found = op ∧ left = rest := by
  cases op with
  | floorDivide => exact Takes.choice (takes_lone _ _ rest)
  | divide =>
      refine Refuses.choice ((refuses_other (by decide) (by decide) last).bind _) ?_
      exact Takes.choice (takes_lone _ _ rest)
  | multiply =>
      refine Refuses.choice ((refuses_other (by decide) (by decide) last).bind _) ?_
      refine Refuses.choice ((refuses_other (by decide) (by decide) last).bind _) ?_
      refine Takes.choice ((Reader.takes_literal "*").bind ?_)
      rintro _ rest rfl
      -- Two asterisks would be a power.
      have single : Lacks (· == '*') rest := last.mono fun c hc => by simp_all [joins]
      refine (refuses_satisfying single).notAhead.bind ?_
      rintro _ _ rfl
      exact ends_pure ⟨rfl, rfl⟩
  | remainder =>
      refine Refuses.choice ((refuses_other (by decide) (by decide) last).bind _) ?_
      refine Refuses.choice ((refuses_other (by decide) (by decide) last).bind _) ?_
      refine Refuses.choice ((refuses_other (by decide) (by decide) last).bind _) ?_
      exact Takes.choice (takes_lone _ _ rest)
  | _ => cases product

/-- Only inequality is written in two ways. -/
theorem BinaryOp.mem_symbols {op : BinaryOp} {s : String} (h : s ∈ op.symbols) :
    s = op.symbol ∨ op = .notEqual ∧ s = "<>" := by
  cases op with
  | notEqual => simpa [BinaryOp.symbols, BinaryOp.symbol] using h
  | _ => exact .inl (List.mem_singleton.mp h)

/-- A symbol that nothing goes on with is read as its operator. -/
theorem BinaryOp.takes {op : BinaryOp} {s : String} {rest : List Char} (h : s ∈ op.symbols)
    (marked : op.isLogical = false) (last : Lacks joins rest) :
    op.level.operator.Takes (s.toList ++ rest) fun found left => found = op ∧ left = rest := by
  obtain rfl | ⟨rfl, rfl⟩ := mem_symbols h
  · -- The number is the operator's place among those of its level.
    cases op with
    | and | or => cases marked
    | equal => exact takes_symbol 0 rfl (by decide) last
    | notEqual => exact takes_symbol 1 rfl (by decide) last
    | lessThanEqual => exact takes_symbol 3 rfl (by decide) last
    | greaterThanEqual => exact takes_symbol 4 rfl (by decide) last
    | lessThan => exact takes_symbol 5 rfl (by decide) last
    | greaterThan => exact takes_symbol 6 rfl (by decide) last
    | plus => exact takes_symbol 0 rfl (by decide) last
    | minus => exact takes_symbol 1 rfl (by decide) last
    | floorDivide | divide | multiply | remainder => exact takes_multiplicative rfl last
    | exponent | missingFallback => exact takes_lone _ _ rest
  · exact takes_symbol 2 rfl (by decide) last

/-- Where the token of an operator stands, the text begins with one of its symbols. -/
theorem BinaryOp.Spells.text {op : BinaryOp} {t : Token} {us : List Token} {text : List Char}
    (h : op.Spells t) (facing : Facing (t :: us) text) :
    ∃ s ∈ op.symbols, ∃ rest, text = s.toList ++ rest ∧ Spelled us rest := by
  obtain ⟨s, hs, rfl⟩ := h
  refine ⟨s, hs, ?_⟩
  cases facing with
  | @cons _ _ _ rest writes _ h =>
      cases hop : op.isLogical <;> rw [hop] at writes <;> exact ⟨rest, by rw [writes.2], h⟩

/-- An operator is read as what it is. -/
theorem Facing.takes_operator {op : BinaryOp} {t : Token} {us : List Token} {text : List Char}
    (facing : Facing (t :: us) text) (h : op.Spells t) (opens : Opens us) :
    op.level.operator.Takes text fun found left => found = op ∧ Spelled us left := by
  cases marked : op.isLogical with
  | true =>
      -- The word ends where its token does, whatever stands behind it.
      obtain ⟨s, hs, rfl⟩ := h
      cases op with
      | and | or =>
          obtain rfl := List.mem_singleton.mp hs
          exact facing.takes_keyword.bind fun _ _ h => ends_pure ⟨rfl, h⟩
      | _ => cases marked
  | false =>
      obtain ⟨s, hs, rest, rfl, spelled⟩ := h.text facing
      refine (BinaryOp.takes hs marked (opens.lacks_joins spelled)).weaken ?_ id id
      rintro _ _ ⟨rfl, rfl⟩
      exact ⟨rfl, spelled⟩

/-- Where none of its first characters stands, no operator of a level is read. -/
theorem Level.refuses_operator {M : Level} {text : List Char}
    (h : Lacks (M.signs.contains ·) text) : M.operator.Refuses text := by
  have refused {s : String} (first : s.toList.head?.any (M.signs.contains ·) = true) :
      (literal s).Refuses text := by
    cases hs : s.toList.head? with
    | none =>
        rw [hs] at first
        cases first
    | some a =>
        rw [hs] at first
        exact refuses_literal_of_lacks hs (h.mono fun c hc => by rw [eq_of_beq hc]; exact first)
  have symbols {list : List (String × BinaryOp)}
      (first : ∀ p ∈ list, p.1.toList.head?.any (M.signs.contains ·) = true) :
      (Grammar.operator list).Refuses text := by
    refine refuses_choice fun r hr => ?_
    obtain ⟨p, hp, rfl⟩ := List.mem_map.mp hr
    exact (refused (first p hp)).bind _
  cases M with
  | not | minus | primary => exact fun _ => trivial
  | or | and => exact ((refused (by decide)).bind _).bind _
  | power | fallback => exact (refused (by decide)).bind _
  | comparison | sum => exact symbols (by decide)
  | product =>
      refine refuses_choice fun r hr => ?_
      simp only [List.mem_cons, List.not_mem_nil, or_false] at hr
      obtain rfl | rfl | rfl | rfl := hr <;> exact (refused (by decide)).bind _

/-- Operators of different levels begin differently, except for one and two asterisks. -/
theorem BinaryOp.signs_ne {op : BinaryOp} {M : Level} (looser : op.level < M) {s : String}
    (hs : s ∈ op.symbols) : s = "*" ∧ M = .power ∨
      s.toList.head?.any (!M.signs.contains ·) = true := by
  revert looser s
  cases op <;> cases M <;> decide

/-- A symbol that begins otherwise is no operator of the level. -/
theorem Level.refuses_symbol {M : Level} {s : String} {rest : List Char}
    (other : s.toList.head?.any (!M.signs.contains ·) = true) :
    M.operator.Refuses (s.toList ++ rest) := by
  refine Level.refuses_operator ?_
  cases hcs : s.toList with
  | nil =>
      rw [hcs] at other
      cases other
  | cons c cs =>
      rw [hcs] at other
      simpa using other

/-- What follows an expression is not an operator of its level, nor of a tighter one. -/
theorem Follows.refuses_operator {L M : Level} {us : List Token} {text : List Char}
    (h : Follows L us) (facing : Facing us text) (le : L ≤ M) : M.operator.Refuses text := by
  cases h with
  | nil =>
      cases facing with
      | nil => exact Level.refuses_operator lacks_nil
  | close hm =>
      cases facing with
      | cons writes _ _ =>
          obtain ⟨_, rfl⟩ := writes
          simp only [List.mem_cons, List.not_mem_nil, or_false] at hm
          refine Level.refuses_operator ?_
          obtain rfl | rfl | rfl := hm <;> cases M <;> exact lacks_cons.mpr rfl
  | operator hop looser opens =>
      obtain ⟨s, hs, rest, rfl, spelled⟩ := hop.text facing
      obtain ⟨rfl, rfl⟩ | other := BinaryOp.signs_ne (Level.lt_of_lt_of_le looser le) hs
      · exact (refuses_other (by decide) (by decide) (opens.lacks_joins spelled)).bind _
      · exact Level.refuses_symbol other
  | assign looser =>
      cases facing with
      | cons writes _ _ =>
          obtain ⟨_, rfl⟩ := writes
          have tighter : .comparison < M := Level.lt_of_lt_of_le looser le
          refine Level.refuses_operator (lacks_cons.mpr ?_)
          cases M <;> first | rfl | exact absurd tighter (by decide)

end Rowwise
