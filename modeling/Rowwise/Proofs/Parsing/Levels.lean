import Rowwise.Proofs.Parsing.Operators

/-!
# Reading an expression of a level

`Reads L ts e` says that the reader of the level `L` makes the tree `e` of the tokens `ts`, whatever
follows that does not go on with an expression of this level.  `Joins L ts e` says the same for a
level whose operators group to the left, and leaves open what follows: the reader goes on with `e`
as the left operand of whatever operators of the level come next.

There is one lemma for each way in which an expression is made of others, and one for passing from a
level to the next looser one.
-/

namespace Rowwise

open Grammar Reader

/-! ## The structure of a tree -/

/-- The literal with one NaN for all. -/
def Constant.erase : Constant → Constant
  | .float x => .float (if x.isNaN then FloatMath.nan else x)
  | c => c

mutual

/-- The tree without notes and bindings, and with one NaN for all. -/
def Expr.erase : Expr → Expr
  | .constant _ c => .constant {} c.erase
  | .column _ ref => .column {} ref
  | .flowVariable _ name => .flowVariable {} name
  | .unary _ op arg => .unary {} op arg.erase
  | .binary _ left op right => .binary {} left.erase op right.erase
  | .conditional _ condition yes no => .conditional {} condition.erase yes.erase no.erase
  | .call _ callee name args _ => .call {} callee name args.erase none

def Args.erase : Args → Args
  | .nil => .nil
  | .cons name value rest => .cons name value.erase rest.erase

end

@[simp] theorem Expr.erase_withSpan (e : Expr) (span : Span) :
    (e.withSpan span).erase = e.erase := by
  cases e <;> simp only [withSpan, withNote, erase]

@[simp] theorem Expr.erase_unaryNode (op : UnaryOp) (start : Nat) (arg : Expr) :
    (unaryNode op start arg).erase = .unary {} op arg.erase := by
  simp only [unaryNode, erase]

@[simp] theorem Expr.erase_binaryNode (left : Expr) (op : BinaryOp) (right : Expr) :
    (binaryNode left op right).erase = .binary {} left.erase op right.erase := by
  simp only [binaryNode, erase]

/-! ## Readings -/

/-- The reader of the level makes the tree of the tokens, if what follows does not go on with it. -/
def Reads (L : Level) (ts : List Token) (e : Expr) : Prop :=
  ∀ d, ts.length ≤ d → ∀ us text, Spelled (ts ++ us) text → Follows L us →
    (L.reader (grammar d)).Takes text fun f rest => f.erase = e.erase ∧ Spelled us rest

/-! ### Operators that group to the left -/

/-- An operator and its right operand. -/
def groupStep (operand : Reader Expr) (operator : Reader BinaryOp) : Reader (BinaryOp × Expr) := do
  blanks
  let op ← operator
  let right ← required operand
  pure (op, right)

/-- The operators that come after a left operand. -/
def groupLoop (operand : Reader Expr) (operator : Reader BinaryOp) (fuel : Nat) (left : Expr) :
    Reader Expr := do
  let rest ← manyWithin (groupStep operand operator) fuel
  pure (rest.foldl (fun left (op, right) => binaryNode left op right) left)

section Loop

variable {operand : Reader Expr} {operator : Reader BinaryOp} {fuel : Nat} {left : Expr}
  {text : List Char} {Q : Expr → List Char → Prop} {F S : Prop}

theorem ends_leftGrouped
    (h : operand.Ends text (fun left rest =>
      (groupLoop operand operator rest.length left).Ends rest Q F S) F S) :
    (leftGrouped operand operator).Ends text Q F S := h.bind fun _ _ loop => loop

theorem ends_groupLoop_done (h : (groupStep operand operator).Refuses text) (found : Q left text) :
    (groupLoop operand operator fuel left).Ends text Q F S := by
  have none : (manyWithin (groupStep operand operator) fuel).Takes text
      fun rest after => rest = [] ∧ after = text := ends_manyWithin_nil h ⟨rfl, rfl⟩
  refine none.bind ?_
  rintro _ _ ⟨rfl, rfl⟩
  exact ends_pure found

theorem groupLoop_succ (c : Cursor) :
    groupLoop operand operator (fuel + 1) left c =
      match groupStep operand operator c with
      | .ok p after => groupLoop operand operator fuel (binaryNode left p.1 p.2) after
      | .retry _ _ => .ok left c
      | .stop issue place => .stop issue place := by
  simp only [groupLoop, Bind.bind, manyWithin]
  cases groupStep operand operator c with
  | ok p after =>
      dsimp only
      cases manyWithin (groupStep operand operator) fuel after <;> rfl
  | retry issue place => rfl
  | stop issue place => rfl

theorem ends_groupLoop_succ
    (h : (groupStep operand operator).Ends text (fun p rest =>
      (groupLoop operand operator fuel (binaryNode left p.1 p.2)).Ends rest Q F S)
      (Q left text) S) :
    (groupLoop operand operator (fuel + 1) left).Ends text Q F S := by
  intro n
  have h := h n
  rw [groupLoop_succ]
  cases hs : groupStep operand operator ⟨n, text⟩ with
  | ok p after =>
      rw [hs] at h
      exact h after.offset
  | retry issue place =>
      rw [hs] at h
      exact h
  | stop issue place =>
      rw [hs] at h
      exact h

end Loop

/-- The reader of a grouping level makes the tree of the tokens and goes on with it as the left
operand of what follows. -/
def Joins (L : Level) (ts : List Token) (e : Expr) : Prop :=
  ∀ d, ts.length ≤ d → ∀ us text (Q : Expr → List Char → Prop) (F S : Prop),
    Spelled (ts ++ us) text → Follows L.tighter us →
    (∀ f rest, f.erase = e.erase → Spelled us rest → ∀ fuel, us.length ≤ fuel →
      (groupLoop (L.tighter.reader (grammar d)) L.operator fuel f).Ends rest Q F S) →
    (L.reader (grammar d)).Ends text Q F S

theorem Level.Groups.reader_eq {L : Level} (h : L.Groups) (g : Nested) :
    L.reader g = leftGrouped (L.tighter.reader g) L.operator := by
  cases L <;> first | rfl | exact h.elim

theorem Level.Groups.lt_tighter {L : Level} (h : L.Groups) : L < L.tighter := by
  cases L <;> first | decide | exact h.elim

section Grouping

variable {L : Level} {ts tl tr us : List Token} {e l r : Expr} {op : BinaryOp} {t : Token}

theorem Reads.joins (h : Reads L.tighter ts e) (groups : L.Groups) : Joins L ts e := by
  intro d hd us text Q F S spelled follows loop
  rw [groups.reader_eq]
  refine ends_leftGrouped ((h d hd us text spelled follows).ends.weaken ?_ id id)
  rintro f rest ⟨hf, hrest⟩
  exact loop f rest hf hrest _ hrest.length_le

/-- Nothing more is joined where the expression ends. -/
theorem Joins.reads (h : Joins L ts e) : Reads L ts e := by
  intro d hd us text spelled follows
  refine h d hd us text _ _ _ spelled (follows.tighten L.le_tighter) fun f rest hf hrest fuel _ => ?_
  refine ends_groupLoop_done ?_ ⟨hf, hrest⟩
  refine hrest.takes_blanks.bind fun _ left hleft => ?_
  exact (follows.refuses_operator hleft (Nat.le_refl _)).bind _

/-- One more operator of the level, and its right operand. -/
theorem Joins.binary (hl : Joins op.level tl l) (hop : op.Spells t) (opens : Opens tr)
    (hr : Reads op.level.tighter tr r) (groups : op.level.Groups) {note : Note} :
    Joins op.level (tl ++ t :: tr) (.binary note l op r) := by
  intro d hd us text Q F S spelled follows loop
  simp only [List.length_append, List.length_cons] at hd
  rw [List.append_assoc, List.cons_append] at spelled
  have looser : op.level < op.level.tighter := groups.lt_tighter
  refine hl d (by omega) _ text Q F S spelled (.operator hop looser (opens.append us)) ?_
  intro f rest hf hrest fuel enough
  obtain _ | fuel := fuel
  · cases enough
  have step : (groupStep (op.level.tighter.reader (grammar d)) op.level.operator).Takes rest
      fun p rest => (p.1 = op ∧ p.2.erase = r.erase) ∧ Spelled us rest := by
    refine hrest.takes_blanks.bind fun _ _ facing => ?_
    refine (facing.takes_operator hop (opens.append us)).bind ?_
    rintro _ after ⟨rfl, hafter⟩
    refine (Ends.required (hr d (by omega) us after hafter follows)).bind ?_
    rintro g rest ⟨hg, hrest⟩
    exact ends_pure ⟨⟨rfl, hg⟩, hrest⟩
  refine ends_groupLoop_succ (step.ends.weaken ?_ id id)
  rintro ⟨_, g⟩ rest ⟨⟨rfl, hg⟩, hrest⟩
  refine loop _ rest ?_ hrest fuel ?_
  · rw [Expr.erase_binaryNode, hf, hg, Expr.erase]
  · simp only [List.length_cons, List.length_append] at enough
    omega

end Grouping

/-! ### Looser levels -/

section Loosening

variable {L : Level} {ts us : List Token} {e : Expr} {text : List Char}

/-- Blanks lead to the first token of an operand. -/
theorem Opens.takes_blanks (opens : Opens ts) (h : Spelled (ts ++ us) text) :
    blanks.Takes text fun _ left =>
      ∃ t vs, ts = t :: vs ∧ t.Opens ∧ Facing (t :: (vs ++ us)) left := by
  obtain ⟨t, ht, hopens⟩ := opens
  cases ts with
  | nil => cases ht
  | cons a vs =>
      obtain rfl : a = t := by simpa using ht
      exact h.takes_blanks.weaken (fun _ _ facing => ⟨a, vs, rfl, hopens, facing⟩) id id

theorem refuses_negation {g : Nested} (opens : Opens ts) (h : Spelled (ts ++ us) text)
    (head : ts.head? ≠ some (.mark "-")) : g.negation.Refuses text := by
  refine (opens.takes_blanks h).bind ?_
  rintro _ left ⟨t, vs, rfl, hopens, facing⟩
  refine takes_offset.bind ?_
  rintro _ _ rfl
  refine (facing.refuses_character ?_).bind _
  rintro _ ⟨⟩
  cases t with
  | mark symbol =>
      obtain rfl | rfl := hopens
      · rfl
      · exact absurd rfl head
  | offset n => exact hopens.elim
  | _ => rfl

/-- The prefix `not` is not read where another token stands. -/
theorem refuses_not (opens : Opens ts) (h : Spelled (ts ++ us) text)
    (head : ts.head? ≠ some (.word "not")) :
    Reader.Refuses (do
      blanks
      let start ← offset
      keyword "not"
      pure start) text := by
  refine (opens.takes_blanks h).bind ?_
  rintro _ left ⟨t, vs, rfl, hopens, facing⟩
  refine takes_offset.bind ?_
  rintro _ _ rfl
  refine Refuses.bind ?_ _
  cases t with
  | word w => exact facing.refuses_keyword rfl fun same => head (by rw [same]; rfl)
  | offset n => exact hopens.elim
  | mark symbol =>
      refine facing.refuses_keyword_elsewhere rfl ?_
      obtain rfl | rfl := hopens <;> (rintro _ ⟨⟩; rfl)
  | _ =>
      refine facing.refuses_keyword_elsewhere rfl ?_
      rintro _ ⟨⟩
      rfl

/-- The readers of the next tighter level do for a level. -/
theorem Reads.loosen (h : Reads L.tighter ts e) (opens : Opens ts)
    (noMinus : L = .minus → ts.head? ≠ some (.mark "-"))
    (noNot : L = .not → ts.head? ≠ some (.word "not")) : Reads L ts e := by
  -- A level either joins what the next one reads, or refuses its own sign and reads that.
  cases L with
  | or | and | sum | product => exact (h.joins trivial).reads
  | primary => exact h
  | not =>
      intro d hd us text spelled follows
      refine (refuses_not opens spelled (noNot rfl)).bind_optional ?_
      exact h d hd us text spelled (follows.tighten (by decide))
  | comparison =>
      intro d hd us text spelled follows
      refine (h d hd us text spelled (follows.tighten (by decide))).bind ?_
      rintro f rest ⟨hf, hrest⟩
      refine Refuses.bind_optional ?_ (ends_pure ⟨hf, hrest⟩)
      refine hrest.takes_blanks.bind fun _ _ facing => ?_
      exact (follows.refuses_operator facing (Nat.le_refl _)).bind _
  | minus =>
      intro d hd us text spelled follows
      refine (refuses_negation opens spelled (noMinus rfl)).orElse ?_
      exact h d hd us text spelled (follows.tighten (by decide))
  | power | fallback =>
      intro d hd us text spelled follows
      refine (h d hd us text spelled (follows.tighten (by decide))).bind ?_
      rintro f rest ⟨hf, hrest⟩
      refine Refuses.bind_optional ?_ (ends_pure ⟨hf, hrest⟩)
      refine hrest.takes_blanks.bind fun _ _ facing => ?_
      exact (follows.refuses_operator facing (Nat.le_refl _)).of_bind_pure.bind _

end Loosening

/-! ## Expressions of a level -/

theorem Token.Opens.ne_assign {t : Token} (h : t.Opens) : t ≠ .mark "=" := by
  rintro rfl
  exact absurd h (by decide : ¬("=" = "(" ∨ "=" = "-"))

/-- The tokens are those of an expression of the level, which its reader makes of them. -/
structure Readable (L : Level) (ts : List Token) (e : Expr) : Prop where
  opens : Opens ts
  /-- The tokens are not taken for a named argument. -/
  unnamed : ts.tail.head? ≠ some (.mark "=")
  minus : ts.head? = some (.mark "-") → L ≤ .minus
  reads : Reads L ts e
  joins : L.Groups → Joins L ts e

section Readable

variable {L M : Level} {ts us tl tr : List Token} {e l r : Expr} {text : List Char} {note : Note}

theorem Readable.loosen (h : Readable L.tighter ts e)
    (first : L = .not → ts.head? ≠ some (.word "not")) : Readable L ts e where
  opens := h.opens
  unnamed := h.unnamed
  minus head := Nat.le_trans L.le_tighter (h.minus head)
  reads := by
    refine h.reads.loosen h.opens ?_ first
    rintro rfl head
    exact absurd (h.minus head) (by decide)
  joins groups := h.reads.joins groups

/-- Expressions of a level are expressions of all looser levels; only where a prefix `not` may stand,
they must not begin like one. -/
theorem Readable.loosenTo {L : Level} (h : Readable M ts e) (le : L ≤ M)
    (first : L ≤ .not → .not < M → ts.head? ≠ some (.word "not")) : Readable L ts e := by
  obtain rfl | lt := Level.eq_or_lt_of_le le
  · exact h
  · have next : Readable L.tighter ts e :=
      h.loosenTo (Level.tighter_le_of_lt lt) fun le => first (Nat.le_trans L.le_tighter le)
    exact next.loosen fun same => first (by rw [same]; decide) (same ▸ lt)
termination_by M.rank - L.rank
decreasing_by
  have progress := Level.lt_tighter lt
  have bound := Level.tighter_le_of_lt lt
  rw [Level.lt_iff] at progress
  rw [Level.le_iff] at bound
  omega

theorem Opens.head_ne_assign (h : Opens ts) : ts.head? ≠ some (.mark "=") := by
  obtain ⟨t, ht, opens⟩ := h
  rw [ht]
  exact fun same => opens.ne_assign (Option.some.inj same)

/-- A prefix `not`. -/
theorem Readable.not (h : Readable .not ts e) :
    Readable .not (.word "not" :: ts) (.unary note .not e) where
  opens := ⟨_, rfl, trivial⟩
  unnamed := h.opens.head_ne_assign
  minus := by simp
  joins := False.elim
  reads := by
    intro d hd us text spelled follows
    obtain _ | d := d
    · cases hd
    have prefixed : Reader.Takes (do
        blanks
        let start ← offset
        keyword "not"
        pure start) text fun _ left => Spelled (ts ++ us) left := by
      refine spelled.takes_blanks.bind fun _ _ facing => ?_
      refine takes_offset.bind ?_
      rintro _ _ rfl
      exact facing.takes_keyword.bind fun _ _ h => ends_pure h
    refine prefixed.bind_optional fun start rest hrest => ?_
    have arg := h.reads d (Nat.le_of_succ_le_succ hd) us rest hrest follows
    refine (Ends.required arg).bind ?_
    rintro f rest ⟨hf, hrest⟩
    refine ends_pure ⟨?_, hrest⟩
    rw [Expr.erase_unaryNode, hf, Expr.erase]

/-- A prefix minus. -/
theorem Readable.negation (h : Readable .minus ts e) :
    Readable .minus (.mark "-" :: ts) (.unary note .minus e) where
  opens := ⟨_, rfl, .inr rfl⟩
  unnamed := h.opens.head_ne_assign
  minus _ := Nat.le_refl _
  joins := False.elim
  reads := by
    intro d hd us text spelled follows
    obtain _ | d := d
    · cases hd
    refine Takes.orElse ?_
    refine spelled.takes_blanks.bind fun _ _ facing => ?_
    refine takes_offset.bind ?_
    rintro _ _ rfl
    refine (facing.takes_character rfl).bind fun _ rest hrest => ?_
    have arg := h.reads d (Nat.le_of_succ_le_succ hd) us rest hrest follows
    refine (Ends.required arg).bind ?_
    rintro f rest ⟨hf, hrest⟩
    refine ends_pure ⟨?_, hrest⟩
    rw [Expr.erase_unaryNode, hf, Expr.erase]

end Readable

/-- The level of the left operand of an operator. -/
def Level.left : Level → Level
  | or => or
  | and => and
  | sum => sum
  | product => product
  | L => L.tighter

/-- The level of the right operand of an operator. -/
def Level.right : Level → Level
  | power => minus
  | fallback => fallback
  | L => L.tighter

section Binary

variable {ts us tl tr : List Token} {t : Token} {l r : Expr} {op : BinaryOp} {text : List Char}
  {note : Note}

/-- A comparison is read up to any token that does not go on with its right side.  Its sign may
also be the single one, which no other lemma lets an operator be written with. -/
theorem takes_compared (hl : Readable .sum tl l) (behind : ∀ vs, Opens vs → Follows .sum (t :: vs))
    (sign : ∀ vs left, Opens vs → Facing (t :: vs) left →
      comparison.Takes left fun found rest => found = op ∧ Spelled vs rest)
    (hr : Readable .sum tr r) {d : Nat} (hd : (tl ++ t :: tr).length ≤ d)
    (spelled : Spelled (tl ++ t :: tr ++ us) text) (follows : Follows .sum us) :
    (grammar d).compared.Takes text fun f rest =>
      f.erase = (Expr.binary note l op r).erase ∧ Spelled us rest := by
  simp only [List.length_append, List.length_cons] at hd
  rw [List.append_assoc, List.cons_append] at spelled
  have opens : Opens (tr ++ us) := hr.opens.append us
  refine (hl.reads d (by omega) _ text spelled (behind _ opens)).bind ?_
  rintro f rest ⟨hf, hrest⟩
  have right : Reader.Takes (do
      blanks
      let op ← comparison
      let right ← required (grammar d).sum
      pure (op, right)) rest
      fun p rest => (p.1 = op ∧ p.2.erase = r.erase) ∧ Spelled us rest := by
    refine hrest.takes_blanks.bind fun _ _ facing => ?_
    refine (sign _ _ opens facing).bind ?_
    rintro _ after ⟨rfl, hafter⟩
    refine (Ends.required (hr.reads d (by omega) us after hafter follows)).bind ?_
    rintro g rest ⟨hg, hrest⟩
    exact ends_pure ⟨⟨rfl, hg⟩, hrest⟩
  refine right.bind_optional ?_
  rintro ⟨_, g⟩ rest ⟨⟨rfl, hg⟩, hrest⟩
  refine ends_pure ⟨?_, hrest⟩
  rw [Expr.erase_binaryNode, hf, hg, Expr.erase]

theorem reads_comparison (hop : op.Spells t) (level : op.level = .comparison)
    (hl : Readable .sum tl l) (hr : Readable .sum tr r) :
    Reads .comparison (tl ++ t :: tr) (.binary note l op r) := by
  intro d hd us text spelled follows
  refine takes_compared hl (fun vs opens => .operator hop (by rw [level]; decide) opens) ?_ hr hd
    spelled (follows.tighten (by decide))
  intro vs left opens facing
  have found := facing.takes_operator hop opens
  rw [level] at found
  exact found

/-- An operator that has a reader of its own for its right operand: what is read in front of it
becomes the left operand, and what is read behind it the right one. -/
theorem takes_joined {operand right : Reader Expr} {sign : String}
    (left : operand.Takes text fun f rest =>
      f.erase = l.erase ∧ Spelled (.mark sign :: (tr ++ us)) rest)
    (next : ∀ after, Spelled (tr ++ us) after →
      right.Takes after fun g rest => g.erase = r.erase ∧ Spelled us rest) :
    Reader.Takes (do
      let f ← operand
      let found ← optional do
        blanks
        literal sign
        required right
      pure <|
        match found with
        | some g => binaryNode f op g
        | none => f) text fun f rest =>
      f.erase = (Expr.binary note l op r).erase ∧ Spelled us rest := by
  refine left.bind ?_
  rintro f rest ⟨hf, hrest⟩
  have behind : Reader.Takes (do
      blanks
      literal sign
      required right) rest fun g rest => g.erase = r.erase ∧ Spelled us rest := by
    refine hrest.takes_blanks.bind fun _ _ facing => ?_
    exact facing.takes_literal.bind fun _ after hafter => Ends.required (next after hafter)
  refine behind.bind_optional ?_
  rintro g rest ⟨hg, hrest⟩
  refine ends_pure ⟨?_, hrest⟩
  rw [Expr.erase_binaryNode, hf, hg, Expr.erase]

theorem reads_power (hop : BinaryOp.exponent.Spells t) (hl : Readable .fallback tl l)
    (hr : Readable .minus tr r) :
    Reads .power (tl ++ t :: tr) (.binary note l .exponent r) := by
  intro d hd us text spelled follows
  simp only [List.length_append, List.length_cons] at hd
  -- Behind the sign the grammar is entered anew, which takes one step of the depth.
  obtain _ | d := d
  · cases hd
  rw [List.append_assoc, List.cons_append] at spelled
  have behind : Follows .fallback (t :: (tr ++ us)) :=
    .operator hop (by decide) (hr.opens.append us)
  have left := hl.reads (d + 1) (by omega) _ text spelled behind
  obtain ⟨s, hs, rfl⟩ := hop
  obtain rfl := List.mem_singleton.mp hs
  exact takes_joined left fun after hafter =>
    hr.reads d (by omega) us after hafter follows.minus_of_power

theorem reads_fallback (hop : BinaryOp.missingFallback.Spells t) (hl : Readable .primary tl l)
    (hr : Readable .fallback tr r) :
    Reads .fallback (tl ++ t :: tr) (.binary note l .missingFallback r) := by
  intro d hd us text spelled follows
  simp only [List.length_append, List.length_cons] at hd
  obtain _ | d := d
  · cases hd
  rw [List.append_assoc, List.cons_append] at spelled
  have behind : Follows .primary (t :: (tr ++ us)) :=
    .operator hop (by decide) (hr.opens.append us)
  have left := hl.reads (d + 1) (by omega) _ text spelled behind
  -- The right operand might also be a negation, but a fallback does not begin with a minus.
  have noMinus : tr.head? ≠ some (.mark "-") := fun head => absurd (hr.minus head) (by decide)
  obtain ⟨s, hs, rfl⟩ := hop
  obtain rfl := List.mem_singleton.mp hs
  refine takes_joined left fun after hafter => ?_
  refine (refuses_negation hr.opens hafter noMinus).orElse ?_
  exact hr.reads d (by omega) us after hafter follows

/-- A symbol that no operator is written with. -/
theorem BinaryOp.Spells.ne_mark {symbol : String} (h : op.Spells t)
    (other : ∀ op : BinaryOp, symbol ∉ op.symbols) : t ≠ .mark symbol := by
  obtain ⟨s, hs, rfl⟩ := h
  cases op.isLogical with
  | true => simp
  | false =>
      intro same
      cases same
      exact other op hs

theorem BinaryOp.Spells.ne_assign (h : op.Spells t) : t ≠ .mark "=" :=
  h.ne_mark fun op => by cases op <;> decide

/-- A grouping level keeps the level on the left and tightens it on the right. -/
theorem Level.Groups.left_right {L : Level} (h : L.Groups) : L.left = L ∧ L.right = L.tighter := by
  cases L <;> first | exact ⟨rfl, rfl⟩ | exact h.elim

theorem BinaryOp.groups_or (op : BinaryOp) : op.level.Groups ∨
    op.level = .comparison ∨ op = .exponent ∨ op = .missingFallback := by
  cases op <;> simp [BinaryOp.level, Level.Groups]

/-- A binary operator between operands of the levels that it asks for. -/
theorem Readable.binary (hop : op.Spells t) (hl : Readable op.level.left tl l)
    (hr : Readable op.level.right tr r) :
    Readable op.level (tl ++ t :: tr) (.binary note l op r) := by
  have joins (groups : op.level.Groups) : Joins op.level (tl ++ t :: tr) (.binary note l op r) := by
    obtain ⟨left, right⟩ := groups.left_right
    rw [left] at hl
    rw [right] at hr
    exact (hl.joins groups).binary hop hr.opens hr.reads groups
  obtain ⟨a, as, rfl⟩ : ∃ a as, tl = a :: as := by
    obtain ⟨a, ha, _⟩ := hl.opens
    cases tl with
    | nil => cases ha
    | cons a as => exact ⟨a, as, rfl⟩
  refine ⟨hl.opens.append _, ?_, fun head => ?_, ?_, joins⟩
  · cases as with
    | nil => exact fun same => hop.ne_assign (Option.some.inj same)
    | cons b as => exact hl.unnamed
  · exact Nat.le_trans (by cases op <;> decide) (hl.minus head)
  · obtain groups | level | rfl | rfl := op.groups_or
    · exact (joins groups).reads
    · rw [level] at hl hr ⊢
      exact reads_comparison hop level hl hr
    · exact reads_power hop hl hr
    · exact reads_fallback hop hl hr

end Binary

end Rowwise
