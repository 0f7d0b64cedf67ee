import Rowwise.Proofs.Parsing.Levels

/-!
# Reading primary expressions

A primary expression is one in parentheses or an atom.  The alternatives for atoms are tried in
order: a block, a call, accesses and literals; each of them refuses the tokens of those after it.
Only a call named `if` begins like a block, and it is refused as one at the brace that is missing.
-/

namespace Rowwise

open Grammar Reader

variable {ts us : List Token} {t : Token} {e : Expr} {text : List Char} {g : Nested}

/-! ## First characters -/

theorem isNameStart_of_isDigit {c : Char} (h : c.isDigit = true) : isNameStart c = false := by
  rw [Bool.eq_false_iff]
  intro start
  have digit : 48 ≤ c.toNat ∧ c.toNat ≤ 57 := Char.isDigit_iff_toNat.mp h
  obtain start | start := Bool.or_eq_true_iff.mp start
  · obtain upper | lower := Bool.or_eq_true_iff.mp start
    · obtain ⟨above, _⟩ := of_decide_eq_true upper
      have above : 65 ≤ c.toNat := UInt32.le_iff_toNat_le.mp above
      omega
    · have above : 97 ≤ c.toNat :=
        UInt32.le_iff_toNat_le.mp (of_decide_eq_true (Bool.and_eq_true_iff.mp lower).1)
      omega
  · obtain rfl := eq_of_beq start
    cases h

/-- The tokens that open an atom which is not a word. -/
def Token.OpensAtom : Token → Prop
  | .integer _ | .float _ | .text _ | .column _ | .flowVariable _ => True
  | .openColumn | .openFlowVariable => True
  | _ => False

theorem Token.OpensAtom.not_isNameStart (h : t.OpensAtom) {c : Char} (hc : t.starts c = true) :
    isNameStart c = false := by
  cases t with
  | integer n => exact isNameStart_of_isDigit hc
  | float x =>
      obtain hc | hc := Bool.or_eq_true_iff.mp hc
      · exact isNameStart_of_isDigit hc
      · obtain rfl := eq_of_beq hc
        rfl
  | text s => obtain hc | hc := Bool.or_eq_true_iff.mp hc <;> (obtain rfl := eq_of_beq hc; rfl)
  | column | flowVariable | openColumn | openFlowVariable =>
      obtain rfl := eq_of_beq hc
      rfl
  | word | offset | mark => exact h.elim

/-- The marks that stand for themselves: no other token begins with their character. -/
def brackets : List (String × Char) :=
  [("(", '('), (")", ')'), ("\x7b", '\x7b'), ("\x7d", '\x7d'), ("]", ']'), (",", ',')]

theorem Facing.refuses_bracket {symbol : String} {a : Char} (h : (symbol, a) ∈ brackets)
    (facing : Facing ts text) (head : ts.head? ≠ some (.mark symbol)) :
    (character a).Refuses text := by
  have none : ∀ p ∈ brackets, isNameStart p.2 = false ∧ (p.2.isDigit || p.2 == '.') = false ∧
      (p.2 == '"' || p.2 == '\'') = false ∧ (p.2 == '$') = false ∧
      (p.2.isDigit || p.2 == '+' || p.2 == '-') = false := by decide
  have marks : ∀ p ∈ brackets, ∀ s ∈ marks, s.toList.head? = some p.2 → s = p.1 := by decide
  obtain ⟨word, number, quote, dollar, sign⟩ := none _ h
  refine facing.refuses_character fun t ht => ?_
  cases t with
  | word w => exact word
  | integer n => exact (Bool.or_eq_false_iff.mp number).1
  | float x => exact number
  | text s => exact quote
  | column | flowVariable | openColumn | openFlowVariable => exact dollar
  | offset n => exact sign
  | mark s =>
      rw [Bool.eq_false_iff]
      intro starts
      cases facing with
      | nil => cases ht
      | cons writes _ _ =>
          cases ht
          have same := marks _ h s writes.1 (eq_of_beq starts)
          exact head (by rw [same]; rfl)

/-- No bracket opens behind an expression. -/
theorem Follows.head_ne {L : Level} {symbol : String} (h : Follows L us)
    (opening : symbol = "(" ∨ symbol = "\x7b") : us.head? ≠ some (.mark symbol) := by
  cases h with
  | nil => simp
  | close hm =>
      rw [List.head?_cons]
      intro same
      cases same
      obtain rfl | rfl := opening <;> exact absurd hm (by decide)
  | @operator op _ _ hop _ _ =>
      refine fun same => hop.ne_mark ?_ (Option.some.inj same)
      intro op
      obtain rfl | rfl := opening <;> cases op <;> decide
  | assign =>
      rw [List.head?_cons]
      intro same
      cases same
      obtain same | same := opening <;> exact absurd same (by decide)

/-! ## Literals and accesses -/

/-- The token is a way to write the constant. -/
def Token.Denotes : Token → Constant → Prop
  | .word w, c => ∃ d, namedConstant? w = some d ∧ d.erase = c.erase
  | .integer n, c => c = .integer n
  | .float x, c => c = .float x
  | .text s, c => c = .string s
  | _, _ => False

theorem refuses_ifBlock (facing : Facing (t :: us) text) (h : t.OpensAtom) :
    g.ifBlock.Refuses text := by
  refine (facing.refuses_keyword_elsewhere (a := 'i') rfl ?_).bind _
  rintro _ ⟨⟩
  rw [Bool.eq_false_iff]
  intro starts
  cases h.not_isNameStart starts

theorem refuses_call (facing : Facing (t :: us) text) (h : t.OpensAtom) :
    g.call.Refuses text :=
  (facing.refuses_name (by rintro _ ⟨⟩ c hc; exact h.not_isNameStart hc)).bind _

/-- Accesses are not read where no dollar sign stands. -/
theorem refuses_accesses (facing : Facing (t :: us) text) (h : t.starts '$' = false) :
    flowVariableAccess.Refuses text ∧ columnAccess.Refuses text := by
  have none : ∀ a ∈ (t :: us).head?, a.starts '$' = false := by
    rintro _ ⟨⟩
    exact h
  exact ⟨(facing.refuses_literal rfl none).bind _, (facing.refuses_character none).bind _⟩

theorem Facing.takes_float {x : Float} (facing : Facing (.float x :: us) text) :
    floatLiteral.Takes text fun found left => found = x ∧ Spelled us left := by
  cases facing with
  | cons writes apart h =>
      refine (takes_floatLiteral writes.1 writes.2 (apart trivial)).weaken ?_ id id
      rintro _ _ ⟨rfl, rfl⟩
      exact ⟨rfl, h⟩

theorem Facing.takes_integer {n : Int64} (facing : Facing (.integer n :: us) text) :
    integerLiteral.Takes text fun found left => found = n ∧ Spelled us left := by
  cases facing with
  | cons writes apart h =>
      refine (takes_integerLiteral writes.1 writes.2 (apart trivial)).weaken ?_ id id
      rintro _ _ ⟨rfl, rfl⟩
      exact ⟨rfl, h⟩

theorem Facing.refuses_float {n : Int64} (facing : Facing (.integer n :: us) text) :
    floatLiteral.Refuses text := by
  cases facing with
  | cons writes apart h => exact writes.1.refuses_floatLiteral (apart trivial)

/-- A number is not read where no digit stands, nor a point. -/
theorem refuses_numbers (facing : Facing (t :: us) text)
    (h : ∀ c, t.starts c = true → c.isDigit = false ∧ c ≠ '.') :
    floatLiteral.Refuses text ∧ integerLiteral.Refuses text := by
  have digit : Lacks Char.isDigit text := facing.lacks (by rintro _ ⟨⟩ c hc; exact (h c hc).1)
  have point : Lacks (· == '.') text :=
    facing.lacks (by rintro _ ⟨⟩ c hc; exact beq_eq_false_iff_ne.mpr (h c hc).2)
  exact ⟨refuses_floatLiteral digit point, refuses_integerLiteral digit⟩

theorem Facing.takes_namedConstant {w : String} {c : Constant}
    (facing : Facing (.word w :: us) text) (h : namedConstant? w = some c) :
    namedConstant.Takes text fun found left => found = c ∧ Spelled us left := by
  refine (Ends.ahead (facing.takes_name.weaken (fun _ _ _ => rfl) id id)).bind ?_
  rintro _ _ rfl
  refine Ends.required (Ends.converted (facing.takes_name.weaken ?_ id id))
  rintro _ _ ⟨rfl, hrest⟩
  simp only [h]
  exact ⟨trivial, hrest⟩

/-- No constant is named like a prefix or a block. -/
theorem namedConstant_ne {w : String} {c : Constant} (h : namedConstant? w = some c) :
    w ≠ "if" ∧ w ≠ "not" := by
  constructor <;> (rintro rfl; cases h)

/-- The alternatives in front of the literals refuse a token that begins neither a word nor an
access. -/
theorem refuses_before_literals (facing : Facing (t :: us) text) (opens : t.OpensAtom)
    (noDollar : t.starts '$' = false) {Q : Expr → List Char → Prop} {F S : Prop}
    (h : Reader.Ends (choice
      [ do pure (.constant {} (.float (← floatLiteral))),
        do pure (.constant {} (.integer (← integerLiteral))),
        do pure (.constant {} (.string (← stringLiteral))),
        do pure (.constant {} (← namedConstant)) ]) text Q F S) :
    g.atom.Ends text Q F S := by
  obtain ⟨flow, column⟩ := refuses_accesses facing noDollar
  refine Refuses.choice (refuses_ifBlock facing opens) ?_
  exact Refuses.choice (refuses_call facing opens) (Refuses.choice flow (Refuses.choice column h))

/-- The alternatives in front of the named constants refuse a word that no parenthesis follows. -/
theorem refuses_before_namedConstant {w : String} (facing : Facing (.word w :: us) text)
    (notIf : w ≠ "if") (head : us.head? ≠ some (.mark "(")) {Q : Expr → List Char → Prop}
    {F S : Prop} (h : Reader.Ends (do pure (.constant {} (← namedConstant))) text Q F S) :
    g.atom.Ends text Q F S := by
  -- A word begins with neither a digit nor a quote.
  have noDigit : ∀ c, (Token.word w).starts c = true → c.isDigit = false ∧ c ≠ '.' := by
    intro c hc
    refine ⟨?_, by rintro rfl; cases hc⟩
    rw [Bool.eq_false_iff]
    intro digit
    have start : isNameStart c = true := hc
    rw [isNameStart_of_isDigit digit] at start
    cases start
  have noQuote : Lacks isQuote text := facing.lacks (by
    rintro _ ⟨⟩ c hc
    rw [Bool.eq_false_iff]
    intro quote
    obtain same | same := Bool.or_eq_true_iff.mp quote <;>
      (obtain rfl := eq_of_beq same; cases hc))
  obtain ⟨flow, column⟩ := refuses_accesses facing rfl
  obtain ⟨float, integer⟩ := refuses_numbers facing noDigit
  refine Refuses.choice ((facing.refuses_keyword rfl notIf).bind _) ?_
  refine Refuses.choice ?_ (Refuses.choice flow (Refuses.choice column ?_))
  · refine facing.takes_name.bind ?_
    rintro _ rest ⟨rfl, hrest⟩
    refine hrest.takes_blanks.bind fun _ _ facing => ?_
    exact (facing.refuses_bracket (.head _) head).bind _
  · refine Refuses.choice (float.bind _) (Refuses.choice (integer.bind _) ?_)
    exact Refuses.choice ((refuses_stringLiteral noQuote).bind _) h

/-- A literal is read as the constant that it denotes. -/
theorem Token.Denotes.takes {c : Constant} (h : t.Denotes c) (facing : Facing (t :: us) text)
    (head : us.head? ≠ some (.mark "(")) :
    g.atom.Takes text fun f rest => f.erase = (Expr.constant {} c).erase ∧ Spelled us rest := by
  cases t with
  | word w =>
      obtain ⟨d, hd, same⟩ := h
      refine refuses_before_namedConstant facing (namedConstant_ne hd).1 head ?_
      refine (facing.takes_namedConstant hd).bind ?_
      rintro _ _ ⟨rfl, hrest⟩
      exact ends_pure ⟨by rw [Expr.erase, Expr.erase, same], hrest⟩
  | integer n =>
      obtain rfl := h
      refine refuses_before_literals facing trivial rfl ?_
      refine Refuses.choice (facing.refuses_float.bind _) (Takes.choice ?_)
      refine facing.takes_integer.bind ?_
      rintro _ _ ⟨rfl, hrest⟩
      exact ends_pure ⟨rfl, hrest⟩
  | float x =>
      obtain rfl := h
      refine refuses_before_literals facing trivial rfl (Takes.choice ?_)
      refine facing.takes_float.bind ?_
      rintro _ _ ⟨rfl, hrest⟩
      exact ends_pure ⟨rfl, hrest⟩
  | text s =>
      obtain rfl := h
      have noNumber : ∀ c, (Token.text s).starts c = true → c.isDigit = false ∧ c ≠ '.' := by
        intro c hc
        obtain hc | hc := Bool.or_eq_true_iff.mp hc <;> (obtain rfl := eq_of_beq hc; decide)
      obtain ⟨float, integer⟩ := refuses_numbers facing noNumber
      refine refuses_before_literals facing trivial rfl ?_
      refine Refuses.choice (float.bind _) (Refuses.choice (integer.bind _) (Takes.choice ?_))
      refine facing.takes_stringLiteral.bind ?_
      rintro _ _ ⟨rfl, hrest⟩
      exact ends_pure ⟨rfl, hrest⟩
  | _ => exact h.elim

theorem ColumnRef.Renders.takes_atom {ref : ColumnRef} (h : ref.Renders ts)
    (facing : Facing (ts ++ us) text) :
    g.atom.Takes text fun f rest => f = .column {} ref ∧ Spelled us rest := by
  obtain ⟨t, vs, rfl, opens⟩ : ∃ t vs, ts = t :: vs ∧ t.OpensAtom := by
    cases h <;> exact ⟨_, _, rfl, trivial⟩
  refine Refuses.choice (refuses_ifBlock facing opens) ?_
  refine Refuses.choice (refuses_call facing opens) ?_
  exact Refuses.choice (h.refuses_flowVariableAccess facing) (Takes.choice (h.takes facing))

theorem FlowVariableRenders.takes_atom {n : String} (h : FlowVariableRenders n ts)
    (facing : Facing (ts ++ us) text) :
    g.atom.Takes text fun f rest => f = .flowVariable {} n ∧ Spelled us rest := by
  obtain ⟨t, vs, rfl, opens⟩ : ∃ t vs, ts = t :: vs ∧ t.OpensAtom := by
    cases h <;> exact ⟨_, _, rfl, trivial⟩
  refine Refuses.choice (refuses_ifBlock facing opens) ?_
  refine Refuses.choice (refuses_call facing opens) ?_
  exact Takes.choice (h.takes facing)

/-! ## Primary expressions -/

/-- An expression that is an atom, and does not begin with a mark. -/
theorem Readable.ofAtom (opens : Opens ts) (unnamed : ts.tail.head? ≠ some (.mark "="))
    (unmarked : ∀ symbol, ts.head? ≠ some (.mark symbol))
    (atom : ∀ d us text, ts.length ≤ d → Facing (ts ++ us) text → Follows .primary us →
      (grammar d).atom.Takes text fun f rest => f.erase = e.erase ∧ Spelled us rest) :
    Readable .primary ts e where
  opens := opens
  unnamed := unnamed
  minus head := absurd head (unmarked "-")
  joins := False.elim
  reads := by
    intro d hd us text spelled follows
    refine Ends.expecting (spelled.takes_blanks.bind fun _ left facing => ?_)
    have noParen : (ts ++ us).head? ≠ some (.mark "(") := by
      obtain ⟨t, ht, _⟩ := opens
      rw [List.head?_append, ht]
      exact fun same => unmarked "(" (ht.trans same)
    refine Refuses.orElse ((facing.refuses_bracket (.head _) noParen).bind _) ?_
    refine takes_offset.bind ?_
    rintro _ _ rfl
    refine (atom d us _ hd facing follows).bind ?_
    rintro f rest ⟨hf, hrest⟩
    refine takes_offset.bind ?_
    rintro _ _ rfl
    exact ends_pure ⟨by rw [Expr.erase_withSpan, hf], hrest⟩

theorem Readable.constant {c : Constant} {note : Note} (h : t.Denotes c) :
    Readable .primary [t] (.constant note c) := by
  refine .ofAtom ⟨t, rfl, ?_⟩ (by simp) ?_ fun d us text _ facing follows => ?_
  · cases t <;> trivial
  · rintro symbol ⟨⟩
    exact h
  · refine (h.takes facing (follows.head_ne (.inl rfl))).weaken ?_ id id
    rintro f rest ⟨hf, hrest⟩
    exact ⟨by rw [hf, Expr.erase, Expr.erase], hrest⟩

theorem Readable.column {ref : ColumnRef} {note : Note} (h : ref.Renders ts) :
    Readable .primary ts (.column note ref) := by
  refine .ofAtom ?_ ?_ ?_ fun d us text _ facing _ => ?_
  · cases h <;> exact ⟨_, rfl, trivial⟩
  · cases h with
    | plain => simp
    | bracketed h => cases h <;> simp
  · cases h <;> simp
  · refine (h.takes_atom facing).weaken ?_ id id
    rintro f rest ⟨rfl, hrest⟩
    exact ⟨by rw [Expr.erase, Expr.erase], hrest⟩

theorem Readable.flowVariable {n : String} {note : Note} (h : FlowVariableRenders n ts) :
    Readable .primary ts (.flowVariable note n) := by
  refine .ofAtom ?_ ?_ ?_ fun d us text _ facing _ => ?_
  · cases h <;> exact ⟨_, rfl, trivial⟩
  · cases h <;> simp
  · cases h <;> simp
  · refine (h.takes_atom facing).weaken ?_ id id
    rintro f rest ⟨rfl, hrest⟩
    exact ⟨by rw [Expr.erase, Expr.erase], hrest⟩

/-- Any expression in parentheses. -/
theorem Readable.parens (h : Readable .or ts e) :
    Readable .primary (.mark "(" :: (ts ++ [.mark ")"])) e where
  opens := ⟨_, rfl, .inl rfl⟩
  unnamed := (h.opens.append _).head_ne_assign
  minus := by simp
  joins := False.elim
  reads := by
    intro d hd us text spelled _
    simp only [List.length_cons, List.length_append] at hd
    obtain _ | d := d
    · cases hd
    refine Ends.expecting (spelled.takes_blanks.bind fun _ left facing => Takes.orElse ?_)
    refine (facing.takes_character rfl).bind fun _ rest hrest => ?_
    have inside : Spelled (ts ++ .mark ")" :: us) rest := by simpa using hrest
    have operand := h.reads d (by omega) _ rest inside (.close (.head _))
    refine (Ends.required operand).bind ?_
    rintro f rest ⟨hf, hrest⟩
    have closed : Reader.Takes (do
        blanks
        let _ ← character ')') rest fun _ left => Spelled us left :=
      hrest.takes_mark rfl fun _ h => ends_pure h
    exact (Ends.required closed).bind fun _ _ hrest => ends_pure ⟨hf, hrest⟩

/-! ## Blocks -/

/-- The tokens of a block. -/
def blockTokens (condition yes no : List Token) : List Token :=
  .word "if" :: .mark "(" :: (condition ++ .mark ")" :: .mark "\x7b" :: (yes ++
    .mark "\x7d" :: .word "else" :: .mark "\x7b" :: (no ++ [.mark "\x7d"])))

theorem length_blockTokens (condition yes no : List Token) :
    (blockTokens condition yes no).length = condition.length + yes.length + no.length + 8 := by
  simp only [blockTokens, List.length_cons, List.length_append, List.length_nil]
  omega

/-- Reading an expression between brackets, up to the closing one. -/
theorem Readable.reads_inside {d : Nat} {symbol : String} (h : Readable .or ts e)
    (hd : ts.length < d) (closing : symbol ∈ [")", ",", "\x7d"])
    (spelled : Spelled (ts ++ .mark symbol :: us) text) :
    (grammar d).expr.Takes text fun f rest =>
      f.erase = e.erase ∧ Spelled (.mark symbol :: us) rest := by
  obtain _ | d := d
  · cases hd
  · exact h.reads d (Nat.le_of_lt_succ hd) _ text spelled (.close closing)

theorem Readable.conditional {cs ys ns : List Token} {c y n : Expr} {note : Note}
    (hc : Readable .or cs c) (hy : Readable .or ys y) (hn : Readable .or ns n) :
    Readable .primary (blockTokens cs ys ns) (.conditional note c y n) := by
  refine .ofAtom ⟨_, rfl, trivial⟩ (by simp [blockTokens]) (by simp [blockTokens]) ?_
  intro d us text hd facing _
  rw [length_blockTokens] at hd
  simp only [blockTokens, List.cons_append, List.append_assoc, List.nil_append] at facing
  refine Takes.choice ?_
  refine facing.takes_keyword.bind fun _ _ h => ?_
  refine h.takes_mark rfl fun _ h => ?_
  refine (hc.reads_inside (by omega) (by decide) h).bind ?_
  rintro c' _ ⟨hc', h⟩
  refine h.takes_mark rfl fun _ h => h.takes_mark rfl fun _ h => Ends.required ?_
  refine (hy.reads_inside (by omega) (by decide) h).bind ?_
  rintro y' _ ⟨hy', h⟩
  refine h.takes_mark rfl fun _ h => ?_
  refine h.takes_blanks.bind fun _ _ facing => facing.takes_keyword.bind fun _ _ h => ?_
  refine h.takes_mark rfl fun _ h => ?_
  refine (hn.reads_inside (by omega) (by decide) h).bind ?_
  rintro n' _ ⟨hn', h⟩
  refine h.takes_mark rfl fun _ h => ?_
  exact ends_pure ⟨by simp only [Expr.erase, hc', hy', hn'], h⟩

/-! ## Calls -/

section Arguments

variable (R : List Token → Expr → Prop)

/-- The tokens of one argument, with values as `R` says. -/
inductive ArgumentTokens : Option String → Expr → List Token → Prop where
  | positional {e : Expr} {ts : List Token} (h : R ts e) : ArgumentTokens none e ts
  | named {n : String} {e : Expr} {ts : List Token} (h : R ts e) :
      ArgumentTokens (some n) e (.word n :: .mark "=" :: ts)

/-- The tokens of the arguments after the first one. -/
inductive MoreTokens : Args → List Token → Prop where
  | nil : MoreTokens .nil []
  | cons {name : Option String} {value : Expr} {rest : Args} {ts us : List Token}
      (first : ArgumentTokens R name value ts) (more : MoreTokens rest us) :
      MoreTokens (.cons name value rest) (.mark "," :: (ts ++ us))

/-- The tokens of all arguments. -/
inductive ArgumentsTokens : Args → List Token → Prop where
  | nil : ArgumentsTokens .nil []
  | cons {name : Option String} {value : Expr} {rest : Args} {ts us : List Token}
      (first : ArgumentTokens R name value ts) (more : MoreTokens R rest us) :
      ArgumentsTokens (.cons name value rest) (ts ++ us)

variable {R} {R' : List Token → Expr → Prop} {args : Args} {ts : List Token}

theorem ArgumentTokens.mono {name : Option String} {e : Expr} (h : ArgumentTokens R name e ts)
    (imp : ∀ us f, us.length ≤ ts.length → R us f → R' us f) : ArgumentTokens R' name e ts := by
  cases h with
  | positional h => exact .positional (imp _ _ (Nat.le_refl _) h)
  | named h => exact .named (imp _ _ (Nat.le_add_right _ 2) h)

theorem MoreTokens.mono (h : MoreTokens R args ts)
    (imp : ∀ us f, us.length ≤ ts.length → R us f → R' us f) : MoreTokens R' args ts := by
  induction h with
  | nil => exact .nil
  | cons first more ih =>
      refine .cons (first.mono fun us f le => imp us f ?_) (ih fun us f le => imp us f ?_)
      · simp only [List.length_cons, List.length_append]
        omega
      · simp only [List.length_cons, List.length_append]
        omega

theorem ArgumentsTokens.mono (h : ArgumentsTokens R args ts)
    (imp : ∀ us f, us.length ≤ ts.length → R us f → R' us f) : ArgumentsTokens R' args ts := by
  cases h with
  | nil => exact .nil
  | cons first more =>
      refine .cons (first.mono fun us f le => imp us f ?_) (more.mono fun us f le => imp us f ?_)
      · simp only [List.length_append]
        omega
      · simp only [List.length_append]
        omega

end Arguments

/-- Two signs of equality do not name an argument. -/
theorem Facing.refuses_assign (facing : Facing ts text) (head : ts.head? ≠ some (.mark "="))
    {β : Type} {f : Unit → Reader β} :
    Reader.Refuses (do let _ ← character '='; f (← notAhead (character '='))) text := by
  by_cases double : ts.head? = some (.mark "==")
  · cases facing with
    | nil => cases double
    | cons writes _ _ =>
        cases double
        obtain ⟨_, rfl⟩ := writes
        refine (Reader.takes_character '=').bind ?_
        rintro _ _ ⟨_, rfl⟩
        refine Refuses.bind ?_ _
        exact Ends.notAhead ((Reader.takes_character '=').ends.weaken (fun _ _ _ => trivial) id id)
  · have signs : ∀ s ∈ marks, s.toList.head? = some '=' → s = "=" ∨ s = "==" := by decide
    refine (facing.refuses_character fun t ht => ?_).bind _
    cases t with
    | mark s =>
        rw [Bool.eq_false_iff]
        intro starts
        cases facing with
        | nil => cases ht
        | cons writes _ _ =>
            cases ht
            obtain rfl | rfl := signs s writes.1 (eq_of_beq starts)
            · exact head rfl
            · exact double rfl
    | _ => rfl

/-- The first token of an expression is a word, a prefix minus, a parenthesis or that of an atom. -/
theorem Token.Opens.cases (h : t.Opens) :
    (∃ w, t = .word w) ∨ t.OpensAtom ∨ t = .mark "(" ∨ t = .mark "-" := by
  cases t with
  | word w => exact .inl ⟨w, rfl⟩
  | mark symbol => obtain rfl | rfl := h <;> simp
  | offset n => exact h.elim
  | _ => exact .inr (.inl trivial)

/-- A value is not taken for a named argument. -/
theorem Readable.refuses_named {L : Level} (h : Readable L ts e)
    (head : us.head? ≠ some (.mark "=")) (spelled : Spelled (ts ++ us) text) {β : Type}
    {f : String → Unit → Reader β} :
    Reader.Refuses (do
      blanks
      let n ← name
      blanks
      let _ ← character '='
      f n (← notAhead (character '='))) text := by
  refine (h.opens.takes_blanks spelled).bind ?_
  rintro _ left ⟨t, vs, rfl, opens, facing⟩
  obtain ⟨w, rfl⟩ | atom | rfl | rfl := opens.cases
  · refine facing.takes_name.bind ?_
    rintro _ rest ⟨rfl, hrest⟩
    refine hrest.takes_blanks.bind fun _ _ facing => facing.refuses_assign ?_
    cases vs with
    | nil => exact head
    | cons a vs => exact h.unnamed
  · refine (facing.refuses_name ?_).bind _
    rintro _ ⟨⟩ c hc
    exact atom.not_isNameStart hc
  all_goals
    refine (facing.refuses_name ?_).bind _
    rintro _ ⟨⟩ c hc
    cases eq_of_beq hc
    rfl

theorem ArgumentTokens.takes {name : Option String}
    (h : ArgumentTokens (Readable .or) name e ts) {d : Nat}
    {symbol : String} (hd : ts.length < d) (closing : symbol ∈ [")", ","])
    (spelled : Spelled (ts ++ .mark symbol :: us) text) :
    (grammar d).argument.Takes text fun p rest =>
      (p.1 = name ∧ p.2.erase = e.erase) ∧ Spelled (.mark symbol :: us) rest := by
  have closing' : symbol ∈ [")", ",", "\x7d"] := by
    obtain rfl | rfl : symbol = ")" ∨ symbol = "," := by simpa using closing
    · decide
    · decide
  cases h with
  | positional h =>
      have head : (Token.mark symbol :: us).head? ≠ some (.mark "=") := by
        rintro ⟨⟩
        exact absurd closing (by decide)
      refine Refuses.orElse (h.refuses_named head spelled) ?_
      refine (h.reads_inside hd closing' spelled).bind ?_
      rintro f rest ⟨hf, hrest⟩
      exact ends_pure ⟨⟨rfl, hf⟩, hrest⟩
  | @named n _ vs h =>
      simp only [List.length_cons] at hd
      refine Takes.orElse ?_
      refine spelled.takes_blanks.bind fun _ _ facing => ?_
      refine facing.takes_name.bind ?_
      rintro _ rest ⟨rfl, hrest⟩
      refine hrest.takes_mark rfl fun rest hrest => ?_
      -- No operator opens an expression, so that the sign is not the first one of two.
      have single : Lacks (· == '=') rest :=
        ((h.opens.append _).lacks_joins hrest).mono fun c hc => by simp_all [joins]
      refine (refuses_satisfying single).notAhead.bind ?_
      rintro _ _ rfl
      refine (Ends.required (h.reads_inside (by omega) closing' hrest)).bind ?_
      rintro f rest ⟨hf, hrest⟩
      exact ends_pure ⟨⟨rfl, hf⟩, hrest⟩

theorem MoreTokens.head {R : List Token → Expr → Prop} {args : Args} (h : MoreTokens R args ts)
    (us : List Token) :
    ∃ symbol ∈ [")", ","], ∃ vs, ts ++ .mark ")" :: us = .mark symbol :: vs := by
  cases h with
  | nil => exact ⟨")", by decide, us, rfl⟩
  | cons => exact ⟨",", by decide, _, rfl⟩

theorem refuses_comma (spelled : Spelled (.mark ")" :: us) text) :
    Reader.Refuses (do blanks; character ',') text := by
  have bracket : (",", ',') ∈ brackets := by decide
  exact spelled.takes_blanks.bind fun _ _ facing => facing.refuses_bracket bracket (by simp)

theorem MoreTokens.takes {args : Args} (h : MoreTokens (Readable .or) args ts) {d : Nat} (hd : ts.length < d)
    {text : List Char} (spelled : Spelled (ts ++ .mark ")" :: us) text) {fuel : Nat}
    (enough : ts.length ≤ fuel) :
    (manyWithin (do let _ ← (do blanks; character ','); (grammar d).argument) fuel).Takes text
      fun found rest =>
        (Args.ofList found).erase = args.erase ∧ Spelled (.mark ")" :: us) rest := by
  -- The induction is on the arguments, each with a comma in front of it.
  induction h generalizing text fuel with
  | nil =>
      exact ends_manyWithin_nil ((refuses_comma spelled).bind _) ⟨rfl, spelled⟩
  | @cons name value rest ts vs first more ih =>
      obtain _ | fuel := fuel
      · cases enough
      simp only [List.length_cons, List.length_append] at hd enough
      obtain ⟨symbol, hsymbol, ws, next⟩ := more.head us
      have one : Reader.Takes (do let _ ← (do blanks; character ','); (grammar d).argument) text
          fun p left => (p.1 = name ∧ p.2.erase = value.erase) ∧
            Spelled (vs ++ .mark ")" :: us) left := by
        have comma : Reader.Takes (do blanks; character ',') text
            fun _ left => Spelled (ts ++ (vs ++ .mark ")" :: us)) left := by
          refine spelled.takes_blanks.bind fun _ _ facing => ?_
          rw [List.cons_append, List.append_assoc] at facing
          exact facing.takes_character rfl
        refine comma.bind fun _ left hleft => ?_
        rw [next] at hleft ⊢
        exact first.takes (by omega) hsymbol hleft
      refine Ends.manyWithin_succ (one.ends.weaken ?_ False.elim id)
      rintro ⟨_, f⟩ left ⟨⟨rfl, hf⟩, hleft⟩
      refine (ih (by omega) hleft (by omega)).weaken ?_ id id
      rintro found left ⟨hfound, hleft⟩
      exact ⟨by simp only [Args.ofList, Args.erase, hf, hfound], hleft⟩

/-! ### No arguments -/

theorem Facing.lacks_close (facing : Facing (.mark ")" :: us) text) {p : Char → Bool}
    (h : p ')' = false) : Lacks p text := by
  refine facing.lacks ?_
  rintro _ ⟨⟩ c hc
  obtain rfl : ')' = c := Option.some.inj (eq_of_beq hc)
  exact h

/-- No atom begins with a closing parenthesis. -/
theorem refuses_atom (facing : Facing (.mark ")" :: us) text) : g.atom.Refuses text := by
  have lacks {p : Char → Bool} (h : p ')' = false) : Lacks p text := facing.lacks_close h
  refine refuses_choice fun r hr => ?_
  simp only [List.mem_cons, List.not_mem_nil, or_false] at hr
  obtain rfl | rfl | rfl | rfl | rfl | rfl | rfl | rfl := hr
  · exact ((refuses_literal_of_lacks rfl (lacks rfl)).bind _).bind _
  · exact ((refuses_satisfying (lacks rfl)).bind _).bind _
  · exact (refuses_literal_of_lacks rfl (lacks rfl)).bind _
  · exact (refuses_satisfying (lacks rfl)).bind _
  · exact (refuses_floatLiteral (lacks rfl) (lacks rfl)).bind _
  · exact (refuses_integerLiteral (lacks rfl)).bind _
  · exact (refuses_stringLiteral (lacks rfl)).bind _
  · have noName : name.Refuses text := (refuses_satisfying (lacks rfl)).bind _
    exact (Refuses.bind (Ends.ahead noName) _).bind _

/-- No expression begins with a closing parenthesis. -/
theorem refuses_disjunction (spelled : Spelled (.mark ")" :: us) text) :
    g.disjunction.Refuses text := by
  have primary : g.primary.Refuses text := by
    refine Ends.expecting (spelled.takes_blanks.bind fun _ left facing => ?_)
    refine Refuses.orElse ((refuses_satisfying (facing.lacks_close rfl)).bind _) ?_
    refine takes_offset.bind ?_
    rintro _ _ rfl
    exact (refuses_atom facing).bind _
  have power : g.power.Refuses text := (primary.bind _).bind _
  have unary : g.unary.Refuses text := by
    refine Refuses.orElse (spelled.takes_blanks.bind fun _ left facing => ?_) power
    refine takes_offset.bind ?_
    rintro _ _ rfl
    exact (refuses_satisfying (facing.lacks_close rfl)).bind _
  have compared : g.compared.Refuses text := ((unary.bind _).bind _).bind _
  have negated : g.negated.Refuses text := by
    refine Refuses.bind_optional (spelled.takes_blanks.bind fun _ left facing => ?_) compared
    refine takes_offset.bind ?_
    rintro _ _ rfl
    exact ((refuses_literal_of_lacks rfl (facing.lacks_close rfl)).bind _).bind _
  exact (negated.bind _).bind _

theorem refuses_expr {d : Nat} (spelled : Spelled (.mark ")" :: us) text) :
    (grammar d).expr.Refuses text := by
  cases d with
  | zero => exact fun _ => trivial
  | succ d => exact refuses_disjunction spelled

theorem refuses_argument {d : Nat} (spelled : Spelled (.mark ")" :: us) text) :
    (grammar d).argument.Refuses text := by
  refine Refuses.orElse (spelled.takes_blanks.bind fun _ left facing => ?_) ?_
  · refine (facing.refuses_name ?_).bind _
    rintro _ ⟨⟩ c hc
    cases eq_of_beq hc
    rfl
  · exact (refuses_expr spelled).bind _

theorem ArgumentsTokens.takes {args : Args} (h : ArgumentsTokens (Readable .or) args ts) {d : Nat}
    (hd : ts.length < d) (spelled : Spelled (ts ++ .mark ")" :: us) text) :
    (grammar d).arguments.Takes text fun found rest =>
      (Args.ofList found).erase = args.erase ∧ Spelled (.mark ")" :: us) rest := by
  have listed : (separatedBy (do blanks; character ',') (grammar d).argument).Takes text
      fun found rest =>
        (Args.ofList found).erase = args.erase ∧ Spelled (.mark ")" :: us) rest := by
    refine Ends.separatedBy ?_
    cases h with
    | nil => exact (refuses_argument spelled).ends ⟨rfl, spelled⟩
    | @cons name value rest ts vs first more =>
        simp only [List.length_append] at hd
        obtain ⟨symbol, hsymbol, ws, next⟩ := more.head us
        rw [List.append_assoc, next] at spelled
        refine (first.takes (by omega) hsymbol spelled).ends.weaken ?_ False.elim id
        rintro ⟨_, f⟩ left ⟨⟨rfl, hf⟩, hleft⟩
        rw [← next] at hleft
        have enough := hleft.length_le
        simp only [List.length_append] at enough
        refine Ends.many ((more.takes (by omega) hleft (by omega)).weaken ?_ id id)
        rintro found left ⟨hfound, hleft⟩
        exact ⟨by simp only [Args.ofList, Args.erase, hf, hfound], hleft⟩
  refine listed.bind ?_
  rintro found rest ⟨hfound, hrest⟩
  exact (refuses_comma hrest).bind_optional (ends_pure ⟨hfound, hrest⟩)

/-! ### Calls that begin like a block -/

/-- The tokens between the parentheses of a call named `if` are not taken for the condition of a
block: as an expression they do not fail for good, and no brace comes after them. -/
def NoBlock (ts : List Token) : Prop :=
  ∀ d us text, ts.length < d → Spelled (ts ++ .mark ")" :: us) text → Follows .primary us →
    (grammar d).expr.Ends text (fun _ rest =>
      ∃ vs, Spelled vs rest ∧ ∀ ws, vs ≠ .mark ")" :: .mark "\x7b" :: ws) True False

theorem noBlock_nil : NoBlock [] := fun _ _ _ _ spelled _ => (refuses_expr spelled).ends trivial

/-- Behind an argument comes another one, or no brace behind the closing parenthesis. -/
theorem MoreTokens.noBrace {R : List Token → Expr → Prop} {args : Args} (h : MoreTokens R args ts)
    (follows : Follows .primary us) (ws : List Token) :
    ts ++ .mark ")" :: us ≠ .mark ")" :: .mark "\x7b" :: ws := by
  intro same
  cases h with
  | nil =>
      cases same
      exact follows.head_ne (.inr rfl) rfl
  | cons => simp at same

theorem noBlock_positional {value : Expr} {rest : Args}
    (h : ArgumentsTokens (Readable .or) (.cons none value rest) ts) : NoBlock ts := by
  cases h with
  | @cons _ _ _ ts vs first more =>
      cases first with
      | positional h =>
          intro d us text hd spelled follows
          simp only [List.length_append] at hd
          obtain ⟨symbol, hsymbol, ws, next⟩ := more.head us
          have closing : symbol ∈ [")", ",", "\x7d"] := by
            obtain rfl | rfl : symbol = ")" ∨ symbol = "," := by simpa using hsymbol
            · decide
            · decide
          rw [List.append_assoc, next] at spelled
          refine (h.reads_inside (by omega) closing spelled).ends.weaken ?_ id id
          rintro f left ⟨_, hleft⟩
          exact ⟨_, hleft, next ▸ more.noBrace follows⟩

theorem NoBlock.refuses {d : Nat} (h : NoBlock ts) (hd : ts.length < d)
    (facing : Facing (.word "if" :: .mark "(" :: (ts ++ .mark ")" :: us)) text)
    (follows : Follows .primary us) : (grammar d).ifBlock.Refuses text := by
  refine facing.takes_keyword.bind fun _ _ spelled => ?_
  refine spelled.takes_mark rfl fun _ spelled => ?_
  refine Ends.bind (h d us _ hd spelled follows) ?_
  rintro f rest ⟨vs, hvs, noBlock⟩
  refine hvs.takes_blanks.bind fun _ left facing => ?_
  by_cases close : vs.head? = some (.mark ")")
  · cases vs with
    | nil => cases close
    | cons t vs =>
        cases close
        refine (facing.takes_character rfl).bind fun _ _ spelled => ?_
        refine spelled.takes_blanks.bind fun _ _ facing => ?_
        have bracket : ("\x7b", '\x7b') ∈ brackets := by decide
        refine (facing.refuses_bracket bracket ?_).bind _
        intro brace
        cases vs with
        | nil => cases brace
        | cons u vs =>
            cases brace
            exact noBlock vs rfl
  · have bracket : (")", ')') ∈ brackets := by decide
    exact (facing.refuses_bracket bracket close).bind _

theorem Readable.call {name : String} {args : Args} {callee : Callee} {note : Note}
    {resolution : Option Resolution} (h : ArgumentsTokens (Readable .or) args ts)
    (hcallee : callee = if isAggregationName name then .aggregation else .function)
    (block : name = "if" → NoBlock ts) :
    Readable .primary (.word name :: .mark "(" :: (ts ++ [.mark ")"]))
      (.call note callee name args resolution) := by
  refine .ofAtom ⟨_, rfl, trivial⟩ (by simp) (by simp) ?_
  intro d us text hd facing follows
  simp only [List.length_cons, List.length_append] at hd
  simp only [List.cons_append, List.append_assoc, List.nil_append] at facing
  -- A call named like a block lacks the brace of one.
  have noBlock : (grammar d).ifBlock.Refuses text := by
    by_cases same : name = "if"
    · subst same
      exact (block rfl).refuses (by omega) facing follows
    · exact (facing.refuses_keyword rfl same).bind _
  refine Refuses.choice noBlock (Takes.choice ?_)
  refine facing.takes_name.bind ?_
  rintro _ _ ⟨rfl, spelled⟩
  refine spelled.takes_mark rfl fun left spelled => ?_
  have closed : Reader.Takes (do
      let args ← (grammar d).arguments
      blanks
      let _ ← character ')'
      pure args) left
      fun found rest => (Args.ofList found).erase = args.erase ∧ Spelled us rest := by
    refine (h.takes (by omega) spelled).bind ?_
    rintro found rest ⟨hfound, spelled⟩
    exact spelled.takes_mark rfl fun _ spelled => ends_pure ⟨hfound, spelled⟩
  refine (Ends.required closed).bind ?_
  rintro found rest ⟨hfound, spelled⟩
  exact ends_pure ⟨by simp only [Expr.erase, hfound, hcallee], spelled⟩

/-! ## Whole texts -/

/-- A text that spells an expression is parsed as it. -/
theorem Readable.parse {source : String} (h : Readable .or ts e)
    (spelled : Spelled ts source.toList) : ∃ f, parse source = .ok f ∧ f.erase = e.erase := by
  have whole : (whole (source.toList.length + 1)).Takes source.toList
      fun f _ => f.erase = e.erase := by
    have all : Spelled (ts ++ []) source.toList := by
      rw [List.append_nil]
      exact spelled
    refine (h.reads _ spelled.length_le [] _ all .nil).bind ?_
    rintro f rest ⟨hf, hrest⟩
    refine hrest.takes_blanks.bind fun _ left facing => ?_
    cases facing
    exact (Ends.expecting takes_atEnd).bind fun _ _ _ => ends_pure hf
  have found := whole 0
  unfold Rowwise.parse
  dsimp only
  cases hw : Grammar.whole (source.toList.length + 1) ⟨0, source.toList⟩ with
  | ok f after =>
      rw [hw] at found
      exact ⟨f, rfl, found⟩
  | retry issue place =>
      rw [hw] at found
      exact found.elim
  | stop issue place =>
      rw [hw] at found
      exact found.elim

end Rowwise
