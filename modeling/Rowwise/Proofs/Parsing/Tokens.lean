import Rowwise.Expr.Parser
import Rowwise.Proofs.Parsing.Ends

/-!
# Source texts as tokens

A source text is a list of tokens with gaps of blanks and comments between them.  `Spelled ts text`
says that the text spells the tokens in order: any gap may stand in front of a token and at the
end, and what follows a word or a number does not go on with it.

For each kind of token the readers find just its characters, and `Spelled.takes_blanks` is the
lemma that leads from one token to the next.
-/

namespace Rowwise

open Grammar Reader

/-! ## Gaps -/

/-- Blanks and comments that end with their line. -/
inductive Gap : List Char → Prop where
  | nil : Gap []
  | blank {c : Char} {g : List Char} (h : isBlank c = true) (rest : Gap g) : Gap (c :: g)
  | comment {cs g : List Char} (h : ∀ c ∈ cs, c ≠ '\r' ∧ c ≠ '\n') (rest : Gap g) :
      Gap ('#' :: (cs ++ '\n' :: g))

theorem Gap.append {g g' : List Char} (h : Gap g) (h' : Gap g') : Gap (g ++ g') := by
  induction h with
  | nil => exact h'
  | blank hc _ ih => exact .blank hc ih
  | comment hcs _ ih =>
      rw [List.cons_append, List.append_assoc, List.cons_append]
      exact .comment hcs ih

theorem gap_space : Gap [' '] := .blank rfl .nil

theorem Gap.dropWhile {g : List Char} (h : Gap g) : Gap (g.dropWhile isBlank) := by
  induction h with
  | nil => exact .nil
  | blank hc _ ih =>
      rw [List.dropWhile_cons_of_pos hc]
      exact ih
  | comment hcs rest _ => exact .comment hcs rest

/-- A character with which a gap begins. -/
def opensGap (c : Char) : Bool := isBlank c || c == '#'

theorem Gap.lacks_dropWhile {g rest : List Char} (last : Lacks isBlank rest) :
    Lacks isBlank (g.dropWhile isBlank ++ rest) := by
  intro c hc
  have head := List.head?_dropWhile_not isBlank g
  cases h : g.dropWhile isBlank with
  | nil =>
      rw [h] at hc
      exact last c hc
  | cons a as =>
      rw [h] at hc head
      cases hc
      exact head

theorem takes_blankRun {c : Char} {g rest : List Char} (hc : isBlank c = true)
    (last : Lacks isBlank rest) :
    Reader.Takes (do let _ ← run1 isBlank) (c :: g ++ rest)
      fun _ left => left = g.dropWhile isBlank ++ rest := by
  have split : c :: g ++ rest = (c :: g.takeWhile isBlank) ++ (g.dropWhile isBlank ++ rest) := by
    simp [← List.append_assoc, List.takeWhile_append_dropWhile]
  have all : ∀ a ∈ c :: g.takeWhile isBlank, isBlank a = true :=
    List.forall_mem_cons.mpr ⟨hc, List.all_eq_true.mp List.all_takeWhile⟩
  rw [split]
  refine (takes_run1 (List.cons_ne_nil _ _) all (Gap.lacks_dropWhile last)).bind ?_
  rintro _ _ ⟨_, rfl⟩
  exact ends_pure rfl

/-- A comment ends in front of the end of its line. -/
theorem takes_comment {cs rest : List Char} (hcs : ∀ c ∈ cs, c ≠ '\r' ∧ c ≠ '\n') :
    comment.Takes ('#' :: (cs ++ '\n' :: rest)) fun _ left => left = '\n' :: rest := by
  refine (takes_character _).bind ?_
  rintro _ _ ⟨_, rfl⟩
  refine (takes_run (fun c hc => by simpa using hcs c hc) (by simp)).bind ?_
  rintro _ _ ⟨_, rfl⟩
  have noReturn : Reader.Refuses (do
      let _ ← character '\r'
      notAhead (character '\n')) ('\n' :: rest) := (refuses_character (by decide)).bind _
  exact Ends.notAhead (noReturn.ends rfl)

/-- One run of blanks or comment after the other is read. -/
theorem takes_gap {g rest : List Char} {fuel : Nat} (h : Gap g) (last : Lacks opensGap rest)
    (enough : g.length ≤ fuel) :
    (manyWithin (orElse (do let _ ← run1 isBlank) comment) fuel).Takes (g ++ rest)
      fun _ left => left = rest := by
  have noBlank : Lacks isBlank rest := last.mono fun c hc => by simp [opensGap, hc]
  have noComment : Lacks (· == '#') rest := last.mono fun c hc => by simp_all [opensGap]
  induction fuel generalizing g with
  | zero =>
      obtain rfl := List.length_eq_zero_iff.mp (Nat.le_zero.mp enough)
      exact ends_pure rfl
  | succ fuel ih =>
      cases h with
      | nil =>
          have noRun : Reader.Refuses (do let _ ← run1 isBlank) rest :=
            (refuses_run1 noBlank).bind _
          have noCommentRead : comment.Refuses rest := (refuses_satisfying noComment).bind _
          exact ends_manyWithin_nil (noRun.orElse noCommentRead) rfl
      | blank hc hg =>
          have shorter := Nat.le_trans (List.dropWhile_sublist isBlank).length_le
            (Nat.le_of_succ_le_succ enough)
          refine Ends.manyWithin_succ ((takes_blankRun hc noBlank).orElse.weaken ?_ False.elim id)
          rintro _ _ rfl
          exact ih hg.dropWhile shorter
      | @comment cs g hcs hg =>
          have shorter : ('\n' :: g).length ≤ fuel := by
            simp only [List.length_cons, List.length_append] at enough ⊢
            omega
          have noRun : Reader.Refuses (do let _ ← run1 isBlank)
              ('#' :: (cs ++ '\n' :: (g ++ rest))) := (refuses_run1 (lacks_cons.mpr rfl)).bind _
          rw [List.cons_append, List.append_assoc, List.cons_append]
          refine Ends.manyWithin_succ ((noRun.orElse (takes_comment hcs)).weaken ?_ False.elim id)
          rintro _ _ rfl
          -- The end of the line is a blank, with which the rest of the gap begins.
          exact ih (.blank rfl hg) shorter

theorem takes_blanks {g rest : List Char} (h : Gap g) (last : Lacks opensGap rest) :
    blanks.Takes (g ++ rest) fun _ left => left = rest := by
  have read : Reader.Takes (many (orElse (do let _ ← run1 isBlank) comment)) (g ++ rest)
      fun _ left => left = rest := Ends.many (takes_gap h last (by simp))
  exact read.bind fun _ _ h => ends_pure h

/-! ## Tokens -/

/-- A word, a literal, an access or a mark.  The signs `$[` and `$$[` and a signed row offset are
tokens of their own. -/
inductive Token where
  | word (w : String)
  | integer (n : Int64)
  | float (x : Float)
  | text (s : String)
  | column (name : String)
  | flowVariable (name : String)
  | openColumn
  | openFlowVariable
  | offset (n : Int64)
  | mark (symbol : String)

/-- Everything that is written as a mark. -/
def marks : List String :=
  ["(", ")", "\x7b", "\x7d", "]", ",", "=", "==", "!=", "<>", "<=", ">=", "<", ">", "+", "-", "*",
    "/", "//", "%", "**", "??"]

/-- At least one digit, and nothing else. -/
def Digits (cs : List Char) : Prop := cs ≠ [] ∧ ∀ c ∈ cs, c.isDigit = true

/-- The exponent of a float literal. -/
def IsExponent (cs : List Char) : Prop :=
  ∃ (e : Char) (sign : Option Char) (digits : List Char),
    cs = e :: sign.toList ++ digits ∧ (e = 'e' ∨ e = 'E') ∧
      (∀ c, sign = some c → c = '+' ∨ c = '-') ∧ Digits digits

/-- The literals of floats: with a point, an exponent, or both. -/
inductive IsFloat : List Char → Prop where
  | point {whole fraction e : List Char} (hw : Digits whole)
      (hf : ∀ c ∈ fraction, c.isDigit = true) (he : e = [] ∨ IsExponent e) :
      IsFloat (whole ++ '.' :: fraction ++ e)
  | fraction {fraction e : List Char} (hf : Digits fraction) (he : e = [] ∨ IsExponent e) :
      IsFloat ('.' :: fraction ++ e)
  | exponent {whole e : List Char} (hw : Digits whole) (he : IsExponent e) : IsFloat (whole ++ e)

/-- The literals of integers: a digit, and digits and underscores after it. -/
def IsInteger (cs : List Char) : Prop :=
  ∃ c rest, cs = c :: rest ∧ c.isDigit = true ∧ ∀ a ∈ rest, (a.isDigit || a == '_') = true

/-- The text between two quotes, and the characters that it stands for. -/
inductive Quoted (quote : Char) : List Char → List Char → Prop where
  | nil : Quoted quote [] []
  | plain {c : Char} {cs s : List Char} (slash : c ≠ '\\') (other : c ≠ quote)
      (rest : Quoted quote cs s) : Quoted quote (c :: cs) (c :: s)
  | escaped {c : Char} {cs s : List Char} (rest : Quoted quote cs s) :
      Quoted quote ('\\' :: c :: cs) (unescape c :: s)

/-- The ways to write a token. -/
def Token.Writes : Token → List Char → Prop
  | word w, cs => isPlainName w = true ∧ cs = w.toList
  | integer n, cs => IsInteger cs ∧ integerOfDigits (cs.filter (· != '_')) = .ok n
  | float x, cs => IsFloat cs ∧ FloatText.read? cs = some x
  | text s, cs => ∃ quote body, (quote = '"' ∨ quote = '\'') ∧ cs = quote :: (body ++ [quote]) ∧
      Quoted quote body s.toList
  | column name, cs => isPlainName name = true ∧ cs = '$' :: name.toList
  | flowVariable name, cs => isPlainName name = true ∧ cs = '$' :: '$' :: name.toList
  | openColumn, cs => cs = ['$', '[']
  | openFlowVariable, cs => cs = ['$', '$', '[']
  | offset n, cs => ∃ (sign : Option Char) (digits : List Char),
      cs = sign.toList ++ digits ∧ (∀ c, sign = some c → c = '+' ∨ c = '-') ∧ Digits digits ∧
        integerOfDigits cs = .ok n
  | mark symbol, cs => symbol ∈ marks ∧ cs = symbol.toList

/-- A character that goes on with a word or a number. -/
def goesOn (c : Char) : Bool := isNameChar c || c == '.'

/-- The tokens that may run into what follows. -/
def Token.IsWord : Token → Prop
  | word _ | integer _ | float _ | column _ | flowVariable _ | offset _ => True
  | _ => False

/-- The text spells the tokens in order, with gaps between them. -/
inductive Spelled : List Token → List Char → Prop where
  | nil {g : List Char} (gap : Gap g) : Spelled [] g
  | cons {t : Token} {ts : List Token} {g cs rest : List Char} (gap : Gap g)
      (writes : t.Writes cs) (apart : t.IsWord → Lacks goesOn rest) (h : Spelled ts rest) :
      Spelled (t :: ts) (g ++ (cs ++ rest))

/-- The text spells the tokens, and no gap stands in front of them. -/
inductive Facing : List Token → List Char → Prop where
  | nil : Facing [] []
  | cons {t : Token} {ts : List Token} {cs rest : List Char} (writes : t.Writes cs)
      (apart : t.IsWord → Lacks goesOn rest) (h : Spelled ts rest) : Facing (t :: ts) (cs ++ rest)

section Spelling

variable {t : Token} {ts : List Token} {text : List Char}

theorem Spelled.token {cs : List Char} (h : Spelled ts text) (writes : t.Writes cs)
    (apart : t.IsWord → Lacks goesOn text) : Spelled (t :: ts) (cs ++ text) :=
  .cons .nil writes apart h

theorem Spelled.mark (h : Spelled ts text) (symbol : String) (hs : symbol ∈ marks) :
    Spelled (.mark symbol :: ts) (symbol.toList ++ text) := h.token ⟨hs, rfl⟩ False.elim

theorem Spelled.word (h : Spelled ts text) (w : String) (plain : isPlainName w = true)
    (apart : Lacks goesOn text) : Spelled (.word w :: ts) (w.toList ++ text) :=
  h.token ⟨plain, rfl⟩ fun _ => apart

theorem Spelled.gap {g : List Char} (h : Spelled ts text) (gap : Gap g) : Spelled ts (g ++ text) := by
  cases h with
  | nil end_ => exact .nil (gap.append end_)
  | cons between writes apart h =>
      rw [← List.append_assoc]
      exact .cons (gap.append between) writes apart h

theorem Spelled.space (h : Spelled ts text) : Spelled ts (' ' :: text) := h.gap gap_space

end Spelling

/-- The characters with which a token may begin. -/
def Token.starts : Token → Char → Bool
  | word _, c => isNameStart c
  | integer _, c => c.isDigit
  | float _, c => c.isDigit || c == '.'
  | text _, c => c == '"' || c == '\''
  | column _, c | flowVariable _, c | openColumn, c | openFlowVariable, c => c == '$'
  | offset _, c => c.isDigit || c == '+' || c == '-'
  | mark symbol, c => symbol.toList.head? == some c

theorem isPlainName_cons {w : String} (h : isPlainName w = true) :
    ∃ c cs, w.toList = c :: cs ∧ isNameStart c = true ∧ ∀ a ∈ cs, isNameChar a = true := by
  unfold isPlainName at h
  cases hw : w.toList with
  | nil => simp [hw] at h
  | cons c cs =>
      rw [hw] at h
      obtain ⟨hc, hcs⟩ := Bool.and_eq_true_iff.mp h
      exact ⟨c, cs, rfl, hc, List.all_eq_true.mp hcs⟩

theorem Digits.cons {cs : List Char} (h : Digits cs) :
    ∃ c rest, cs = c :: rest ∧ c.isDigit = true ∧ ∀ a ∈ rest, a.isDigit = true := by
  obtain ⟨nonempty, all⟩ := h
  cases cs with
  | nil => exact absurd rfl nonempty
  | cons c rest => exact ⟨c, rest, rfl, List.forall_mem_cons.mp all⟩

/-- Every token begins with one of its first characters. -/
theorem Token.Writes.head {t : Token} {cs : List Char} (h : t.Writes cs) :
    ∃ c rest, cs = c :: rest ∧ t.starts c = true := by
  cases t with
  | word w =>
      obtain ⟨hw, rfl⟩ := h
      obtain ⟨c, rest, hcs, hc, _⟩ := isPlainName_cons hw
      exact ⟨c, rest, hcs, hc⟩
  | integer n =>
      obtain ⟨⟨c, rest, hcs, hc, _⟩, _⟩ := h
      exact ⟨c, rest, hcs, hc⟩
  | float x =>
      obtain ⟨shape, _⟩ := h
      cases shape with
      | point hw | exponent hw =>
          obtain ⟨c, rest, rfl, hc, _⟩ := hw.cons
          exact ⟨c, _, rfl, Bool.or_eq_true_iff.mpr (.inl hc)⟩
      | fraction => exact ⟨'.', _, rfl, rfl⟩
  | text s =>
      obtain ⟨quote, body, hquote, rfl, _⟩ := h
      refine ⟨quote, _, rfl, ?_⟩
      obtain rfl | rfl := hquote <;> rfl
  | column name | flowVariable name =>
      obtain ⟨_, rfl⟩ := h
      exact ⟨'$', _, rfl, rfl⟩
  | openColumn | openFlowVariable =>
      obtain rfl := h
      exact ⟨'$', _, rfl, rfl⟩
  | offset n =>
      obtain ⟨sign, digits, rfl, hsign, hdigits, _⟩ := h
      obtain ⟨d, rest, rfl, hd, _⟩ := hdigits.cons
      cases sign with
      | none => exact ⟨d, rest, rfl, by simp [starts, hd]⟩
      | some c =>
          refine ⟨c, _, rfl, ?_⟩
          obtain rfl | rfl := hsign c rfl <;> rfl
  | mark symbol =>
      obtain ⟨hs, rfl⟩ := h
      cases hcs : symbol.toList with
      | nil =>
          obtain rfl : symbol = "" := String.toList_eq_nil_iff.mp hcs
          exact absurd hs (by decide)
      | cons c rest => exact ⟨c, rest, rfl, by simp [starts, hcs]⟩

/-- No token begins like a gap. -/
theorem Token.Writes.not_opensGap {t : Token} {c : Char} {rest : List Char}
    (h : t.Writes (c :: rest)) : opensGap c = false := by
  obtain ⟨_, _, same, starts⟩ := h.head
  cases same
  rw [Bool.eq_false_iff]
  intro gap
  have blank : c = ' ' ∨ c = '\t' ∨ c = '\r' ∨ c = '\n' ∨ c = '#' := by
    simpa [opensGap, isBlank, or_assoc] using gap
  cases t with
  | mark symbol =>
      have none : ∀ s ∈ marks, s.toList.any opensGap = false := by decide
      have mem : c ∈ symbol.toList := h.2 ▸ .head _
      have some : symbol.toList.any opensGap = true := List.any_eq_true.mpr ⟨c, mem, gap⟩
      rw [none symbol h.1] at some
      cases some
  | _ => obtain rfl | rfl | rfl | rfl | rfl := blank <;> cases starts

/-- Blanks lead to the next token. -/
theorem Spelled.takes_blanks {ts : List Token} {text : List Char} (h : Spelled ts text) :
    blanks.Takes text fun _ left => Facing ts left := by
  cases h with
  | @nil g gap =>
      have read := Rowwise.takes_blanks gap lacks_nil
      rw [List.append_nil] at read
      refine read.weaken ?_ id id
      rintro _ _ rfl
      exact .nil
  | @cons t ts g cs rest gap writes apart h =>
      obtain ⟨c, cs, rfl, _⟩ := writes.head
      have last : Lacks opensGap (c :: cs ++ rest) := lacks_cons.mpr writes.not_opensGap
      refine (Rowwise.takes_blanks gap last).weaken ?_ id id
      rintro _ _ rfl
      exact .cons writes apart h

/-- Each token takes at least one character. -/
theorem Spelled.length_le {ts : List Token} {text : List Char} (h : Spelled ts text) :
    ts.length ≤ text.length := by
  induction h with
  | nil => exact Nat.zero_le _
  | cons gap writes _ _ ih =>
      obtain ⟨_, _, rfl, _⟩ := writes.head
      simp only [List.length_cons, List.length_append]
      omega

/-! ## What readers make of a token -/

section Readers

variable {t : Token} {us ts : List Token} {text : List Char}

/-- A reader for the first character of a class that no first token begins with refuses. -/
theorem Facing.lacks {p : Char → Bool} (h : Facing ts text)
    (none : ∀ t ∈ ts.head?, ∀ c, t.starts c = true → p c = false) : Lacks p text := by
  intro c hc
  cases h with
  | nil => cases hc
  | cons writes _ _ =>
      obtain ⟨a, cs, rfl, starts⟩ := writes.head
      cases hc
      exact none _ rfl _ starts

theorem Facing.lacks_character {a : Char} (h : Facing ts text)
    (none : ∀ t ∈ ts.head?, t.starts a = false) : Lacks (· == a) text :=
  h.lacks fun t ht c hc => by
    rw [beq_eq_false_iff_ne]
    rintro rfl
    rw [none t ht] at hc
    cases hc

theorem Facing.refuses_character {a : Char} (h : Facing ts text)
    (none : ∀ t ∈ ts.head?, t.starts a = false) : (character a).Refuses text :=
  refuses_satisfying (h.lacks_character none)

/-- A mark of one character. -/
theorem Facing.takes_character {symbol : String} {a : Char} (h : Facing (.mark symbol :: us) text)
    (one : symbol.toList = [a]) : (character a).Takes text fun _ left => Spelled us left := by
  cases h with
  | cons writes _ h =>
      obtain ⟨_, rfl⟩ := writes
      rw [one]
      refine (Reader.takes_character a).weaken ?_ id id
      rintro _ _ ⟨_, rfl⟩
      exact h

/-- A mark behind blanks leads to what is read behind it. -/
theorem Spelled.takes_mark {symbol : String} {a : Char} (h : Spelled (.mark symbol :: us) text)
    (one : symbol.toList = [a]) {β : Type} {next : Reader β} {Q : β → List Char → Prop} {F S : Prop}
    (behind : ∀ left, Spelled us left → next.Ends left Q F S) :
    Reader.Ends (do blanks; let _ ← character a; next) text Q F S :=
  h.takes_blanks.bind fun _ _ facing => (facing.takes_character one).bind fun _ => behind

theorem Facing.takes_literal {symbol : String} (h : Facing (.mark symbol :: us) text) :
    (literal symbol).Takes text fun _ left => Spelled us left := by
  cases h with
  | cons writes _ h =>
      obtain ⟨_, rfl⟩ := writes
      refine (Reader.takes_literal symbol).weaken ?_ id id
      rintro _ _ rfl
      exact h

/-- A literal whose first character does not begin the next token. -/
theorem Facing.refuses_literal {word : String} {a : Char} (h : Facing ts text)
    (first : word.toList.head? = some a) (none : ∀ t ∈ ts.head?, t.starts a = false) :
    (literal word).Refuses text := refuses_literal_of_lacks first (h.lacks_character none)

/-! ### Words -/

theorem isNameChar_of_isNameStart {c : Char} (h : isNameStart c = true) : isNameChar c = true := by
  obtain h | h := Bool.or_eq_true_iff.mp h <;> simp [isNameChar, Char.isAlphanum, h]

theorem isPlainName_all {w : String} (h : isPlainName w = true) :
    ∀ c ∈ w.toList, isNameChar c = true := by
  obtain ⟨c, cs, hw, hc, hcs⟩ := isPlainName_cons h
  rw [hw]
  exact List.forall_mem_cons.mpr ⟨isNameChar_of_isNameStart hc, hcs⟩

theorem lacks_isNameChar (h : Lacks goesOn text) : Lacks isNameChar text :=
  h.mono fun c hc => by simp [goesOn, hc]

theorem Facing.takes_keyword {w : String} (h : Facing (.word w :: us) text) :
    (keyword w).Takes text fun _ left => Spelled us left := by
  cases h with
  | cons writes apart h =>
      obtain ⟨_, rfl⟩ := writes
      refine (Reader.takes_literal w).bind ?_
      rintro _ _ rfl
      have ended := refuses_satisfying (lacks_isNameChar (apart trivial))
      refine ended.notAhead.weaken ?_ id id
      rintro _ _ rfl
      exact h

/-- A keyword is not the beginning of a longer word, nor a longer one. -/
theorem Facing.refuses_keyword {k w : String} (h : Facing (.word w :: us) text)
    (hk : isPlainName k = true) (ne : w ≠ k) : (keyword k).Refuses text := by
  cases h with
  | @cons _ _ _ rest writes apart h =>
      obtain ⟨hw, rfl⟩ := writes
      cases begins : k.toList.isPrefixOf (w.toList ++ rest) with
      | false => exact (Reader.refuses_literal begins).bind _
      | true =>
          obtain ⟨more, same⟩ := List.isPrefixOf_iff_prefix.mp begins
          rw [← same]
          refine (Reader.takes_literal k).bind ?_
          rintro _ _ rfl
          -- One of the two words is longer, and goes on where the other one ends.
          obtain ⟨as, hws, hmore⟩ | ⟨as, hks, hrest⟩ := List.append_eq_append_iff.mp same
          · cases as with
            | nil => exact absurd (String.toList_inj.mp (by simpa using hws)) ne
            | cons a as =>
                subst hmore
                have goes : isNameChar a = true :=
                  isPlainName_all hw a (hws ▸ List.mem_append_right _ (.head _))
                exact Ends.notAhead ((takes_satisfying goes).ends.weaken (fun _ _ _ => trivial) id id)
          · cases as with
            | nil => exact absurd (String.toList_inj.mp (by simpa using hks.symm)) ne
            | cons a as =>
                have goes : isNameChar a = true :=
                  isPlainName_all hk a (hks ▸ List.mem_append_right _ (.head _))
                rw [lacks_isNameChar (apart trivial) a (by simp [hrest])] at goes
                cases goes

/-- A keyword is not read where no word stands. -/
theorem Facing.refuses_keyword_elsewhere {k : String} {a : Char} (h : Facing ts text)
    (first : k.toList.head? = some a) (none : ∀ t ∈ ts.head?, t.starts a = false) :
    (keyword k).Refuses text := (h.refuses_literal first none).bind _

theorem Facing.takes_name {w : String} (h : Facing (.word w :: us) text) :
    name.Takes text fun found left => found = w ∧ Spelled us left := by
  cases h with
  | cons writes apart h =>
      obtain ⟨hw, rfl⟩ := writes
      obtain ⟨c, cs, hcs, hc, all⟩ := isPlainName_cons hw
      rw [hcs]
      refine (takes_satisfying hc).bind ?_
      rintro _ _ ⟨rfl, rfl⟩
      refine (takes_run all (lacks_isNameChar (apart trivial))).bind ?_
      rintro _ _ ⟨rfl, rfl⟩
      refine ends_pure ⟨?_, h⟩
      rw [← hcs, String.ofList_toList]

theorem Facing.refuses_name (h : Facing ts text)
    (none : ∀ t ∈ ts.head?, ∀ c, t.starts c = true → isNameStart c = false) :
    name.Refuses text := (refuses_satisfying (h.lacks none)).bind _

end Readers

end Rowwise
