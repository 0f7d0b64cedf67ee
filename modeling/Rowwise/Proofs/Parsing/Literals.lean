import Rowwise.Proofs.Parsing.Tokens

/-!
# Literals and accesses

The readers of literals, of column accesses and of flow variables find the value of the token that
they face, and refuse the other tokens.
-/

namespace Rowwise

open Grammar Reader

variable {us ts : List Token} {text rest : List Char}

/-! ## Numbers -/

theorem goesOn_of_isDigit {c : Char} (h : c.isDigit = true) : goesOn c = true := by
  simp [goesOn, isNameChar, Char.isAlphanum, h]

/-- Whether a character begins an exponent. -/
def opensExponent (c : Char) : Bool := c == 'e' || c == 'E'

theorem opensExponent_iff {c : Char} : opensExponent c = true ↔ c = 'e' ∨ c = 'E' := by
  simp [opensExponent]

theorem lacks_isDigit (h : Lacks goesOn text) : Lacks Char.isDigit text :=
  h.mono fun _ hc => goesOn_of_isDigit hc

theorem lacks_opensExponent (h : Lacks goesOn text) : Lacks opensExponent text :=
  h.mono fun c hc => by obtain rfl | rfl := opensExponent_iff.mp hc <;> rfl

theorem Digits.append {cs : List Char} (h : Digits cs) (last : Lacks Char.isDigit rest) :
    (run1 Char.isDigit).Takes (cs ++ rest) fun found left => found = cs ∧ left = rest :=
  takes_run1 h.1 h.2 last

theorem refuses_exponent (h : Lacks opensExponent text) : exponent.Refuses text :=
  (refuses_satisfying h).bind _

/-- A sign that may be missing, in front of digits. -/
theorem takes_sign {sign : Option Char} {digits : List Char}
    (hsign : ∀ c, sign = some c → c = '+' ∨ c = '-') (hdigits : Digits digits) :
    (optional (satisfying fun c => c == '+' || c == '-')).Takes (sign.toList ++ (digits ++ rest))
      fun found left => found = sign ∧ left = digits ++ rest := by
  cases sign with
  | none =>
      obtain ⟨d, ds, rfl, hd, _⟩ := hdigits.cons
      refine Ends.optional ((refuses_satisfying ?_).ends ⟨rfl, rfl⟩)
      rw [Option.toList_none, List.nil_append, List.cons_append, lacks_cons]
      rw [Bool.or_eq_false_iff, beq_eq_false_iff_ne, beq_eq_false_iff_ne]
      constructor <;> (rintro rfl; cases hd)
  | some a =>
      have ha : (a == '+' || a == '-') = true := by obtain rfl | rfl := hsign a rfl <;> rfl
      refine Ends.optional ((takes_satisfying ha).weaken ?_ False.elim id)
      rintro _ _ ⟨rfl, rfl⟩
      exact ⟨rfl, rfl⟩

theorem IsExponent.lacks_isDigit {e : List Char} (h : IsExponent e) :
    Lacks Char.isDigit (e ++ rest) := by
  obtain ⟨c, sign, digits, rfl, hc, _⟩ := h
  rw [List.append_assoc, List.cons_append, lacks_cons]
  obtain rfl | rfl := hc <;> rfl

theorem IsExponent.lacks_point {e : List Char} (h : IsExponent e) :
    Lacks (· == '.') (e ++ rest) := by
  obtain ⟨c, sign, digits, rfl, hc, _⟩ := h
  rw [List.append_assoc, List.cons_append, lacks_cons]
  obtain rfl | rfl := hc <;> rfl

theorem IsExponent.takes {e : List Char} (h : IsExponent e) (last : Lacks Char.isDigit rest) :
    exponent.Takes (e ++ rest) fun found left => found = e ∧ left = rest := by
  obtain ⟨c, sign, digits, rfl, hc, hsign, hdigits⟩ := h
  have opens : opensExponent c = true := by obtain rfl | rfl := hc <;> rfl
  rw [List.append_assoc, List.cons_append]
  refine (takes_satisfying opens).bind ?_
  rintro _ _ ⟨rfl, rfl⟩
  refine (takes_sign hsign hdigits).bind ?_
  rintro _ _ ⟨rfl, rfl⟩
  refine (hdigits.append last).bind ?_
  rintro _ _ ⟨rfl, rfl⟩
  exact ends_pure ⟨rfl, rfl⟩

/-- An exponent that may be missing. -/
theorem takes_optionalExponent {e : List Char} (h : e = [] ∨ IsExponent e)
    (last : Lacks goesOn rest) :
    (optional exponent).Takes (e ++ rest) fun found left => found.getD [] = e ∧ left = rest := by
  obtain rfl | h := h
  · exact Ends.optional ((refuses_exponent (lacks_opensExponent last)).ends ⟨rfl, rfl⟩)
  · refine Ends.optional ((h.takes (lacks_isDigit last)).weaken ?_ False.elim id)
    rintro _ _ ⟨rfl, rfl⟩
    exact ⟨rfl, rfl⟩

theorem lacks_isDigit_exponent {e : List Char} (h : e = [] ∨ IsExponent e)
    (last : Lacks goesOn rest) : Lacks Char.isDigit (e ++ rest) := by
  obtain rfl | h := h
  · exact lacks_isDigit last
  · exact h.lacks_isDigit

/-- The digits behind a point may be missing. -/
theorem takes_optionalDigits {digits : List Char} (h : ∀ c ∈ digits, c.isDigit = true)
    (last : Lacks Char.isDigit rest) :
    (optional (run1 Char.isDigit)).Takes (digits ++ rest)
      fun found left => found.getD [] = digits ∧ left = rest := by
  refine Ends.optional ?_
  by_cases nonempty : digits = []
  · subst nonempty
    exact (refuses_run1 last).ends ⟨rfl, rfl⟩
  · refine (takes_run1 nonempty h last).ends.weaken ?_ False.elim False.elim
    rintro _ _ ⟨rfl, rfl⟩
    exact ⟨rfl, rfl⟩

/-- A float is read by the alternative for its shape, and the ones in front of that fail. -/
theorem takes_floatLiteral {cs : List Char} {x : Float} (shape : IsFloat cs)
    (value : FloatText.read? cs = some x) (last : Lacks goesOn rest) :
    floatLiteral.Takes (cs ++ rest) fun found left => found = x ∧ left = rest := by
  refine Ends.converted ?_
  suffices h : Reader.Takes (choice _) (cs ++ rest) fun found left => found = cs ∧ left = rest by
    refine h.weaken ?_ id id
    rintro _ _ ⟨rfl, rfl⟩
    simp [value]
  cases shape with
  | @point whole fraction e hw hf he =>
      have noDigit := lacks_isDigit_exponent he last
      simp only [List.append_assoc, List.cons_append]
      refine Takes.choice ?_
      refine (hw.append (lacks_cons.mpr rfl)).bind ?_
      rintro _ _ ⟨rfl, rfl⟩
      refine (takes_character '.').bind ?_
      rintro _ _ ⟨rfl, rfl⟩
      refine (takes_optionalDigits hf noDigit).bind ?_
      rintro _ _ ⟨rfl, rfl⟩
      refine (takes_optionalExponent he last).bind ?_
      rintro _ _ ⟨rfl, rfl⟩
      exact ends_pure ⟨by simp, rfl⟩
  | @fraction fraction e hf he =>
      have noDigit := lacks_isDigit_exponent he last
      simp only [List.append_assoc, List.cons_append]
      refine Refuses.choice ((refuses_run1 (lacks_cons.mpr rfl)).bind _) (Takes.choice ?_)
      refine (takes_character '.').bind ?_
      rintro _ _ ⟨rfl, rfl⟩
      refine (hf.append noDigit).bind ?_
      rintro _ _ ⟨rfl, rfl⟩
      refine (takes_optionalExponent he last).bind ?_
      rintro _ _ ⟨rfl, rfl⟩
      exact ends_pure ⟨rfl, rfl⟩
  | @exponent whole e hw he =>
      obtain ⟨d, ds, hcons, hd, _⟩ := hw.cons
      rw [List.append_assoc]
      refine Refuses.choice ?_ (Refuses.choice ?_ (Takes.choice ?_))
      · refine (hw.append he.lacks_isDigit).bind ?_
        rintro _ _ ⟨rfl, rfl⟩
        exact (refuses_satisfying he.lacks_point).bind _
      · rw [hcons, List.cons_append]
        exact (refuses_character (by rintro rfl; cases hd)).bind _
      · refine (hw.append he.lacks_isDigit).bind ?_
        rintro _ _ ⟨rfl, rfl⟩
        refine (he.takes (lacks_isDigit last)).bind ?_
        rintro _ _ ⟨rfl, rfl⟩
        exact ends_pure ⟨rfl, rfl⟩

theorem takes_integerLiteral {cs : List Char} {n : Int64} (shape : IsInteger cs)
    (value : integerOfDigits (cs.filter (· != '_')) = .ok n) (last : Lacks goesOn rest) :
    integerLiteral.Takes (cs ++ rest) fun found left => found = n ∧ left = rest := by
  obtain ⟨c, ds, rfl, hc, hds⟩ := shape
  have all : ∀ a ∈ c :: ds, (a.isDigit || a == '_') = true :=
    List.forall_mem_cons.mpr ⟨by simp [hc], hds⟩
  have ended : Lacks (fun c => c.isDigit || c == '_') rest :=
    (lacks_isNameChar last).mono fun c hc => by
      obtain hc | hc := Bool.or_eq_true_iff.mp hc <;> simp [isNameChar, Char.isAlphanum, hc]
  refine (Ends.ahead ((takes_satisfying hc).weaken (fun _ _ _ => rfl) id id)).bind ?_
  rintro _ _ rfl
  refine Ends.required (Ends.expecting (Ends.converted ?_))
  refine (takes_run1 (List.cons_ne_nil _ _) all ended).weaken ?_ id id
  rintro _ _ ⟨rfl, rfl⟩
  simp [value]

/-- A float is not read where an integer stands. -/
theorem IsInteger.refuses_floatLiteral {cs : List Char} (h : IsInteger cs)
    (last : Lacks goesOn rest) : floatLiteral.Refuses (cs ++ rest) := by
  obtain ⟨c, ds, rfl, hc, hds⟩ := h
  have split : c :: ds ++ rest =
      (c :: ds.takeWhile Char.isDigit) ++ (ds.dropWhile Char.isDigit ++ rest) := by
    simp [← List.append_assoc, List.takeWhile_append_dropWhile]
  -- After the first digits comes an underscore, or the number ends.
  have tail : Lacks (fun a => goesOn a && a != '_') (ds.dropWhile Char.isDigit ++ rest) := by
    cases hd : ds.dropWhile Char.isDigit with
    | nil => exact last.mono fun a ha => (Bool.and_eq_true_iff.mp ha).1
    | cons b bs =>
        have noDigit := List.head?_dropWhile_not Char.isDigit ds
        have mem : b ∈ ds := by
          refine (List.dropWhile_sublist Char.isDigit).subset ?_
          rw [hd]
          exact .head _
        simp only [hd, List.head?_cons] at noDigit
        have hb : (b.isDigit || b == '_') = true := hds b mem
        rw [noDigit, Bool.false_or] at hb
        obtain rfl := eq_of_beq hb
        exact lacks_cons.mpr rfl
  have noDigit : Lacks Char.isDigit (ds.dropWhile Char.isDigit ++ rest) :=
    tail.mono fun a ha => Bool.and_eq_true_iff.mpr
      ⟨goesOn_of_isDigit ha, bne_iff_ne.mpr (by rintro rfl; cases ha)⟩
  have noPoint : Lacks (· == '.') (ds.dropWhile Char.isDigit ++ rest) :=
    tail.mono fun a ha => by obtain rfl := eq_of_beq ha; rfl
  have noExponent : Lacks opensExponent (ds.dropWhile Char.isDigit ++ rest) :=
    tail.mono fun a ha => by obtain rfl | rfl := opensExponent_iff.mp ha <;> rfl
  have whole : Digits (c :: ds.takeWhile Char.isDigit) :=
    ⟨List.cons_ne_nil _ _, List.forall_mem_cons.mpr ⟨hc, List.all_eq_true.mp List.all_takeWhile⟩⟩
  suffices h : Reader.Refuses (choice _) (c :: ds ++ rest) from Ends.converted (h.ends trivial)
  rw [split]
  refine Refuses.choice ?_ (Refuses.choice ?_ ?_)
  · refine (whole.append noDigit).bind ?_
    rintro _ _ ⟨rfl, rfl⟩
    exact (refuses_satisfying noPoint).bind _
  · rw [List.cons_append]
    exact (refuses_character (by rintro rfl; cases hc)).bind _
  · refine (whole.append noDigit).bind ?_
    rintro _ _ ⟨rfl, rfl⟩
    exact (refuses_exponent noExponent).bind _

/-- A number is not read where no digit stands, nor a point. -/
theorem refuses_floatLiteral (digit : Lacks Char.isDigit text) (point : Lacks (· == '.') text) :
    floatLiteral.Refuses text := by
  suffices h : Reader.Refuses (choice _) text from Ends.converted (h.ends trivial)
  refine Refuses.choice ((refuses_run1 digit).bind _) (Refuses.choice ?_ ?_)
  · exact (refuses_satisfying point).bind _
  · exact (refuses_run1 digit).bind _

theorem refuses_integerLiteral (digit : Lacks Char.isDigit text) :
    integerLiteral.Refuses text := by
  have h : (ahead (satisfying Char.isDigit)).Refuses text :=
    Ends.ahead (refuses_satisfying digit)
  exact h.bind _

/-! ## Strings -/

theorem takes_stringChars {quote : Char} {body s : List Char} (h : Quoted quote body s)
    (slash : quote ≠ '\\') : ∀ {fuel : Nat}, body.length ≤ fuel →
      (manyWithin (stringChar quote) fuel).Takes (body ++ quote :: rest)
        fun found left => found = s ∧ left = quote :: rest := by
  -- The induction is on the way in which the body quotes the characters.
  induction h with
  | nil =>
      intro fuel _
      have ends : (stringChar quote).Refuses (quote :: rest) := by
        refine Refuses.orElse (refuses_satisfying (lacks_cons.mpr (by simp))) ?_
        exact (refuses_character slash).bind _
      exact ends_manyWithin_nil ends ⟨rfl, rfl⟩
  | @plain c cs s noSlash other _ ih =>
      intro fuel enough
      obtain _ | fuel := fuel
      · cases enough
      have one : (stringChar quote).Takes (c :: (cs ++ quote :: rest))
          fun found left => found = c ∧ left = cs ++ quote :: rest :=
        (takes_satisfying (by simp [noSlash, other])).orElse
      refine Ends.manyWithin_succ (one.ends.weaken ?_ False.elim id)
      rintro _ _ ⟨rfl, rfl⟩
      refine (ih (Nat.le_of_succ_le_succ enough)).weaken ?_ id id
      rintro _ _ ⟨rfl, rfl⟩
      exact ⟨rfl, rfl⟩
  | @escaped c cs s _ ih =>
      intro fuel enough
      obtain _ | fuel := fuel
      · cases enough
      have one : (stringChar quote).Takes ('\\' :: c :: (cs ++ quote :: rest))
          fun found left => found = unescape c ∧ left = cs ++ quote :: rest := by
        refine Refuses.orElse (refuses_satisfying (lacks_cons.mpr (by simp))) ?_
        refine (takes_character _).bind ?_
        rintro _ _ ⟨_, rfl⟩
        refine (Ends.required (takes_satisfying rfl)).bind ?_
        rintro _ _ ⟨rfl, rfl⟩
        exact ends_pure ⟨rfl, rfl⟩
      have shorter : cs.length ≤ fuel := by
        simp only [List.length_cons] at enough
        omega
      refine Ends.manyWithin_succ (one.ends.weaken ?_ False.elim id)
      rintro _ _ ⟨rfl, rfl⟩
      refine (ih shorter).weaken ?_ id id
      rintro _ _ ⟨rfl, rfl⟩
      exact ⟨rfl, rfl⟩

theorem takes_quotedBy {quote : Char} {body : List Char} {s : String}
    (h : Quoted quote body s.toList) (slash : quote ≠ '\\') :
    (quotedBy quote).Takes (quote :: (body ++ [quote]) ++ rest)
      fun found left => found = s ∧ left = rest := by
  rw [List.cons_append, List.append_assoc]
  refine (takes_character _).bind ?_
  rintro _ _ ⟨_, rfl⟩
  have inside : (many (stringChar quote)).Takes (body ++ quote :: rest)
      fun found left => found = s.toList ∧ left = quote :: rest :=
    Ends.many (takes_stringChars h slash (by simp))
  refine inside.bind ?_
  rintro _ _ ⟨rfl, rfl⟩
  refine (Ends.expecting (Ends.required (takes_character _))).bind ?_
  rintro _ _ ⟨_, rfl⟩
  exact ends_pure ⟨String.ofList_toList, rfl⟩

/-- Whether a character is a quote. -/
def isQuote (c : Char) : Bool := c == '"' || c == '\''

theorem refuses_stringLiteral (h : Lacks isQuote text) : stringLiteral.Refuses text := by
  have double : Lacks (· == '"') text := h.mono fun c hc => by simp_all [isQuote]
  have single : Lacks (· == '\'') text := h.mono fun c hc => by simp_all [isQuote]
  exact Refuses.orElse ((refuses_satisfying double).bind _) ((refuses_satisfying single).bind _)

theorem Facing.takes_stringLiteral {s : String} (h : Facing (.text s :: us) text) :
    stringLiteral.Takes text fun found left => found = s ∧ Spelled us left := by
  cases h with
  | @cons _ _ _ rest writes _ h =>
      obtain ⟨quote, body, hquote, rfl, hbody⟩ := writes
      have slash : quote ≠ '\\' := by obtain rfl | rfl := hquote <;> decide
      have read : (quotedBy quote).Takes (quote :: (body ++ [quote]) ++ rest)
          fun found left => found = s ∧ Spelled us left := by
        refine (takes_quotedBy hbody slash).weaken ?_ id id
        rintro _ _ ⟨rfl, rfl⟩
        exact ⟨rfl, h⟩
      obtain rfl | rfl := hquote
      · exact read.orElse
      · exact Refuses.orElse ((Reader.refuses_character (by decide)).bind _) read

/-! ## Accesses -/

theorem Facing.takes_rowOffset {n : Int64} (h : Facing (.offset n :: us) text) :
    rowOffset.Takes text fun found left => found = n ∧ Spelled us left := by
  cases h with
  | @cons _ _ _ rest writes apart h =>
      obtain ⟨sign, digits, rfl, hsign, hdigits, value⟩ := writes
      rw [List.append_assoc]
      refine Ends.converted ((takes_sign hsign hdigits).bind ?_)
      rintro _ _ ⟨rfl, rfl⟩
      refine (hdigits.append (lacks_isDigit (apart trivial))).bind ?_
      rintro _ _ ⟨rfl, rfl⟩
      refine ends_pure ?_
      simp only [value]
      exact ⟨trivial, h⟩

/-- The tokens between the brackets of a column access. -/
inductive ColumnRef.Selects : ColumnRef → List Token → Prop where
  | name {n : String} : Selects (.named n 0) [.text n]
  | offset {n : String} {k : Int64} : Selects (.named n k) [.text n, .mark ",", .offset k]
  | rowId : Selects .rowId [.word "ROW_ID"]
  | rowIndex : Selects .rowIndex [.word "ROW_INDEX"]
  | rowNumber : Selects .rowNumber [.word "ROW_NUMBER"]

/-- The tokens of a column access. -/
inductive ColumnRef.Renders : ColumnRef → List Token → Prop where
  | plain {n : String} : Renders (.named n 0) [.column n]
  | bracketed {ref : ColumnRef} {ts : List Token} (h : ref.Selects ts) :
      Renders ref (.openColumn :: (ts ++ [.mark "]"]))

/-- The tokens of an access to a flow variable. -/
inductive FlowVariableRenders (n : String) : List Token → Prop where
  | plain : FlowVariableRenders n [.flowVariable n]
  | bracketed : FlowVariableRenders n [.openFlowVariable, .text n, .mark "]"]

theorem takes_bracketed {α : Type} {r : Reader α} {P : α → Prop}
    (h : ∀ left, Facing (ts ++ .mark "]" :: us) left →
      r.Takes left fun a rest => P a ∧ Spelled (.mark "]" :: us) rest)
    (spelled : Spelled (ts ++ .mark "]" :: us) text) :
    (bracketed r).Takes ('[' :: text) fun a rest => P a ∧ Spelled us rest := by
  refine (takes_character _).bind ?_
  rintro _ _ ⟨_, rfl⟩
  refine spelled.takes_blanks.bind fun _ left hleft => ?_
  refine (h left hleft).bind ?_
  rintro a rest ⟨ha, hrest⟩
  exact hrest.takes_mark rfl fun rest hrest => ends_pure ⟨ha, hrest⟩

theorem takes_columnSelector {ref : ColumnRef} (h : ref.Selects ts)
    (facing : Facing (ts ++ .mark "]" :: us) text) :
    columnSelector.Takes text fun found left => found = ref ∧ Spelled (.mark "]" :: us) left := by
  have noWord {k n : String} {ts : List Token} (first : k.toList.head? = some 'R')
      (facing : Facing (.text n :: ts) text) : (keyword k).Refuses text :=
    facing.refuses_keyword_elsewhere first (by simp [Token.starts])
  cases h with
  | rowId => exact Takes.choice (facing.takes_keyword.bind fun _ _ h => ends_pure ⟨rfl, h⟩)
  | rowIndex =>
      refine Refuses.choice ((facing.refuses_keyword rfl (by decide)).bind _) (Takes.choice ?_)
      exact facing.takes_keyword.bind fun _ _ h => ends_pure ⟨rfl, h⟩
  | rowNumber =>
      refine Refuses.choice ((facing.refuses_keyword rfl (by decide)).bind _) ?_
      refine Refuses.choice ((facing.refuses_keyword rfl (by decide)).bind _) (Takes.choice ?_)
      exact facing.takes_keyword.bind fun _ _ h => ends_pure ⟨rfl, h⟩
  | name =>
      refine Refuses.choice ((noWord rfl facing).bind _) ?_
      refine Refuses.choice ((noWord rfl facing).bind _) ?_
      refine Refuses.choice ((noWord rfl facing).bind _) (Takes.choice ?_)
      refine facing.takes_stringLiteral.bind ?_
      rintro _ rest ⟨rfl, hrest⟩
      have noOffset : Reader.Refuses (do
          blanks
          let _ ← character ','
          blanks
          required rowOffset) rest :=
        hrest.takes_blanks.bind fun _ _ h => (h.refuses_character (by simp [Token.starts])).bind _
      refine noOffset.optional.bind ?_
      rintro _ _ ⟨rfl, rfl⟩
      exact ends_pure ⟨rfl, hrest⟩
  | @offset n k =>
      refine Refuses.choice ((noWord rfl facing).bind _) ?_
      refine Refuses.choice ((noWord rfl facing).bind _) ?_
      refine Refuses.choice ((noWord rfl facing).bind _) (Takes.choice ?_)
      refine facing.takes_stringLiteral.bind ?_
      rintro _ rest ⟨rfl, hrest⟩
      have offset : Reader.Takes (do
          blanks
          let _ ← character ','
          blanks
          required rowOffset) rest
          fun found left => found = k ∧ Spelled (.mark "]" :: us) left := by
        refine hrest.takes_mark rfl fun _ h => ?_
        refine h.takes_blanks.bind fun _ _ h => ?_
        exact Ends.required h.takes_rowOffset
      refine offset.optional.bind ?_
      rintro _ _ ⟨_, rfl, rfl, h⟩
      exact ends_pure ⟨rfl, h⟩

theorem FlowVariableRenders.takes {n : String} (h : FlowVariableRenders n ts)
    (facing : Facing (ts ++ us) text) :
    flowVariableAccess.Takes text fun found left =>
      found = .flowVariable {} n ∧ Spelled us left := by
  have dollars {rest : List Char}
      (read : (orElse name (Grammar.bracketed stringLiteral)).Takes rest
        fun found left => found = n ∧ Spelled us left) :
      flowVariableAccess.Takes ('$' :: '$' :: rest) fun found left =>
        found = .flowVariable {} n ∧ Spelled us left := by
    refine (takes_literal "$$").bind ?_
    rintro _ _ rfl
    refine (Ends.required read).bind ?_
    rintro _ _ ⟨rfl, spelled⟩
    exact ends_pure ⟨rfl, spelled⟩
  cases h with
  | plain =>
      cases facing with
      | cons writes apart h =>
          obtain ⟨hn, rfl⟩ := writes
          have word : Facing (.word n :: us) (n.toList ++ _) := .cons ⟨hn, rfl⟩ apart h
          exact dollars word.takes_name.orElse
  | bracketed =>
      cases facing with
      | cons writes apart h =>
          obtain rfl := writes
          have inside : Spelled ([.text n] ++ .mark "]" :: us) _ := h
          refine dollars (Refuses.orElse ((refuses_satisfying (lacks_cons.mpr rfl)).bind _) ?_)
          exact takes_bracketed (fun _ h => h.takes_stringLiteral) inside

/-- Two dollar signs begin the access to a flow variable, one dollar sign that to a column. -/
theorem ColumnRef.Renders.refuses_flowVariableAccess {ref : ColumnRef} (h : ref.Renders ts)
    (facing : Facing (ts ++ us) text) : flowVariableAccess.Refuses text := by
  have oneDollar {c : Char} {rest : List Char} (ne : c ≠ '$') :
      flowVariableAccess.Refuses ('$' :: c :: rest) := by
    refine (refuses_literal ?_).bind _
    simp [List.isPrefixOf, Ne.symm ne]
  cases h with
  | plain =>
      cases facing with
      | cons writes apart h =>
          obtain ⟨hn, rfl⟩ := writes
          obtain ⟨c, cs, hcs, hc, _⟩ := isPlainName_cons hn
          rw [hcs]
          exact oneDollar (by rintro rfl; cases hc)
  | bracketed h =>
      cases facing with
      | cons writes apart h =>
          obtain rfl := writes
          exact oneDollar (by decide)

theorem ColumnRef.Renders.takes {ref : ColumnRef} (h : ref.Renders ts)
    (facing : Facing (ts ++ us) text) :
    columnAccess.Takes text fun found left => found = .column {} ref ∧ Spelled us left := by
  have dollar {rest : List Char}
      (read : Reader.Takes (orElse (do pure (.named (← name) 0)) (Grammar.bracketed columnSelector))
        rest fun found left => found = ref ∧ Spelled us left) :
      columnAccess.Takes ('$' :: rest) fun found left =>
        found = .column {} ref ∧ Spelled us left := by
    refine (takes_character '$').bind ?_
    rintro _ _ ⟨_, rfl⟩
    refine (Ends.required read).bind ?_
    rintro _ _ ⟨rfl, spelled⟩
    exact ends_pure ⟨rfl, spelled⟩
  cases h with
  | @plain n =>
      cases facing with
      | cons writes apart h =>
          obtain ⟨hn, rfl⟩ := writes
          have word : Facing (.word n :: us) (n.toList ++ _) := .cons ⟨hn, rfl⟩ apart h
          refine dollar (Takes.orElse (word.takes_name.bind ?_))
          rintro _ _ ⟨rfl, h⟩
          exact ends_pure ⟨rfl, h⟩
  | @bracketed ref ss selects =>
      cases facing with
      | @cons _ _ _ rest writes apart h =>
          obtain rfl := writes
          have inside : Spelled (ss ++ .mark "]" :: us) rest := by simpa using h
          have noName : Reader.Refuses (do pure (ColumnRef.named (← name) 0)) ('[' :: rest) :=
            ((refuses_satisfying (lacks_cons.mpr rfl)).bind _).bind _
          refine dollar (noName.orElse ?_)
          exact takes_bracketed (fun _ h => takes_columnSelector selects h) inside

end Rowwise
