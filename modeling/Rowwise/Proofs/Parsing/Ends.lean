import Rowwise.Expr.Reader

/-!
# How readers end on a text

`r.Ends text Q F S` says what is left when the reader `r` has run on a text: it has found something
and left a rest that `Q` holds of, or it has failed and another reader may be tried, which takes
`F`, or it has failed for good, which takes `S`.  With `F` and `S` false the reader finds what `Q`
says; with all but `F` false it fails.  How many bytes stand before the text never matters.

There is one lemma for each way to put readers together.
-/

namespace Rowwise

namespace Reader

variable {α β : Type} {text rest : List Char} {Q : α → List Char → Prop} {F S : Prop}

/-- What holds after the reader has run on the text, by the way in which it has ended. -/
def Ends (r : Reader α) (text : List Char) (Q : α → List Char → Prop) (F S : Prop) : Prop :=
  ∀ n, match r ⟨n, text⟩ with
    | .ok a after => Q a after.rest
    | .retry _ _ => F
    | .stop _ _ => S

/-- The reader finds something that `Q` holds of. -/
abbrev Takes (r : Reader α) (text : List Char) (Q : α → List Char → Prop) : Prop :=
  r.Ends text Q False False

/-- The reader fails, and another one may be tried. -/
abbrev Refuses (r : Reader α) (text : List Char) : Prop :=
  r.Ends text (fun _ _ => False) True False

theorem Ends.weaken {r : Reader α} {Q' : α → List Char → Prop} {F' S' : Prop}
    (h : r.Ends text Q F S) (found : ∀ a rest, Q a rest → Q' a rest) (failed : F → F')
    (stopped : S → S') : r.Ends text Q' F' S' := by
  intro n
  have h := h n
  cases hr : r ⟨n, text⟩ <;> rw [hr] at h
  · exact found _ _ h
  · exact failed h
  · exact stopped h

/-- A reader that refuses a text ends there in whatever way refusing allows. -/
theorem Refuses.ends {r : Reader α} (h : r.Refuses text) (failed : F) : r.Ends text Q F S :=
  h.weaken (fun _ _ h => h.elim) (fun _ => failed) False.elim

theorem Takes.ends {r : Reader α} (h : r.Takes text Q) : r.Ends text Q F S :=
  h.weaken (fun _ _ h => h) False.elim False.elim

/-! ## Putting readers together -/

theorem ends_pure {a : α} (h : Q a text) : (pure a : Reader α).Ends text Q F S := fun _ => h

theorem Ends.bind {r : Reader α} {f : α → Reader β} {Q : β → List Char → Prop}
    {Q' : α → List Char → Prop} (h : r.Ends text Q' F S)
    (next : ∀ a rest, Q' a rest → (f a).Ends rest Q F S) : (r >>= f).Ends text Q F S := by
  intro n
  have h := h n
  change match (match r ⟨n, text⟩ with
      | .ok a c => f a c
      | .retry issue place => .retry issue place
      | .stop issue place => .stop issue place) with
    | .ok a after => Q a after.rest
    | .retry _ _ => F
    | .stop _ _ => S
  cases hr : r ⟨n, text⟩ <;> rw [hr] at h
  · exact next _ _ h _
  · exact h
  · exact h

theorem Takes.bind {r : Reader α} {f : α → Reader β} {Q : β → List Char → Prop}
    {Q' : α → List Char → Prop} (h : r.Takes text Q')
    (next : ∀ a rest, Q' a rest → (f a).Ends rest Q F S) : (r >>= f).Ends text Q F S :=
  Ends.bind h.ends next

/-- A reader that refuses the text makes every sequence that begins with it refuse. -/
theorem Refuses.bind {r : Reader α} (h : r.Refuses text) (f : α → Reader β) :
    (r >>= f).Refuses text := Ends.bind h fun _ _ h => h.elim

/-- What refuses together with a last step that cannot fail refuses by itself. -/
theorem Refuses.of_bind_pure {r : Reader α} {b : β}
    (h : Reader.Refuses (do let _ ← r; pure b) text) : r.Refuses text := by
  intro n
  have h := h n
  change match (match r ⟨n, text⟩ with
      | .ok _ c => ReadResult.ok b c
      | .retry issue place => .retry issue place
      | .stop issue place => .stop issue place) with
    | .ok _ _ => False
    | .retry _ _ => True
    | .stop _ _ => False at h
  cases hr : r ⟨n, text⟩ <;> rw [hr] at h <;> exact h

theorem Ends.required {r : Reader α} (h : r.Ends text Q S S) : (required r).Ends text Q F S := by
  intro n
  have h := h n
  unfold Reader.required
  cases hr : r ⟨n, text⟩ <;> rw [hr] at h <;> exact h

theorem Ends.expecting {r : Reader α} {e : Expectation} (h : r.Ends text Q F S) :
    (expecting e r).Ends text Q F S := by
  intro n
  have h := h n
  unfold Reader.expecting
  cases hr : r ⟨n, text⟩ <;> rw [hr] at h <;> exact h

theorem Ends.orElse {r s : Reader α} {F' : Prop} (hr : r.Ends text Q F' S)
    (hs : F' → s.Ends text Q F S) : (orElse r s).Ends text Q F S := by
  intro n
  have h := hr n
  unfold Reader.orElse
  cases hr : r ⟨n, text⟩ <;> rw [hr] at h
  · exact h
  · exact hs h n
  · exact h

theorem Refuses.orElse {r s : Reader α} (hr : r.Refuses text) (hs : s.Ends text Q F S) :
    (Reader.orElse r s).Ends text Q F S := by
  have h : r.Ends text Q True S := hr.ends trivial
  exact Ends.orElse h fun _ => hs

theorem Takes.orElse {r s : Reader α} (hr : r.Takes text Q) : (Reader.orElse r s).Takes text Q :=
  Ends.orElse hr False.elim

/-- The first alternative that does not refuse the text decides. -/
theorem Refuses.choice {r s : Reader α} {rs : List (Reader α)} (hr : r.Refuses text)
    (hs : (Reader.choice (s :: rs)).Ends text Q F S) :
    (Reader.choice (r :: s :: rs)).Ends text Q F S := hr.orElse hs

theorem Takes.choice {r : Reader α} {rs : List (Reader α)} (hr : r.Takes text Q) :
    (Reader.choice (r :: rs)).Takes text Q := by
  cases rs with
  | nil => exact hr
  | cons s rs => exact hr.orElse

/-- Alternatives that all refuse the text do so together. -/
theorem refuses_choice : ∀ {rs : List (Reader α)}, (∀ r ∈ rs, r.Refuses text) →
    (choice rs).Refuses text
  | [], _ => fun _ => trivial
  | [_], h => h _ (.head _)
  | _ :: _ :: _, h =>
      (h _ (.head _)).orElse (refuses_choice fun r hr => h r (.tail _ hr))

theorem Ends.optional {r : Reader α} {Q : Option α → List Char → Prop}
    (h : r.Ends text (fun a rest => Q (some a) rest) (Q none text) S) :
    (optional r).Ends text Q F S := by
  intro n
  have h := h n
  unfold Reader.optional
  cases hr : r ⟨n, text⟩ <;> rw [hr] at h <;> exact h

theorem Refuses.optional {r : Reader α} (h : r.Refuses text) :
    (Reader.optional r).Takes text fun found left => found = none ∧ left = text :=
  Ends.optional (h.ends ⟨rfl, rfl⟩)

theorem Takes.optional {r : Reader α} (h : r.Takes text Q) :
    (Reader.optional r).Takes text fun found left => ∃ a, found = some a ∧ Q a left :=
  Ends.optional (h.ends.weaken (fun a _ h => ⟨a, rfl, h⟩) False.elim id)

/-- A sequence that begins with a find that may be missing, and is there. -/
theorem Takes.bind_optional {r : Reader α} {f : Option α → Reader β} {Q : β → List Char → Prop}
    {Q' : α → List Char → Prop} (h : r.Takes text Q')
    (next : ∀ a rest, Q' a rest → (f (some a)).Ends rest Q F S) :
    (Reader.optional r >>= f).Ends text Q F S := by
  refine h.optional.bind ?_
  rintro _ rest ⟨a, rfl, ha⟩
  exact next a rest ha

theorem Refuses.bind_optional {r : Reader α} {f : Option α → Reader β}
    {Q : β → List Char → Prop} (h : r.Refuses text) (next : (f none).Ends text Q F S) :
    (Reader.optional r >>= f).Ends text Q F S := by
  refine h.optional.bind ?_
  rintro _ _ ⟨rfl, rfl⟩
  exact next

theorem Ends.notAhead {r : Reader α} {Q : Unit → List Char → Prop}
    (h : r.Ends text (fun _ _ => F) (Q () text) S) : (notAhead r).Ends text Q F S := by
  intro n
  have h := h n
  unfold Reader.notAhead
  cases hr : r ⟨n, text⟩ <;> rw [hr] at h <;> exact h

theorem Refuses.notAhead {r : Reader α} (h : r.Refuses text) :
    (Reader.notAhead r).Takes text fun _ left => left = text := Ends.notAhead (h.ends rfl)

theorem Ends.ahead {r : Reader α} (h : r.Ends text (fun a _ => Q a text) F S) :
    (ahead r).Ends text Q F S := by
  intro n
  have h := h n
  unfold Reader.ahead
  cases hr : r ⟨n, text⟩ <;> rw [hr] at h <;> exact h

theorem Ends.converted {f : α → Except String β} {r : Reader α} {Q : β → List Char → Prop}
    (h : r.Ends text (fun a rest => match f a with
      | .ok b => Q b rest
      | .error _ => F) F S) : (converted f r).Ends text Q F S := by
  intro n
  have h := h n
  unfold Reader.converted
  cases hr : r ⟨n, text⟩ with
  | ok a after =>
      rw [hr] at h
      dsimp only at h ⊢
      cases hf : f a <;> rw [hf] at h <;> exact h
  | retry issue place => rw [hr] at h; exact h
  | stop issue place => rw [hr] at h; exact h

/-! ## Repetition -/

/-- A repetition that has no find left, or is not tried again. -/
theorem ends_manyWithin_nil {r : Reader α} {Q : List α → List Char → Prop} {fuel : Nat}
    (h : r.Refuses text) (found : Q [] text) : (manyWithin r fuel).Ends text Q F S := by
  cases fuel with
  | zero => exact ends_pure found
  | succ fuel =>
      intro n
      have h := h n
      unfold manyWithin
      cases hr : r ⟨n, text⟩ <;> rw [hr] at h
      · exact h.elim
      · exact found
      · exact h.elim

/-- One more find of a repetition. -/
theorem Ends.manyWithin_succ {r : Reader α} {Q : List α → List Char → Prop} {fuel : Nat}
    (h : r.Ends text (fun a rest =>
      (manyWithin r fuel).Ends rest (fun as rest => Q (a :: as) rest) F S) (Q [] text) S) :
    (manyWithin r (fuel + 1)).Ends text Q F S := by
  intro n
  have h := h n
  unfold manyWithin
  cases hr : r ⟨n, text⟩ with
  | ok a after =>
      rw [hr] at h
      have h := h after.offset
      dsimp only at h ⊢
      cases hrest : manyWithin r fuel after <;> rw [hrest] at h <;> exact h
  | retry issue place => rw [hr] at h; exact h
  | stop issue place => rw [hr] at h; exact h

theorem Ends.many {r : Reader α} {Q : List α → List Char → Prop}
    (h : (manyWithin r text.length).Ends text Q F S) : (many r).Ends text Q F S := h

/-- Things with separators: the first one, and what is found after separators. -/
theorem Ends.separatedBy {r : Reader α} {separator : Reader β} {Q : List α → List Char → Prop}
    (h : r.Ends text (fun a rest =>
      (Reader.many do let _ ← separator; r).Ends rest (fun as rest => Q (a :: as) rest) F S)
      (Q [] text) S) : (separatedBy separator r).Ends text Q F S := by
  intro n
  have h := h n
  unfold Reader.separatedBy
  cases hr : r ⟨n, text⟩ with
  | ok a after =>
      rw [hr] at h
      have h := h after.offset
      dsimp only at h ⊢
      generalize Reader.many (separator >>= fun _ => r) after = found at h ⊢
      cases found <;> exact h
  | retry issue place => rw [hr] at h; exact h
  | stop issue place => rw [hr] at h; exact h

/-! ## Characters -/

theorem takes_offset : offset.Takes text fun _ left => left = text := fun _ => rfl

theorem takes_satisfying {p : Char → Bool} {c : Char} (h : p c = true) :
    (satisfying p).Takes (c :: rest) fun a left => a = c ∧ left = rest := by
  intro n
  simp only [satisfying, Cursor.next, h, if_true, and_self]

/-- A text does not begin with a character of some sort. -/
def Lacks (p : Char → Bool) (text : List Char) : Prop := ∀ c, text.head? = some c → p c = false

theorem Lacks.mono {p q : Char → Bool} (h : Lacks p text) (le : ∀ c, q c = true → p c = true) :
    Lacks q text := fun c hc => Bool.eq_false_iff.mpr fun hq =>
  Bool.eq_false_iff.mp (h c hc) (le c hq)

theorem lacks_nil {p : Char → Bool} : Lacks p [] := fun _ h => nomatch h

@[simp] theorem lacks_cons {p : Char → Bool} {c : Char} : Lacks p (c :: rest) ↔ p c = false := by
  simp [Lacks]

theorem refuses_satisfying {p : Char → Bool} (h : Lacks p text) : (satisfying p).Refuses text := by
  intro n
  cases text with
  | nil => trivial
  | cons c rest =>
      have hc := h c rfl
      simp only [satisfying, Cursor.next, hc, Bool.false_eq_true, if_false]

theorem takes_character (c : Char) :
    (character c).Takes (c :: rest) fun a left => a = c ∧ left = rest :=
  takes_satisfying (beq_self_eq_true c)

theorem refuses_character {a c : Char} (h : c ≠ a) : (character a).Refuses (c :: rest) :=
  refuses_satisfying (lacks_cons.mpr (beq_eq_false_iff_ne.mpr h))

theorem advance_rest (k n : Nat) (text : List Char) :
    (Cursor.advance k ⟨n, text⟩).rest = text.drop k := by
  induction k generalizing n text with
  | zero => rfl
  | succ k ih =>
      cases text with
      | nil => rfl
      | cons c text => exact ih _ text

theorem takes_literal (word : String) :
    (literal word).Takes (word.toList ++ rest) fun _ left => left = rest := by
  intro n
  have here : word.toList.isPrefixOf (word.toList ++ rest) = true := by
    rw [List.isPrefixOf_iff_prefix]
    exact List.prefix_append ..
  unfold literal
  rw [if_pos here]
  change (Cursor.advance word.length ⟨n, word.toList ++ rest⟩).rest = rest
  rw [advance_rest, ← String.length_toList, List.drop_left]

theorem refuses_literal {word : String} (h : word.toList.isPrefixOf text = false) :
    (literal word).Refuses text := by
  intro n
  unfold literal
  rw [h]
  trivial

/-- A text that does not begin with the first character of a literal. -/
theorem refuses_literal_of_lacks {word : String} {a : Char} (first : word.toList.head? = some a)
    (h : Lacks (· == a) text) : (literal word).Refuses text := by
  refine refuses_literal ?_
  cases hw : word.toList with
  | nil => simp [hw] at first
  | cons b cs =>
      simp only [hw, List.head?_cons, Option.some.injEq] at first
      subst first
      cases text with
      | nil => rfl
      | cons c rest =>
          have ne : c ≠ b := beq_eq_false_iff_ne.mp (h c rfl)
          simp [List.isPrefixOf, Ne.symm ne]

/-- The longest run of characters of some sort. -/
theorem takes_run {p : Char → Bool} {cs : List Char} (all : ∀ c ∈ cs, p c = true)
    (last : Lacks p rest) : (run p).Takes (cs ++ rest) fun found left => found = cs ∧ left = rest := by
  have found : (cs ++ rest).takeWhile p = cs := by
    rw [List.takeWhile_append_of_pos all]
    cases rest with
    | nil => simp
    | cons c rest => simp [last c rfl]
  intro n
  change (cs ++ rest).takeWhile p = cs ∧
    (Cursor.advance ((cs ++ rest).takeWhile p).length ⟨n, cs ++ rest⟩).rest = rest
  rw [advance_rest, found, List.drop_left]
  exact ⟨rfl, rfl⟩

theorem takes_run1 {p : Char → Bool} {cs : List Char} (nonempty : cs ≠ [])
    (all : ∀ c ∈ cs, p c = true) (last : Lacks p rest) :
    (run1 p).Takes (cs ++ rest) fun found left => found = cs ∧ left = rest := by
  intro n
  have h := takes_run all last n
  change (cs ++ rest).takeWhile p = cs ∧
    (Cursor.advance ((cs ++ rest).takeWhile p).length ⟨n, cs ++ rest⟩).rest = rest at h
  unfold run1
  have some : ((cs ++ rest).takeWhile p).isEmpty = false := by
    rw [h.1]
    simpa using nonempty
  simp only [some, Bool.false_eq_true, if_false]
  exact h

theorem refuses_run1 {p : Char → Bool} (h : Lacks p text) : (run1 p).Refuses text := by
  intro n
  have none : text.takeWhile p = [] := by
    cases text with
    | nil => rfl
    | cons c text => simp [h c rfl]
  unfold run1
  simp [none]

theorem takes_atEnd : atEnd.Takes [] fun _ left => left = [] := fun _ => rfl

end Reader

end Rowwise
