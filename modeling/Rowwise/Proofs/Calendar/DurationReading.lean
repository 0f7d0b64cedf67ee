import Rowwise.Proofs.Calendar.Designators

/-!
# What is read as a duration

The reader of durations takes a text apart at its letters and reads the amounts between them one by
one.  Days, hours and minutes are read as integers, which have at most one sign in front and
otherwise digits.  Seconds are not: a minus sign is taken off first, and what is left on either side
of the point is read as an integer, which may have a sign again.

`Duration.Spells` is the format of durations with their exact value, for any way to write seconds.
Every text that is read is of that format, with the seconds as they are read (`Duration.spells_read`).
These are well formed (`Amount.IsSeconds`) if signs stand at the beginning of amounts only, neither
behind another sign nor behind a point (`Amount.SignsLead`), and not otherwise.
-/

namespace Rowwise

open Decimal

/-! ## Amounts -/

namespace Amount

/-- At most one sign, and its factor. -/
inductive IsSign : List Char → Int → Prop where
  | none : IsSign [] 1
  | plus : IsSign ['+'] 1
  | minus : IsSign ['-'] (-1)

/-- Digits, and at least one. -/
def IsDigits (ds : List Char) : Prop := ds ≠ [] ∧ ∀ c ∈ ds, c.isDigit = true

/-- A text of at most one sign and digits, and its number. -/
def IsInteger (text : List Char) (n : Int) : Prop :=
  ∃ sign factor ds, IsSign sign factor ∧ IsDigits ds ∧ text = sign ++ ds ∧ n = factor * value ds

/-- Nothing, or a point, and what stands behind it. -/
inductive IsFraction : List Char → List Char → Prop where
  | none : IsFraction [] []
  | point (fraction : List Char) : IsFraction ('.' :: fraction) fraction

/-- A text of at most one sign, digits, and optionally a point and up to nine digits, and its number
of nanoseconds. -/
def IsSeconds (text : List Char) (nanos : Int) : Prop :=
  ∃ sign factor ds tail fraction, IsSign sign factor ∧ IsDigits ds ∧ IsFraction tail fraction ∧
    (∀ c ∈ fraction, c.isDigit = true) ∧ fraction.length ≤ 9 ∧ text = sign ++ ds ++ tail ∧
    nanos = factor * (value ds * 10 ^ 9 + value fraction * 10 ^ (9 - fraction.length))

def isSign (c : Char) : Bool := c == '-' || c == '+'

/-- No sign stands directly behind another sign or behind a point. -/
def SignsLead (text : List Char) : Prop :=
  text.IsChain fun c s => isSign s = true → isSign c = false ∧ c ≠ '.'

instance (text : List Char) : Decidable (SignsLead text) := inferInstanceAs (Decidable (List.IsChain _ _))

theorem SignsLead.left {a b : List Char} (h : SignsLead (a ++ b)) : SignsLead a :=
  List.IsChain.left_of_append h

theorem SignsLead.right {a b : List Char} (h : SignsLead (a ++ b)) : SignsLead b :=
  List.IsChain.right_of_append h

theorem isDigits_of_readNat? {text : List Char} {n : Nat} (h : readNat? text = some n) :
    IsDigits text ∧ n = value text := by
  unfold readNat? at h
  split at h
  · cases h
  · next good =>
    rw [Bool.or_eq_true, not_or, List.isEmpty_iff, List.any_eq_true] at good
    refine ⟨⟨good.1, fun c hc => ?_⟩, (Option.some.inj h).symm⟩
    by_contra other
    exact good.2 ⟨c, hc, by simpa using other⟩

theorem isInteger_of_readInt? {text : List Char} {n : Int} (h : readInt? text = some n) :
    IsInteger text n := by
  unfold readInt? at h
  split at h
  · obtain ⟨k, read, rfl⟩ := Option.map_eq_some_iff.mp h
    obtain ⟨digits, rfl⟩ := isDigits_of_readNat? read
    exact ⟨_, _, _, .plus, digits, rfl, (Int.one_mul _).symm⟩
  · obtain ⟨z, cast, rfl⟩ := Option.map_eq_some_iff.mp h
    obtain ⟨k, read, ⟨⟩⟩ := Option.bind_eq_some_iff.mp cast
    obtain ⟨digits, rfl⟩ := isDigits_of_readNat? read
    exact ⟨_, _, _, .minus, digits, rfl, (Int.neg_one_mul _).symm⟩
  · obtain ⟨k, read, rfl⟩ := Option.map_eq_some_iff.mp h
    obtain ⟨digits, rfl⟩ := isDigits_of_readNat? read
    exact ⟨_, _, _, .none, digits, rfl, (Int.one_mul _).symm⟩

theorem isInteger_of_read? {text : List Char} {n : Int64} (h : Integer.read? text = some n) :
    IsInteger text n.toInt := by
  obtain ⟨z, read, fits⟩ := Option.bind_eq_some_iff.mp h
  rw [Integer.ofInt?_eq_some.mp fits]
  exact isInteger_of_readInt? read

/-- An integer begins with a sign or is digits. -/
theorem IsInteger.cases {text : List Char} {n : Int} (h : IsInteger text n) :
    (∃ c rest, text = c :: rest ∧ isSign c = true) ∨ IsDigits text ∧ n = value text := by
  obtain ⟨sign, factor, ds, lead, digits, rfl, rfl⟩ := h
  cases lead with
  | none => exact .inr ⟨digits, Int.one_mul _⟩
  | plus => exact .inl ⟨_, _, rfl, rfl⟩
  | minus => exact .inl ⟨_, _, rfl, rfl⟩

end Amount

namespace Text

/-- A text that is split at a character is put together from the parts. -/
theorem eq_of_splitOnce {c : Char} {text before after : List Char}
    (h : splitOnce c text = some (before, after)) : text = before ++ c :: after := by
  unfold splitOnce at h
  split at h
  · cases h
  · next d rest found =>
    cases h
    have there : text.dropWhile (· != c) ≠ [] := by simp [found]
    have stop : d = c := by
      have first := List.head_dropWhile_not (· != c) there
      simpa [found] using first
    rw [← stop, ← found, stop, List.takeWhile_append_dropWhile]

end Text

/-! ## Seconds -/

namespace Duration

open Amount

/-- Seconds whose minus sign has been taken off. -/
def unsignedSeconds? (negative : Bool) (digits : List Char) : Option Duration := do
  let (whole, fraction) := (Text.splitOnce '.' digits).getD (digits, [])
  if fraction.length > 9 then none
  else
    let seconds ← Integer.read? whole
    let nanos ←
      if fraction.isEmpty then some 0
      else Integer.read? (fraction ++ List.replicate (9 - fraction.length) '0')
    let d ← (← ofSeconds? seconds.toInt).add? (← ofNanos? nanos.toInt)
    pure (if negative then d.neg else d)

theorem readSeconds?_minus (digits : List Char) :
    readSeconds? ('-' :: digits) = unsignedSeconds? true digits := rfl

theorem readSeconds?_other {amount : List Char} (h : ∀ digits, amount ≠ '-' :: digits) :
    readSeconds? amount = unsignedSeconds? false amount := by
  unfold readSeconds?
  split
  next negative digits taken =>
  split at taken
  · exact absurd rfl (h _)
  · cases taken
    rfl

theorem nanos_of_ofNanos? {n : Int} {d : Duration} (h : ofNanos? n = some d) : d.nanos = n := by
  unfold ofNanos? at h
  split at h <;> cases h
  rfl

/-- Seconds and nanoseconds are added, and the sign is applied to the sum. -/
theorem nanos_of_sum {negative : Bool} {seconds nanos : Int} {d : Duration}
    (h : (do
      let d ← (← ofSeconds? seconds).add? (← ofNanos? nanos)
      pure (if negative then d.neg else d)) = some d) :
    d.nanos = (if negative then -1 else 1) * (seconds * 10 ^ 9 + nanos) := by
  obtain ⟨a, ha, h⟩ := Option.bind_eq_some_iff.mp h
  obtain ⟨b, hb, h⟩ := Option.bind_eq_some_iff.mp h
  obtain ⟨sum, hsum, ⟨⟩⟩ := Option.bind_eq_some_iff.mp h
  have total : sum.nanos = seconds * 10 ^ 9 + nanos := by
    rw [nanos_of_ofNanos? hsum, nanos_of_ofNanos? ha, nanos_of_ofNanos? hb]
    rfl
  rw [← total]
  cases negative
  · exact (Int.one_mul _).symm
  · exact (Int.neg_one_mul _).symm

/-- What is read in front of the point and behind it, if there is one. -/
theorem of_unsignedSeconds? {negative : Bool} {digits : List Char} {d : Duration}
    (h : unsignedSeconds? negative digits = some d) :
    ∃ whole tail fraction n k, digits = whole ++ tail ∧ IsFraction tail fraction ∧
      fraction.length ≤ 9 ∧ IsInteger whole n ∧
      (fraction = [] ∧ k = 0 ∨
        IsInteger (fraction ++ List.replicate (9 - fraction.length) '0') k) ∧
      d.nanos = (if negative then -1 else 1) * (n * 10 ^ 9 + k) := by
  obtain ⟨tail, parts, behind⟩ : ∃ tail,
      digits = ((Text.splitOnce '.' digits).getD (digits, [])).1 ++ tail ∧
        IsFraction tail ((Text.splitOnce '.' digits).getD (digits, [])).2 := by
    cases split : Text.splitOnce '.' digits with
    | none => exact ⟨[], (List.append_nil _).symm, .none⟩
    | some p => exact ⟨_, Text.eq_of_splitOnce split, .point _⟩
  unfold unsignedSeconds? at h
  -- Only what the two parts are matters from here on, and not how they were split.
  generalize (Text.splitOnce '.' digits).getD (digits, []) = p at h parts behind
  obtain ⟨whole, fraction⟩ := p
  dsimp only at h parts behind
  split at h
  · cases h
  · next short =>
    obtain ⟨seconds, readWhole, h⟩ := Option.bind_eq_some_iff.mp h
    split at h
    · next empty =>
      exact ⟨whole, tail, fraction, seconds.toInt, 0, parts, behind, by omega,
        isInteger_of_read? readWhole, .inl ⟨List.isEmpty_iff.mp empty, rfl⟩, nanos_of_sum h⟩
    · obtain ⟨nanos, readFraction, h⟩ := Option.bind_eq_some_iff.mp h
      exact ⟨whole, tail, fraction, seconds.toInt, nanos.toInt, parts, behind, by omega,
        isInteger_of_read? readWhole, .inr (isInteger_of_read? readFraction), nanos_of_sum h⟩

/-- A fraction that does not begin with a sign is read as its digits. -/
theorem digits_of_fraction {tail fraction : List Char} {k : Int}
    (read : fraction = [] ∧ k = 0 ∨
      IsInteger (fraction ++ List.replicate (9 - fraction.length) '0') k)
    (behind : IsFraction tail fraction) (lead : SignsLead tail) :
    (∀ c ∈ fraction, c.isDigit = true) ∧
      k = value fraction * 10 ^ (9 - fraction.length) := by
  rcases read with ⟨rfl, rfl⟩ | read
  · exact ⟨fun _ h => absurd h List.not_mem_nil, rfl⟩
  · rcases read.cases with ⟨c, rest, begins, sign⟩ | ⟨⟨_, all⟩, rfl⟩
    · -- It would be the zeros that begin with a sign, or else the fraction.
      cases fraction with
      | nil =>
          cases begins
          cases sign
      | cons d fraction =>
          cases begins
          cases behind
          exact absurd rfl ((List.isChain_cons_cons.mp lead).1 sign).2
    · refine ⟨fun c hc => all c (List.mem_append_left _ hc), ?_⟩
      rw [value_append_zeros]
      push_cast
      rfl

/-- Seconds are well formed if their signs stand in front. -/
theorem isSeconds_of_readSeconds? {amount : List Char} {d : Duration}
    (h : readSeconds? amount = some d) (lead : SignsLead amount) : IsSeconds amount d.nanos := by
  by_cases minus : ∃ digits, amount = '-' :: digits
  · obtain ⟨digits, rfl⟩ := minus
    rw [readSeconds?_minus] at h
    obtain ⟨whole, tail, fraction, n, k, rfl, behind, short, readWhole, readFraction, nanos⟩ :=
      of_unsignedSeconds? h
    rw [← List.cons_append] at lead
    obtain ⟨digits, rfl⟩ := digits_of_fraction readFraction behind lead.right
    rcases readWhole.cases with ⟨c, rest, rfl, sign⟩ | ⟨all, rfl⟩
    · -- A sign would stand behind the minus sign.
      cases ((List.isChain_cons_cons.mp lead).1 sign).1
    · exact ⟨_, _, whole, tail, fraction, .minus, all, behind, digits, short, rfl, nanos⟩
  · rw [readSeconds?_other fun digits same => minus ⟨digits, same⟩] at h
    obtain ⟨whole, tail, fraction, n, k, rfl, behind, short, readWhole, readFraction, nanos⟩ :=
      of_unsignedSeconds? h
    obtain ⟨digits, rfl⟩ := digits_of_fraction readFraction behind lead.right
    obtain ⟨sign, factor, ds, first, all, rfl, rfl⟩ := readWhole
    have positive : factor = 1 := by
      cases first with
      | none => rfl
      | plus => rfl
      | minus => exact absurd ⟨_, rfl⟩ minus
    subst positive
    refine ⟨sign, 1, ds, tail, fraction, first, all, behind, digits, short, rfl, ?_⟩
    rw [nanos]
    simp

/-! ## The format -/

/-- A number of days with its letter. -/
inductive IsDay : List Char × Char → Int → Prop where
  | days {amount : List Char} {n : Int} (h : IsInteger amount n) :
    IsDay (amount, 'D') (n * 86400 * 10 ^ 9)

/-- A number of hours, minutes or seconds with its letter, for some way to write seconds. -/
inductive IsTime (seconds : List Char → Int → Prop) : List Char × Char → Int → Prop where
  | hours {amount : List Char} {n : Int} (h : IsInteger amount n) :
    IsTime seconds (amount, 'H') (n * 3600 * 10 ^ 9)
  | minutes {amount : List Char} {n : Int} (h : IsInteger amount n) :
    IsTime seconds (amount, 'M') (n * 60 * 10 ^ 9)
  | seconds {amount : List Char} {nanos : Int} (h : seconds amount nanos) :
    IsTime seconds (amount, 'S') nanos

/-- Nothing, or the letter `T` and amounts. -/
inductive IsClock : List Char → List (List Char × Char) → Prop where
  | none : IsClock [] []
  | after (times : List (List Char × Char)) : IsClock ('T' :: spelled times) times

/-- A text of at most one sign, `P`, numbers of days, and optionally `T` and numbers of hours,
minutes and seconds, and its number of nanoseconds: the sum of all amounts, with the sign. -/
def Spells (seconds : List Char → Int → Prop) (text : List Char) (nanos : Int) : Prop :=
  ∃ sign factor days ns clock times ks, IsSign sign factor ∧ List.Forall₂ IsDay days ns ∧
    IsClock clock times ∧ List.Forall₂ (IsTime seconds) times ks ∧ (days ≠ [] ∨ times ≠ []) ∧
    text = sign ++ 'P' :: (spelled days ++ clock) ∧ nanos = factor * (ns.sum + ks.sum)

/-- The seconds that are read. -/
def ReadsSeconds (amount : List Char) (nanos : Int) : Prop :=
  ∃ d, readSeconds? amount = some d ∧ d.nanos = nanos

theorem isDay_of_designator {p : List Char × Char} {d : Duration}
    (h : ofDayDesignator? p = some d) : IsDay p d.nanos := by
  obtain ⟨amount, unit⟩ := p
  obtain ⟨n, read, days⟩ := Option.bind_eq_some_iff.mp h
  split at days
  · next letter =>
    rw [nanos_of_ofNanos? days, letter]
    exact .days (isInteger_of_read? read)
  · cases days

theorem isTime_of_designator {p : List Char × Char} {d : Duration}
    (h : ofTimeDesignator? p = some d) : IsTime ReadsSeconds p d.nanos := by
  unfold ofTimeDesignator? at h
  split at h
  · obtain ⟨n, read, h⟩ := Option.bind_eq_some_iff.mp h
    rw [nanos_of_ofNanos? h]
    exact .hours (isInteger_of_read? read)
  · obtain ⟨n, read, h⟩ := Option.bind_eq_some_iff.mp h
    rw [nanos_of_ofNanos? h]
    exact .minutes (isInteger_of_read? read)
  · exact .seconds ⟨d, h, rfl⟩
  · cases h

/-- The sum of amounts is exact. -/
theorem nanos_of_addDesignators? {read : List Char × Char → Option Duration}
    {P : List Char × Char → Int → Prop} (each : ∀ p v, read p = some v → P p v.nanos)
    {total d : Duration} {parts : List (List Char × Char)}
    (h : addDesignators? read total parts = some d) :
    ∃ ns, List.Forall₂ P parts ns ∧ d.nanos = total.nanos + ns.sum := by
  induction parts generalizing total with
  | nil =>
      cases h
      exact ⟨[], .nil, (Int.add_zero _).symm⟩
  | cons p parts ih =>
      rw [addDesignators?, List.foldlM_cons] at h
      obtain ⟨next, step, rest⟩ := Option.bind_eq_some_iff.mp h
      obtain ⟨v, hv, sum⟩ := Option.bind_eq_some_iff.mp step
      obtain ⟨ns, all, nanos⟩ := ih rest
      refine ⟨v.nanos :: ns, .cons (each p v hv) all, ?_⟩
      rw [nanos, nanos_of_ofNanos? sum, List.sum_cons, Int.add_assoc]

end Duration

/-- Amounts and letters that are split make up the text. -/
theorem spelled_of_designatorsFrom {before text : List Char} {parts : List (List Char × Char)}
    (h : designatorsFrom before text = some parts) : before.reverse ++ text = spelled parts := by
  induction text generalizing before parts with
  | nil =>
      unfold designatorsFrom at h
      split at h
      · next empty =>
        cases h
        rw [List.isEmpty_iff.mp empty]
        rfl
      · cases h
  | cons c rest ih =>
      unfold designatorsFrom at h
      split at h
      · rw [← ih h, List.reverse_cons, List.append_assoc]
        rfl
      · split at h
        · cases h
        · obtain ⟨others, split, rfl⟩ := Option.map_eq_some_iff.mp h
          have tail := ih split
          rw [List.reverse_nil, List.nil_append] at tail
          simp [spelled, tail]

theorem sign_of_signAndBody {text body : List Char} {negative : Bool}
    (h : signAndBody text = some (negative, body)) :
    ∃ sign, Amount.IsSign sign (if negative then -1 else 1) ∧
      Text.upperAscii (Text.trim text) = sign ++ 'P' :: body := by
  unfold signAndBody at h
  generalize Text.upperAscii (Text.trim text) = upper at h ⊢
  dsimp only at h
  split at h
  · next body found =>
    cases h
    revert found
    split <;> intro found
    · exact ⟨['-'], .minus, congrArg ('-' :: ·) found⟩
    · exact ⟨['+'], .plus, congrArg ('+' :: ·) found⟩
    · exact ⟨[], .none, found⟩
  · cases h

namespace Duration

open Amount

/-- What is read in front of the letter `T` and behind it. -/
theorem of_readParts {negative : Bool} {dates times : List Char} {d : Duration}
    (h : (if dates.isEmpty && times.isEmpty then none
      else do
        let total ← addDesignators? ofDayDesignator? zero (← designators dates)
        let total ← addDesignators? ofTimeDesignator? total (← designators times)
        pure (if negative then total.neg else total)) = some d) :
    ∃ days ns ts ks, dates = spelled days ∧ times = spelled ts ∧ List.Forall₂ IsDay days ns ∧
      List.Forall₂ (IsTime ReadsSeconds) ts ks ∧ (days ≠ [] ∨ ts ≠ []) ∧
      d.nanos = (if negative then -1 else 1) * (ns.sum + ks.sum) := by
  split at h
  · cases h
  · next there =>
    obtain ⟨days, splitDays, h⟩ := Option.bind_eq_some_iff.mp h
    obtain ⟨t, sumDays, h⟩ := Option.bind_eq_some_iff.mp h
    obtain ⟨ts, splitTimes, h⟩ := Option.bind_eq_some_iff.mp h
    obtain ⟨total, sumTimes, ⟨⟩⟩ := Option.bind_eq_some_iff.mp h
    obtain ⟨ns, allDays, nanos⟩ := nanos_of_addDesignators? (fun _ _ => isDay_of_designator) sumDays
    obtain ⟨ks, allTimes, nanos'⟩ :=
      nanos_of_addDesignators? (fun _ _ => isTime_of_designator) sumTimes
    have textDays : dates = spelled days := spelled_of_designatorsFrom splitDays
    have textTimes : times = spelled ts := spelled_of_designatorsFrom splitTimes
    have none : zero.nanos = 0 := rfl
    have sum : total.nanos = ns.sum + ks.sum := by rw [nanos', nanos, none, Int.zero_add]
    refine ⟨days, ns, ts, ks, textDays, textTimes, allDays, allTimes, ?_, ?_⟩
    · -- Without parts of either kind both texts would be empty.
      by_contra both
      obtain ⟨rfl, rfl⟩ : days = [] ∧ ts = [] := by simpa using both
      exact there (by rw [textDays, textTimes]; rfl)
    · rw [← sum]
      cases negative
      · exact (Int.one_mul _).symm
      · exact (Int.neg_one_mul _).symm

/-- Whatever is read has the format. -/
theorem spells_read {text : List Char} {d : Duration} (h : read? text = some d) :
    Spells ReadsSeconds (Text.upperAscii (Text.trim text)) d.nanos := by
  obtain ⟨⟨negative, body⟩, front, h⟩ := Option.bind_eq_some_iff.mp h
  obtain ⟨sign, first, upper⟩ := sign_of_signAndBody front
  dsimp only at h
  cases split : Text.splitOnce 'T' body with
  | none =>
      rw [split] at h
      obtain ⟨days, ns, ts, ks, rfl, empty, allDays, allTimes, there, nanos⟩ := of_readParts h
      have none : ts = [] := by
        cases ts with
        | nil => rfl
        | cons p ts => simp [spelled] at empty
      subst none
      exact ⟨sign, _, days, ns, [], [], ks, first, allDays, .none, allTimes, there,
        by rw [upper, List.append_nil], nanos⟩
  | some p =>
      rw [split] at h
      obtain ⟨days, ns, ts, ks, dates, times, allDays, allTimes, there, nanos⟩ := of_readParts h
      have parts := Text.eq_of_splitOnce split
      exact ⟨sign, _, days, ns, _, ts, ks, first, allDays, .after ts, allTimes, there,
        by rw [upper, parts, dates, times], nanos⟩

/-! ## Signs in front -/

/-- Amounts in which signs stand in front are well formed. -/
theorem isTime_strict {times : List (List Char × Char)} {ks : List Int}
    (h : List.Forall₂ (IsTime ReadsSeconds) times ks) (lead : SignsLead (spelled times)) :
    List.Forall₂ (IsTime IsSeconds) times ks := by
  induction h with
  | nil => exact .nil
  | @cons p n times ks first _ ih =>
      have text : spelled (p :: times) = p.1 ++ ([p.2] ++ spelled times) := by simp [spelled]
      rw [text] at lead
      refine .cons ?_ (ih lead.right.right)
      cases first with
      | hours h => exact .hours h
      | minutes h => exact .minutes h
      | seconds h =>
          obtain ⟨d, read, rfl⟩ := h
          exact .seconds (isSeconds_of_readSeconds? read lead.left)

/-- A text in which signs stand in front is well formed. -/
theorem Spells.strict {text : List Char} {nanos : Int} (h : Spells ReadsSeconds text nanos)
    (lead : SignsLead text) : Spells IsSeconds text nanos := by
  obtain ⟨sign, factor, days, ns, clock, times, ks, first, allDays, behind, allTimes, rest⟩ := h
  refine ⟨sign, factor, days, ns, clock, times, ks, first, allDays, behind, ?_, rest⟩
  obtain ⟨_, rfl, _⟩ := rest
  cases behind with
  | none =>
      cases allTimes
      exact .nil
  | after =>
      have split : sign ++ 'P' :: (spelled days ++ 'T' :: spelled times) =
          (sign ++ 'P' :: spelled days ++ ['T']) ++ spelled times := by simp
      rw [split] at lead
      exact isTime_strict allTimes lead.right

end Duration

namespace Amount

/-- Signs stand in front, and none is at the end. -/
structure Closed (text : List Char) : Prop where
  lead : SignsLead text
  last : ∀ c ∈ text.getLast?, isSign c = false ∧ c ≠ '.'

theorem Closed.append {a b : List Char} (ha : Closed a) (hb : Closed b) : Closed (a ++ b) where
  lead := List.isChain_append.mpr ⟨ha.lead, hb.lead, fun c hc _ _ _ => ha.last c hc⟩
  last c hc := by
    rw [List.getLast?_append] at hc
    cases tail : b.getLast? with
    | none =>
        rw [tail] at hc
        exact ha.last c hc
    | some d =>
        rw [tail] at hc
        exact hb.last c (by rw [tail]; exact hc)

theorem closed_nil : Closed [] := ⟨List.isChain_nil, fun _ h => nomatch h⟩

/-- Behind one sign at most, no other follows. -/
theorem signsLead_of_rest {c : Char} {rest : List Char} (h : ∀ s ∈ rest, isSign s = false) :
    SignsLead (c :: rest) := by
  induction rest generalizing c with
  | nil => exact List.isChain_singleton c
  | cons s rest ih =>
      obtain ⟨first, others⟩ := List.forall_mem_cons.mp h
      exact List.isChain_cons_cons.mpr
        ⟨fun sign => absurd sign (by rw [first]; exact Bool.false_ne_true), ih others⟩

theorem isSign_of_isDigit {c : Char} (h : c.isDigit = true) : isSign c = false :=
  forall_isDigit (P := fun c => isSign c = false) (by decide) h

/-- An amount with its letter: a sign, others than signs, and the letter. -/
theorem IsSign.closed {sign rest : List Char} {factor : Int} {letter : Char}
    (first : IsSign sign factor) (h : ∀ s ∈ rest, isSign s = false)
    (plain : isSign letter = false ∧ letter ≠ '.') : Closed (sign ++ rest ++ [letter]) := by
  have others : ∀ s ∈ rest ++ [letter], isSign s = false :=
    List.forall_mem_append.mpr ⟨h, List.forall_mem_singleton.mpr plain.1⟩
  refine ⟨?_, fun c hc => ?_⟩
  · rw [List.append_assoc]
    cases first with
    | none =>
        cases rest with
        | nil => exact List.isChain_singleton letter
        | cons c rest => exact signsLead_of_rest (List.forall_mem_cons.mp others).2
    | plus => exact signsLead_of_rest others
    | minus => exact signsLead_of_rest others
  · rw [List.getLast?_append, List.getLast?_singleton] at hc
    cases hc
    exact plain

theorem IsInteger.closed {amount : List Char} {n : Int} {letter : Char} (h : IsInteger amount n)
    (plain : isSign letter = false ∧ letter ≠ '.') : Closed (amount ++ [letter]) := by
  obtain ⟨sign, factor, ds, first, ⟨_, all⟩, rfl, _⟩ := h
  exact first.closed (fun c hc => isSign_of_isDigit (all c hc)) plain

theorem IsSeconds.closed {amount : List Char} {n : Int} {letter : Char} (h : IsSeconds amount n)
    (plain : isSign letter = false ∧ letter ≠ '.') : Closed (amount ++ [letter]) := by
  obtain ⟨sign, factor, ds, tail, fraction, first, ⟨_, all⟩, behind, digits, _, rfl, _⟩ := h
  have tailPlain : ∀ c ∈ tail, isSign c = false := by
    cases behind with
    | none => exact fun _ h => absurd h List.not_mem_nil
    | point =>
        exact List.forall_mem_cons.mpr ⟨rfl, fun c hc => isSign_of_isDigit (digits c hc)⟩
  rw [List.append_assoc sign]
  exact first.closed (List.forall_mem_append.mpr
    ⟨fun c hc => isSign_of_isDigit (all c hc), tailPlain⟩) plain

theorem closed_spelled {P : List Char × Char → Int → Prop}
    (each : ∀ p n, P p n → Closed (p.1 ++ [p.2])) {parts : List (List Char × Char)} {ns : List Int}
    (all : List.Forall₂ P parts ns) : Closed (spelled parts) := by
  induction all with
  | nil => exact closed_nil
  | @cons p n parts ns first _ ih =>
      have text : spelled (p :: parts) = (p.1 ++ [p.2]) ++ spelled parts := rfl
      rw [text]
      exact (each p n first).append ih

end Amount

namespace Duration

open Amount

/-- In a well-formed text signs stand in front. -/
theorem Spells.signsLead {text : List Char} {nanos : Int} (h : Spells IsSeconds text nanos) :
    SignsLead text := by
  obtain ⟨sign, factor, days, ns, clock, times, ks, first, allDays, behind, allTimes, _, rfl, _⟩ := h
  have front : Closed (sign ++ [] ++ ['P']) :=
    first.closed (fun _ h => absurd h List.not_mem_nil) (by decide)
  have dates : Closed (spelled days) := by
    refine closed_spelled (fun p n day => ?_) allDays
    cases day with
    | days h => exact h.closed (show isSign 'D' = false ∧ 'D' ≠ '.' by decide)
  have tail : Closed clock := by
    cases behind with
    | none => exact closed_nil
    | after =>
        have letter : Closed ['T'] := IsSign.none.closed (fun _ h => absurd h List.not_mem_nil)
          (by decide)
        refine letter.append (closed_spelled (fun p n time => ?_) allTimes)
        cases time with
        | hours h => exact h.closed (show isSign 'H' = false ∧ 'H' ≠ '.' by decide)
        | minutes h => exact h.closed (show isSign 'M' = false ∧ 'M' ≠ '.' by decide)
        | seconds h => exact h.closed (show isSign 'S' = false ∧ 'S' ≠ '.' by decide)
  have whole : sign ++ 'P' :: (spelled days ++ clock) =
      (sign ++ [] ++ ['P']) ++ (spelled days ++ clock) := by simp
  rw [whole]
  exact (front.append (dates.append tail)).lead

/-- Every text that is read is spelled like a duration, and the duration is the exact sum of its
amounts; its seconds are well formed if and only if no sign stands directly behind another sign or
behind a point. -/
theorem read?_spelled {text : List Char} {d : Duration} (h : read? text = some d) :
    Spells ReadsSeconds (Text.upperAscii (Text.trim text)) d.nanos ∧
      (SignsLead (Text.upperAscii (Text.trim text)) →
        Spells IsSeconds (Text.upperAscii (Text.trim text)) d.nanos) ∧
      ((∃ nanos, Spells IsSeconds (Text.upperAscii (Text.trim text)) nanos) →
        SignsLead (Text.upperAscii (Text.trim text))) :=
  ⟨spells_read h, (spells_read h).strict, fun ⟨_, spells⟩ => spells.signsLead⟩

end Duration

namespace Sample

/-- A day, and half a second less than an hour and a half. -/
theorem almostHalfPast_spelled :
    Duration.Spells Amount.IsSeconds "P1DT1H30M-0.5S".toList 91_799_500_000_000 := by
  have upper : Text.upperAscii (Text.trim " p1dT1h30m-0.5s ".toList) = "P1DT1H30M-0.5S".toList := by
    decide +kernel
  have read : Duration.read? " p1dT1h30m-0.5s ".toList =
      some ⟨91_799_500_000_000, by decide⟩ := by decide +kernel
  obtain ⟨_, strict, _⟩ := Duration.read?_spelled read
  rw [upper] at strict
  exact strict (by decide)

/-- Texts with signs behind signs and behind a point that are read, although they do not have the
format of a duration. -/
theorem straySigns_read :
    Duration.read? "PT--5S".toList = some ⟨5_000_000_000, by decide⟩ ∧
      Duration.read? "PT1.-5S".toList = some ⟨950_000_000, by decide⟩ ∧
      ∀ text ∈ ["PT--5S", "PT1.-5S"], ¬∃ nanos, Duration.Spells Amount.IsSeconds
        (Text.upperAscii (Text.trim text.toList)) nanos := by
  refine ⟨by decide +kernel, by decide +kernel, ?_⟩
  have stray : ∀ text ∈ ["PT--5S", "PT1.-5S"],
      ¬Amount.SignsLead (Text.upperAscii (Text.trim text.toList)) := by decide +kernel
  rintro text listed ⟨_, spells⟩
  exact stray text listed spells.signsLead

end Sample

end Rowwise
