import Rowwise.Proofs.Calendar.DateText

/-!
# Times are read back from their texts

A time is written without its seconds if they are zero, and its fraction with three, six or nine
digits.  The reader tries the pattern with seconds first, which refuses a text without them
(`read_timeText_mismatch`), and then the one without, so that every text is read by the pattern that
fits.

The nanoseconds of a leap second are an exception.  There are 10⁹ of them or more, which is a digit
more than the fraction has room for, and of the digits of a fraction only the first nine count.
What is read for a time is therefore not always the time: `TimeOfDay.reread` says what it is, and is
the time itself but in a leap second.
-/

namespace Rowwise

/-! ## Fields -/

namespace TimeOfDay

variable (t : TimeOfDay)

theorem hour_lt : t.hour < 24 := by
  have := t.valid.1
  unfold hour
  omega

theorem minute_lt : t.minute < 60 := Nat.mod_lt _ (by decide)

theorem secondOfMinute_lt : t.secondOfMinute < 60 := Nat.mod_lt _ (by decide)

/-- The second of the day by the clock. -/
theorem second_eq : t.second = t.hour * 3600 + t.minute * 60 + t.secondOfMinute := by
  unfold hour minute secondOfMinute
  omega

end TimeOfDay

namespace TemporalFields

variable {f : TemporalFields} {n : Nat}

theorem setNumber_hour (small : n < 24) (half : f.halfDay = none) (ofHalf : f.hourOfHalf = none) :
    f.setNumber n .hour =
      .ok { f with halfDay := some (n / 12 : Int), hourOfHalf := some (n % 12 : Int) } := by
  rw [setNumber, setHour, within_eq (by omega), half, ofHalf]
  rfl

theorem setNumber_minute (small : n < 60) (new : f.minute = none) :
    f.setNumber n .minute = .ok { f with minute := some (n : Int) } := by
  rw [setNumber, within_eq (by omega), new]
  rfl

theorem setNumber_second (small : n < 60) (new : f.second = none) :
    f.setNumber n .second = .ok { f with second := some (n : Int) } := by
  rw [setNumber, within_eq (by omega), new]
  rfl

theorem setNumber_nanosecond (small : n < 1000000000) (new : f.nanosecond = none) :
    f.setNumber n .nanosecond = .ok { f with nanosecond := some (n : Int) } := by
  rw [setNumber, within_eq (by omega), new]
  rfl

end TemporalFields

/-! ## Texts of times -/

namespace TimeOfDay

/-- The nanoseconds that are read for those that were written. -/
def rereadNano (nano : Nat) : Nat := if nano < 1000000000 then nano else nano / 10

/-- The time that is read for another: the same, but a tenth of the nanoseconds of a leap second. -/
def reread (t : TimeOfDay) : TimeOfDay :=
  ⟨t.second, rereadNano t.nano, t.valid.1, by
    have := t.valid.2
    unfold rereadNano
    split <;> omega⟩

/-- The seconds of a time in its text. -/
def secondsText (t : TimeOfDay) : List Char :=
  if t.nano = 0 ∧ t.secondOfMinute = 0 then []
  else ':' :: (Decimal.zeroPadded 2 t.secondOfMinute ++
    if t.nano = 0 then [] else '.' :: fractionText t.nano)

theorem text_eq (t : TimeOfDay) : t.text =
    Decimal.zeroPadded 2 t.hour ++ ':' :: (Decimal.zeroPadded 2 t.minute ++ t.secondsText) := by
  unfold text secondsText
  split
  · simp
  · split <;> simp

end TimeOfDay

namespace Pattern

/-- Of a run of digits in a fraction the first nine count. -/
theorem readFraction_digits {ds rest : List Char} (nonempty : ds ≠ [])
    (digits : ∀ c ∈ ds, c.isDigit = true) (ends : EndsNumber rest) :
    readFraction (ds ++ rest) =
      .ok ((Decimal.value (ds.take 9) * 10 ^ (9 - (ds.take 9).length) : Nat), rest) := by
  have some : 1 ≤ (ds.take 9).length := by
    have := List.length_pos_iff.mpr nonempty
    rw [List.length_take]
    omega
  have short : Decimal.value (ds.take 9) < 10 ^ 9 := by
    refine (Decimal.value_lt fun c hc => digits c (List.mem_of_mem_take hc)).trans_le ?_
    exact Nat.pow_le_pow_right (by decide) (List.length_take_le 9 ds)
  have consumed : (ds ++ rest).length - (ds.drop 9 ++ rest).length = (ds.take 9).length := by
    simp only [List.length_append, List.length_drop, List.length_take]
    omega
  have passed : (ds.drop 9 ++ rest).dropWhile Char.isDigit = rest := by
    rw [List.dropWhile_append_of_pos fun c hc => digits c (List.mem_of_mem_drop hc)]
    cases rest with
    | nil => rfl
    | cons c rest => simp [endsNumber_cons.mp ends]
  unfold readFraction
  rw [readDigits_some digits ends some (by omega), Except.ok_bind]
  simp only [consumed, passed]
  push_cast
  rfl

theorem readFraction_zeroPadded {width q : Nat} (wide : width = 3 ∨ width = 6 ∨ width = 9)
    (small : q < 2 * 10 ^ width) {rest : List Char} (ends : EndsNumber rest) :
    readFraction (Decimal.zeroPadded width q ++ rest) =
      .ok ((TimeOfDay.rereadNano (q * 10 ^ (9 - width)) : Int), rest) := by
  have value : Decimal.value ((Decimal.zeroPadded width q).take 9) =
      q / 10 ^ ((Decimal.zeroPadded width q).length - 9) := by
    rw [Decimal.value_take (Decimal.isDigit_zeroPadded width q), Decimal.value_zeroPadded]
  rw [readFraction_digits (Decimal.zeroPadded_ne_nil width q) (Decimal.isDigit_zeroPadded width q)
    ends, value, List.length_take, TimeOfDay.rereadNano]
  by_cases regular : q < 10 ^ width
  · rw [Decimal.length_zeroPadded (by omega) regular]
    obtain rfl | rfl | rfl := wide <;> rw [if_pos (by omega)] <;> norm_num
  · have length : (Decimal.zeroPadded width q).length = width + 1 := by
      refine Decimal.length_zeroPadded_succ (by omega) (Nat.le_of_not_lt regular) ?_
      rw [Nat.pow_succ]
      omega
    rw [length]
    congr 2
    obtain rfl | rfl | rfl := wide <;> rw [if_neg (by omega)] <;> norm_num <;> omega

/-- A fraction of a second is read, in a leap second with one digit too many. -/
theorem readFraction_fractionText {nano : Nat} (small : nano < 2000000000) {rest : List Char}
    (ends : EndsNumber rest) :
    readFraction (TimeOfDay.fractionText nano ++ rest) =
      .ok ((TimeOfDay.rereadNano nano : Int), rest) := by
  unfold TimeOfDay.fractionText
  split
  · next h =>
      rw [readFraction_zeroPadded (.inl rfl) (by omega) ends,
        show nano / 1000000 * 10 ^ (9 - 3) = nano by omega]
  · split
    · next h =>
        rw [readFraction_zeroPadded (.inr (.inl rfl)) (by omega) ends,
          show nano / 1000 * 10 ^ (9 - 6) = nano by omega]
    · rw [readFraction_zeroPadded (.inr (.inr rfl)) (by omega) ends,
        show nano * 10 ^ (9 - 9) = nano by omega]

theorem timeItems : items "%H:%M:%S%.f".toList =
    [zeroPadded .hour, .literal [':'], zeroPadded .minute] ++
      [.literal [':'], zeroPadded .second, .fraction] := by
  decide

theorem hourItems : items "%H:%M".toList =
    [zeroPadded .hour, .literal [':'], zeroPadded .minute] := by
  decide

/-- The fields of a time without its seconds. -/
def hourFields (t : TimeOfDay) : TemporalFields :=
  { halfDay := some (t.hour / 12 : Int), hourOfHalf := some (t.hour % 12 : Int),
    minute := some (t.minute : Int) }

theorem read_hourText (t : TimeOfDay) {rest : List Char} (ends : EndsNumber rest) :
    [zeroPadded .hour, .literal [':'], zeroPadded .minute].foldlM (fun r item => readItem item r)
        (({}, Decimal.zeroPadded 2 t.hour ++ ':' :: (Decimal.zeroPadded 2 t.minute ++ rest)) :
          Reading) = .ok (hourFields t, rest) := by
  have hour (rest : List Char) : readItem (zeroPadded .hour)
      ({}, Decimal.zeroPadded 2 t.hour ++ ':' :: rest) =
        .ok ({ halfDay := some (t.hour / 12 : Int), hourOfHalf := some (t.hour % 12 : Int) },
          ':' :: rest) := by
    rw [zeroPadded, readItem, readNumber_two rfl rfl (by have := t.hour_lt; omega) (by simp),
      TemporalFields.setNumber_hour t.hour_lt rfl rfl]
    rfl
  have minute : readItem (zeroPadded .minute)
      ({ halfDay := some (t.hour / 12 : Int), hourOfHalf := some (t.hour % 12 : Int) },
        Decimal.zeroPadded 2 t.minute ++ rest) = .ok (hourFields t, rest) := by
    rw [zeroPadded, readItem, readNumber_two rfl rfl (by have := t.minute_lt; omega) ends,
      TemporalFields.setNumber_minute t.minute_lt rfl]
    rfl
  simp only [List.foldlM_cons, List.foldlM_nil, hour, minute, readItem_literal, Except.ok_bind]
  rfl

/-- What may follow a time: neither a digit nor a point. -/
def EndsTime (rest : List Char) : Prop := ∀ c ∈ rest.head?, c.isDigit = false ∧ c ≠ '.'

theorem endsTime_nil : EndsTime [] := by simp [EndsTime]

theorem EndsTime.endsNumber {rest : List Char} (ends : EndsTime rest) : EndsNumber rest :=
  fun c hc => (ends c hc).1

/-- The field for the nanoseconds in a text, none if there are none. -/
def nanoField (nano : Nat) : Option Int :=
  if nano = 0 then none else some (TimeOfDay.rereadNano nano)

theorem readOptionalFraction_fractionText {f : TemporalFields} (new : f.nanosecond = none)
    {nano : Nat} (small : nano < 2000000000) {rest : List Char} (ends : EndsTime rest) :
    readOptionalFraction readFraction
        (f, (if nano = 0 then [] else '.' :: TimeOfDay.fractionText nano) ++ rest) =
      .ok ({ f with nanosecond := nanoField nano }, rest) := by
  unfold nanoField
  split
  · rw [List.nil_append, ← new]
    unfold readOptionalFraction
    split
    · next h =>
        obtain ⟨rfl, rfl⟩ := Prod.mk.inj h
        exact absurd rfl (ends '.' rfl).2
    · rfl
  · have bounded : TimeOfDay.rereadNano nano < 1000000000 := by
      unfold TimeOfDay.rereadNano
      split <;> omega
    rw [List.cons_append, readOptionalFraction, readFraction_fractionText small ends.endsNumber,
      Except.ok_bind]
    dsimp only
    rw [TemporalFields.setNumber_nanosecond bounded new]
    rfl

/-- The fields of a time. -/
def timeFields (t : TimeOfDay) : TemporalFields :=
  { hourFields t with
    second := some (t.secondOfMinute : Int)
    nanosecond := nanoField t.nano }

/-- A text that has seconds is read with them. -/
theorem read_timeText {t : TimeOfDay} (h : ¬(t.nano = 0 ∧ t.secondOfMinute = 0)) :
    read "%H:%M:%S%.f".toList t.text = .ok (timeFields t) := by
  have second (rest : List Char) (ends : EndsNumber rest) : readItem (zeroPadded .second)
      (hourFields t, Decimal.zeroPadded 2 t.secondOfMinute ++ rest) =
        .ok ({ hourFields t with second := some (t.secondOfMinute : Int) }, rest) := by
    rw [zeroPadded, readItem,
      readNumber_two rfl rfl (by have := t.secondOfMinute_lt; omega) ends,
      TemporalFields.setNumber_second t.secondOfMinute_lt rfl]
    rfl
  have fraction := readOptionalFraction_fractionText
    (f := { hourFields t with second := some (t.secondOfMinute : Int) }) rfl t.valid.2
    endsTime_nil
  rw [List.append_nil] at fraction
  unfold read
  rw [timeItems, t.text_eq, List.foldlM_append, read_hourText t, Except.ok_bind]
  · rw [TimeOfDay.secondsText, if_neg h]
    simp only [List.foldlM_cons, List.foldlM_nil, readItem_literal, Except.ok_bind]
    rw [second _ ?_, Except.ok_bind, readItem, fraction]
    · rfl
    · split <;> simp
  · rw [TimeOfDay.secondsText, if_neg h]
    simp

/-- A text without seconds is not read with them. -/
theorem read_timeText_mismatch {t : TimeOfDay} (h : t.nano = 0 ∧ t.secondOfMinute = 0) :
    read "%H:%M:%S%.f".toList t.text = .error .mismatch := by
  unfold read
  rw [timeItems, t.text_eq, TimeOfDay.secondsText, if_pos h, List.foldlM_append,
    read_hourText t endsNumber_nil, Except.ok_bind]
  rfl

theorem read_hourMinuteText {t : TimeOfDay} (h : t.nano = 0 ∧ t.secondOfMinute = 0) :
    read "%H:%M".toList t.text = .ok (hourFields t) := by
  unfold read
  rw [hourItems, t.text_eq, TimeOfDay.secondsText, if_pos h, read_hourText t endsNumber_nil]
  rfl

end Pattern

/-- The fields of a time determine it. -/
theorem TemporalFields.time_eq {f : TemporalFields} {t : TimeOfDay}
    (half : f.halfDay = some (t.hour / 12 : Int)) (hour : f.hourOfHalf = some (t.hour % 12 : Int))
    (minute : f.minute = some (t.minute : Int)) (second : f.second.getD 0 = t.secondOfMinute)
    (nano : f.nanosecond.getD 0 = t.nano) (enough : f.nanosecond.isSome → f.second.isSome)
    (regular : t.nano < 1000000000) : f.time = .ok t := by
  -- Second 60 would be the leap second, but a time ends its minutes with second 59.
  have notLeap : ¬ f.second.getD 0 = 60 := by
    have := t.secondOfMinute_lt
    omega
  have given : (f.nanosecond.isSome && f.second.isNone) = false := by
    cases hn : f.nanosecond with
    | none => rfl
    | some n =>
        obtain ⟨k, hk⟩ := Option.isSome_iff_exists.mp (enough (by rw [hn]; rfl))
        rw [hk]
        rfl
  have clock : TimeOfDay.ofClock? t.hour t.minute t.secondOfMinute t.nano = some t := by
    have h := t.hour_lt
    have m := t.minute_lt
    have s := t.secondOfMinute_lt
    rw [TimeOfDay.ofClock?, if_pos ⟨h, m, s, .inl regular⟩, ← t.second_eq, TimeOfDay.ofParts?,
      dif_pos t.valid]
  unfold TemporalFields.time
  simp only [half, hour, minute, orNotEnough, Except.ok_bind, given, Bool.false_eq_true, if_false]
  rw [if_neg notLeap, if_neg notLeap, second, nano]
  have hours : ((t.hour / 12 : Int) * 12 + t.hour % 12).toNat = t.hour := by omega
  rw [hours, Int.add_zero, Int.toNat_natCast, Int.toNat_natCast, Int.toNat_natCast, clock]
  rfl

theorem mem_timeText (t : TimeOfDay) : ∀ c ∈ t.text, c.isDigit = true ∨ c ∈ ":.".toList := by
  have colon : ':'.isDigit = true ∨ ':' ∈ ":.".toList := .inr (by decide)
  have fraction : ∀ c ∈ TimeOfDay.fractionText t.nano, c.isDigit = true ∨ c ∈ ":.".toList := by
    unfold TimeOfDay.fractionText
    split
    · exact mem_zeroPadded
    · split <;> exact mem_zeroPadded
  rw [t.text_eq, TimeOfDay.secondsText]
  simp only [List.forall_mem_append, List.forall_mem_cons]
  refine ⟨mem_zeroPadded, colon, mem_zeroPadded, ?_⟩
  split
  · simp
  · refine List.forall_mem_cons.mpr ⟨colon, List.forall_mem_append.mpr ⟨mem_zeroPadded, ?_⟩⟩
    split
    · simp
    · exact List.forall_mem_cons.mpr ⟨.inr (by decide), fraction⟩

theorem trim_timeText (t : TimeOfDay) : Text.trim t.text = t.text :=
  trim_eq_of_marks (by decide) (mem_timeText t)

theorem TimeOfDay.reread_nano_lt (t : TimeOfDay) : t.reread.nano < 1000000000 := by
  have := t.valid.2
  change rereadNano t.nano < _
  unfold rereadNano
  split <;> omega

/-- The fields of a time determine the time that is read for it. -/
theorem Pattern.time_reread {f : TemporalFields} {t : TimeOfDay}
    (half : f.halfDay = some (t.hour / 12 : Int)) (hour : f.hourOfHalf = some (t.hour % 12 : Int))
    (minute : f.minute = some (t.minute : Int))
    (second : f.second = some (t.secondOfMinute : Int))
    (nano : f.nanosecond = nanoField t.nano) : f.time = .ok t.reread := by
  refine TemporalFields.time_eq half hour minute (by rw [second]; rfl) ?_
    (fun _ => by rw [second]; rfl) t.reread_nano_lt
  rw [nano]
  change (nanoField t.nano).getD 0 = (TimeOfDay.rereadNano t.nano : Int)
  unfold nanoField
  split
  · next zero => rw [zero]; rfl
  · rfl

theorem Pattern.time_hourFields {t : TimeOfDay} (h : t.nano = 0 ∧ t.secondOfMinute = 0) :
    (hourFields t).time = .ok t.reread := by
  refine TemporalFields.time_eq rfl rfl rfl ?_ ?_ (fun h => absurd h (by simp [hourFields]))
    t.reread_nano_lt
  · exact (congrArg Nat.cast h.2).symm
  · change (0 : Int) = (TimeOfDay.rereadNano t.nano : Int)
    rw [h.1]
    rfl

/-- A time is read from its text, but for the nanoseconds of a leap second. -/
theorem StandardForm.readTime?_text (t : TimeOfDay) : readTime? t.text = some t.reread := by
  rw [readTime?, trim_timeText]
  rw [Pattern.readTime, Pattern.readTime]
  by_cases h : t.nano = 0 ∧ t.secondOfMinute = 0
  · rw [Pattern.read_timeText_mismatch h, Pattern.read_hourMinuteText h, Except.ok_bind,
      Pattern.time_hourFields h]
    rfl
  · rw [Pattern.read_timeText h, Except.ok_bind, Pattern.time_reread rfl rfl rfl rfl rfl]
    rfl

/-! ## Dates with a time -/

/-- The characters of dates with times. -/
theorem mem_dateTimeText (t : LocalDateTime) :
    ∀ c ∈ t.text, c.isDigit = true ∨ c ∈ "-+:.T".toList := by
  have date : ∀ c ∈ "-+".toList, c ∈ "-+:.T".toList := List.all_iff_forall_prop.mp (by decide)
  have time : ∀ c ∈ ":.".toList, c ∈ "-+:.T".toList := List.all_iff_forall_prop.mp (by decide)
  refine List.forall_mem_append.mpr ⟨fun c hc => ?_, List.forall_mem_cons.mpr
    ⟨.inr (by decide), fun c hc => ?_⟩⟩
  · exact (mem_dateText t.date c hc).imp_right (date c)
  · exact (mem_timeText t.time c hc).imp_right (time c)

/-- The date and time that is read for another. -/
def LocalDateTime.reread (t : LocalDateTime) : LocalDateTime := ⟨t.date, t.time.reread⟩

/-- A date with a time is read from its text, but for the nanoseconds of a leap second. -/
theorem StandardForm.readDateTime?_text (t : LocalDateTime) :
    readDateTime? t.text = some t.reread := by
  have trimmed : Text.trim t.text = t.text := trim_eq_of_marks (by decide) (mem_dateTimeText t)
  have whole : ∀ c ∈ t.date.text, (!(c == 'T' || c == ' ')) = true := fun c hc =>
    forall_digit_or (P := fun c => (!(c == 'T' || c == ' ')) = true) (by decide) (by decide)
      (mem_dateText t.date c hc)
  have before : t.text.takeWhile (fun c => !(c == 'T' || c == ' ')) = t.date.text := by
    rw [LocalDateTime.text, List.takeWhile_append_of_pos whole, List.takeWhile_cons_of_neg
      (by decide), List.append_nil]
  have behind : t.text.dropWhile (fun c => !(c == 'T' || c == ' ')) = 'T' :: t.time.text := by
    rw [LocalDateTime.text, List.dropWhile_append_of_pos whole, List.dropWhile_cons_of_neg
      (by decide)]
  unfold readDateTime?
  rw [trimmed]
  simp only [before, behind, readDate?_text, readTime?_text]
  rfl

end Rowwise
