import Rowwise.Proofs.Calendar.TimeText

/-!
# Dates and times with an offset are read back from their texts

Two readers share this work.  The first takes the internet form only, with a year of four digits,
with seconds and with an offset of less than a day (`readInternet_text`); a text that lacks one of
these is refused by it (`readInternet_text_error`).  The second splits the zone off and reads both
parts on its own, but knows no offsets of more than 18 hours (`ZoneReading.ofDigits_clock`).

Since a time is written without seconds that are zero, the form of the text depends on the value,
and with it the reader.  So a date-time is read back, as far as its time is, if its text has the
internet form or its offset is within 18 hours, and not at all otherwise (`readZoned?_text`).
-/

namespace Rowwise

/-! ## Offsets -/

namespace Offset

/-- The hours and minutes of an offset, without its sign. -/
def hours (o : Offset) : Nat := o.seconds.natAbs / 3600
def minutes (o : Offset) : Nat := o.seconds.natAbs / 60 % 60

/-- The sign of an offset. -/
def sign (o : Offset) : Int := if o.seconds < 0 then -1 else 1

/-- Whether an offset has no seconds. -/
def Whole (o : Offset) : Prop := o.seconds % 60 = 0

variable {o : Offset}

theorem hours_lt (o : Offset) : o.hours < 24 := by
  have := o.bounded
  unfold hours
  omega

theorem minutes_lt (o : Offset) : o.minutes < 60 := Nat.mod_lt _ (by decide)

/-- A whole offset is its hours and minutes. -/
theorem Whole.seconds_eq (h : o.Whole) :
    o.sign * ((o.hours : Int) * 3600 + o.minutes * 60) = o.seconds := by
  unfold Whole at h
  unfold sign hours minutes
  split <;> omega

/-- The text of a whole offset. -/
theorem Whole.text_eq (h : o.Whole) : o.text =
    (if o.seconds < 0 then '-' else '+') :: (Decimal.zeroPadded 2 o.hours ++ ':' ::
      (Decimal.zeroPadded 2 o.minutes ++ [])) := by
  unfold Whole at h
  have whole : o.seconds.natAbs % 60 = 0 := by omega
  rw [text, if_pos whole, List.append_nil]
  rfl

theorem ofSeconds?_self (o : Offset) : ofSeconds? o.seconds = some o := dif_pos o.bounded

end Offset

/-- The text of an offset after a date and time. -/
def ZonedDateTime.zoneText (z : ZonedDateTime) : List Char :=
  if z.offset.seconds = 0 then ['Z'] else z.offset.text

namespace Pattern

/-- An offset with its minutes after a colon. -/
theorem readOffset_signed {c : Char} (h : c = '-' ∨ c = '+') {hours minutes : Nat}
    (hour : hours < 100) (minute : minutes < 60) :
    readOffset (exactly ':') true false
        (c :: (Decimal.zeroPadded 2 hours ++ ':' :: (Decimal.zeroPadded 2 minutes ++ []))) =
      .ok ((if c = '+' then (hours : Int) * 3600 + minutes * 60
        else -((hours : Int) * 3600 + minutes * 60)), []) := by
  have first : readDigits 2 (some 2) (Decimal.zeroPadded 2 hours ++ ':' ::
      (Decimal.zeroPadded 2 minutes ++ [])) =
        .ok ((hours : Int), ':' :: (Decimal.zeroPadded 2 minutes ++ [])) :=
    readDigits_zeroPadded (by decide) hour (by omega) (by decide) (by simp)
  have second : readDigits 2 (some 2) (Decimal.zeroPadded 2 minutes ++ []) =
      .ok ((minutes : Int), []) :=
    readDigits_zeroPadded (by decide) (by omega) (by omega) (by decide) endsNumber_nil
  have inRange : ¬ (minutes : Int) > 59 := by omega
  have unfolded (rest : List Char) : readOffset (exactly ':') true false (c :: rest) = (do
      let x ← readDigits 2 (some 2) rest
      let rest ← exactly ':' x.2
      let y ← readDigits 2 (some 2) rest
      if y.1 > 59 then throw .outOfRange
      let seconds := x.1 * 3600 + y.1 * 60
      pure (if c = '+' then seconds else -seconds, y.2)) := by
    rcases h with rfl | rfl <;> rfl
  rw [unfolded, first, Except.ok_bind]
  simp only [exactly, if_true, Except.ok_bind, second, if_neg inRange]
  rfl

/-- Offsets in the internet form are read back. -/
theorem readOffset_zoneText {z : ZonedDateTime} (whole : z.offset.Whole) :
    readOffset (exactly ':') true false z.zoneText = .ok (z.offset.seconds, []) := by
  have hours := z.offset.hours_lt
  have value := whole.seconds_eq
  unfold Offset.sign at value
  unfold ZonedDateTime.zoneText
  split
  · next utc =>
      rw [utc]
      rfl
  · rw [whole.text_eq]
    by_cases negative : z.offset.seconds < 0
    · rw [if_pos negative] at value ⊢
      rw [readOffset_signed (.inl rfl) (by omega) z.offset.minutes_lt, if_neg (by decide)]
      congr 2
      omega
    · rw [if_neg negative] at value ⊢
      rw [readOffset_signed (.inr rfl) (by omega) z.offset.minutes_lt, if_pos rfl]
      congr 2
      omega

end Pattern

namespace ZoneReading

/-- Hours and minutes with a colon, if there are no more than 18 hours. -/
theorem ofDigits_clock {hours minutes : Nat} (hour : hours < 100) (minute : minutes < 60)
    (sign : Int) :
    ofDigits sign (Decimal.zeroPadded 2 hours ++ ':' :: (Decimal.zeroPadded 2 minutes ++ [])) =
      if hours ≤ 18 then Offset.ofSeconds? (sign * ((hours : Int) * 3600 + minutes * 60))
      else none := by
  have digits (n : Nat) : ∀ c ∈ Decimal.zeroPadded 2 n, (c != ':') = true := fun c hc =>
    Decimal.forall_isDigit (P := fun c => (c != ':') = true) (by decide)
      (Decimal.isDigit_zeroPadded 2 n c hc)
  have first : (Decimal.zeroPadded 2 hours).length = 2 :=
    Decimal.length_zeroPadded (by decide) hour
  have second : (Decimal.zeroPadded 2 minutes).length = 2 :=
    Decimal.length_zeroPadded (by decide) (by omega)
  have filtered : (Decimal.zeroPadded 2 hours ++ ':' :: (Decimal.zeroPadded 2 minutes ++ [])).filter
      (· != ':') = Decimal.zeroPadded 2 hours ++ Decimal.zeroPadded 2 minutes := by
    rw [List.append_nil, List.filter_append, List.filter_cons_of_neg (by decide),
      List.filter_eq_self.mpr (digits hours), List.filter_eq_self.mpr (digits minutes)]
  have length : (Decimal.zeroPadded 2 hours ++ Decimal.zeroPadded 2 minutes).length = 4 := by
    rw [List.length_append, first, second]
  have some : (Decimal.zeroPadded 2 hours ++ Decimal.zeroPadded 2 minutes).isEmpty = false := by
    rw [List.isEmpty_eq_false_iff, ← List.length_pos_iff, length]
    decide
  have all : (Decimal.zeroPadded 2 hours ++ Decimal.zeroPadded 2 minutes).any
      (fun c => !c.isDigit) = false := by
    rw [List.any_eq_false]
    intro c hc
    rw [List.forall_mem_append.mpr ⟨Decimal.isDigit_zeroPadded 2 hours,
      Decimal.isDigit_zeroPadded 2 minutes⟩ c hc]
    decide
  unfold ofDigits
  dsimp only
  rw [filtered, some, all, Bool.or_self, if_neg Bool.false_ne_true, length,
    if_neg (by decide), if_pos rfl, Option.bind_some, List.take_left' first, List.drop_left' first,
    Decimal.value_zeroPadded, Decimal.value_zeroPadded]
  by_cases h : hours ≤ 18
  · rw [if_pos h, if_neg (by omega)]
  · rw [if_neg h, if_pos (by omega)]

theorem mem_zoneText {z : ZonedDateTime} (whole : z.offset.Whole) :
    ∀ c ∈ z.zoneText, c.isDigit = true ∨ c ∈ "-+:Z".toList := by
  unfold ZonedDateTime.zoneText
  split
  · exact List.forall_mem_cons.mpr ⟨.inr (by decide), by simp⟩
  · rw [whole.text_eq]
    refine List.forall_mem_cons.mpr ⟨?_, List.forall_mem_append.mpr ⟨mem_zeroPadded,
      List.forall_mem_cons.mpr ⟨.inr (by decide), ?_⟩⟩⟩
    · split <;> exact .inr (by decide)
    · rw [List.append_nil]
      exact mem_zeroPadded

/-- Within the limit of the reader a zone is read back. -/
theorem read_zoneText {z : ZonedDateTime} (whole : z.offset.Whole) :
    read z.zoneText = if z.offset.hours ≤ 18 then .offset z.offset else .unknown := by
  -- Neither trimming nor writing capitals changes what a zone prints.
  have kept : ∀ c ∈ z.zoneText, Text.isBlank c = false ∧ c.toUpper = c := fun c hc =>
    forall_digit_or (P := fun c => Text.isBlank c = false ∧ c.toUpper = c) (by decide) (by decide)
      (mem_zoneText whole c hc)
  have upper : (Text.trim z.zoneText).map Char.toUpper = z.zoneText := by
    rw [trim_eq fun c hc => (kept c hc).1]
    exact (List.map_congr_left fun c hc => (kept c hc).2).trans (List.map_id _)
  have value := whole.seconds_eq
  have hours := z.offset.hours_lt
  unfold read
  rw [upper]
  unfold Offset.sign at value
  unfold ZonedDateTime.zoneText
  split
  · next utc =>
      have same : z.offset = Offset.utc := by
        obtain ⟨_, ⟨s, _⟩⟩ := z
        obtain rfl : s = 0 := utc
        rfl
      rw [same]
      rfl
  · rw [whole.text_eq]
    by_cases negative : z.offset.seconds < 0
    · rw [if_pos negative] at value ⊢
      change ((ofDigits (-1) _).map offset).getD unknown = _
      rw [ofDigits_clock (by omega) z.offset.minutes_lt, value, Offset.ofSeconds?_self]
      split <;> rfl
    · rw [if_neg negative] at value ⊢
      change ((ofDigits 1 _).map offset).getD unknown = _
      rw [ofDigits_clock (by omega) z.offset.minutes_lt, value, Offset.ofSeconds?_self]
      split <;> rfl

end ZoneReading

/-! ## Dates and times with an offset -/

theorem ZonedDateTime.text_eq (z : ZonedDateTime) : z.text = z.wall.text ++ z.zoneText := rfl

/-- A zone begins with a sign or is a letter. -/
theorem ZonedDateTime.exists_zoneText_eq_cons {z : ZonedDateTime} (whole : z.offset.Whole) :
    ∃ c cs, z.zoneText = c :: cs ∧ c ∈ "-+Z".toList := by
  unfold zoneText
  split
  · exact ⟨_, _, rfl, by decide⟩
  · rw [whole.text_eq]
    refine ⟨_, _, rfl, ?_⟩
    split <;> decide

theorem Pattern.endsTime_zoneText {z : ZonedDateTime} (whole : z.offset.Whole) :
    EndsTime z.zoneText := by
  obtain ⟨c, cs, text, hc⟩ := ZonedDateTime.exists_zoneText_eq_cons whole
  have marks : ∀ c ∈ "-+Z".toList, c.isDigit = false ∧ c ≠ '.' :=
    List.all_iff_forall_prop.mp (by decide)
  rw [text]
  intro d hd
  cases hd
  exact marks c hc

namespace StandardForm

variable {z : ZonedDateTime}

theorem splitZone_text (whole : z.offset.Whole) :
    splitZone z.text = some (z.wall.text, z.zoneText) := by
  obtain ⟨c, cs, zone, hc⟩ := ZonedDateTime.exists_zoneText_eq_cons whole
  have text : z.text = z.wall.date.text ++ ('T' :: z.wall.time.text ++ z.zoneText) := by
    rw [z.text_eq, LocalDateTime.text, List.append_assoc]
  -- No character of a date ends the date, and none of a time begins a zone.
  have inDate : ∀ c ∈ z.wall.date.text, (c != 'T' && c != ' ') = true := fun c hc =>
    forall_digit_or (P := fun c => (c != 'T' && c != ' ') = true) (by decide) (by decide)
      (mem_dateText _ c hc)
  have inTime : ∀ c ∈ 'T' :: z.wall.time.text,
      (!(c == '+' || c == '-' || c == 'Z' || c == 'z')) = true :=
    List.forall_mem_cons.mpr ⟨by decide, fun c hc =>
      forall_digit_or (P := fun c => (!(c == '+' || c == '-' || c == 'Z' || c == 'z')) = true)
        (by decide) (by decide) (mem_timeText _ c hc)⟩
  have stops : ∀ c ∈ "-+Z".toList, (!(c == '+' || c == '-' || c == 'Z' || c == 'z')) = false :=
    List.all_iff_forall_prop.mp (by decide)
  have dateText : z.text.takeWhile (fun c => c != 'T' && c != ' ') = z.wall.date.text := by
    rw [text, List.takeWhile_append_of_pos inDate, List.cons_append,
      List.takeWhile_cons_of_neg (by decide), List.append_nil]
  have timeText : ('T' :: z.wall.time.text ++ z.zoneText).takeWhile
      (fun c => !(c == '+' || c == '-' || c == 'Z' || c == 'z')) = 'T' :: z.wall.time.text := by
    rw [List.takeWhile_append_of_pos inTime, zone, List.takeWhile_cons_of_neg
      (by rw [stops c hc]; decide), List.append_nil]
  unfold splitZone
  simp only [dateText]
  rw [text, List.drop_left, timeText, List.drop_left, zone]
  rfl

end StandardForm

/-- Whether the text of a date-time has the internet form: a year of four digits, and seconds. -/
def ZonedDateTime.IsInternet (z : ZonedDateTime) : Prop :=
  (0 ≤ z.wall.date.year ∧ z.wall.date.year ≤ 9999) ∧
    ¬(z.wall.time.nano = 0 ∧ z.wall.time.secondOfMinute = 0)

instance (z : ZonedDateTime) : Decidable z.IsInternet := by
  unfold ZonedDateTime.IsInternet
  infer_instance

/-- The date-time that is read for another. -/
def ZonedDateTime.reread (z : ZonedDateTime) : ZonedDateTime := ⟨z.wall.reread, z.offset⟩

/-- What is read for a date-time in the calendar is in the calendar. -/
theorem ZonedDateTime.ofLocal?_reread {z : ZonedDateTime}
    (inCalendar : (Date.ofDayNumber? z.utcTime.2).isSome) :
    ofLocal? z.wall.reread z.offset = some z.reread := by
  obtain ⟨d, hd⟩ := Option.isSome_iff_exists.mp inCalendar
  have same : (ZonedDateTime.mk z.wall.reread z.offset).utcTime.2 = z.utcTime.2 := rfl
  unfold ofLocal?
  dsimp only
  rw [same, hd]
  rfl

theorem TemporalFields.setOffset_eq {f : TemporalFields} (n : Int) (new : f.offset = none) :
    f.setOffset n = .ok { f with offset := some n } := by
  rw [setOffset, new]
  rfl

theorem TemporalFields.zoned_eq {f : TemporalFields} {d : Date} {t : TimeOfDay} {o : Offset}
    {z : ZonedDateTime} (date : f.date = .ok d) (time : f.time = .ok t)
    (timestamp : f.timestamp = none) (offset : f.offset = some o.seconds)
    (local? : ZonedDateTime.ofLocal? ⟨d, t⟩ o = some z) : f.zoned = .ok z := by
  unfold zoned dateTime
  simp only [offset, date, time, timestamp, pure_bind, Option.all_none, if_true,
    Offset.ofSeconds?_self, orOutOfRange, Except.ok_bind, local?]
  rfl

namespace Pattern

variable {z : ZonedDateTime}

/-- What is read of the internet form after the minutes. -/
def readInternetSeconds (r : Reading) : Except ReadFailure ZonedDateTime := do
  let (n, rest) ← readDigits 2 (some 2) (← exactly ':' r.2)
  let (f, s) ← readOptionalFraction readFraction (← r.1.setNumber n .second, rest)
  let (n, rest) ← readOffset (exactly ':') true false s
  if n.natAbs ≥ 86400 then throw .outOfRange
  if rest.isEmpty then (← f.setOffset n).zoned else throw .mismatch

/-- The fields of a date and a time without its seconds. -/
def minuteFields (t : LocalDateTime) : TemporalFields :=
  { dateFields t.date with
    halfDay := some (t.time.hour / 12 : Int)
    hourOfHalf := some (t.time.hour % 12 : Int)
    minute := some (t.time.minute : Int) }

/-- Up to the minutes the internet form is that of a date and time with a year of four digits. -/
theorem readInternet_minutes {t : LocalDateTime} (year : 0 ≤ t.date.year ∧ t.date.year ≤ 9999)
    {rest : List Char} (ends : EndsNumber rest) :
    readInternet (t.date.text ++ 'T' :: (Decimal.zeroPadded 2 t.time.hour ++ ':' ::
      (Decimal.zeroPadded 2 t.time.minute ++ rest))) =
        readInternetSeconds (minuteFields t, rest) := by
  have monthLe := t.date.month_le
  have dayLe := t.date.day_le
  have hourLt := t.time.hour_lt
  have minuteLt := t.time.minute_lt
  -- Each number has its digits, and ends at the separator behind it.
  have first (rest : List Char) : readDigits 4 (some 4)
      (Decimal.zeroPadded 4 t.date.year.toNat ++ '-' :: rest) = .ok (t.date.year, '-' :: rest) := by
    rw [readDigits_zeroPadded (by decide) (by omega) (by omega) (by decide) (by simp),
      Int.toNat_of_nonneg year.1]
  have two {n : Nat} (small : n < 100) {rest : List Char} (ends : EndsNumber rest) :
      readDigits 2 (some 2) (Decimal.zeroPadded 2 n ++ rest) = .ok ((n : Int), rest) :=
    readDigits_zeroPadded (by decide) small (by omega) (by decide) ends
  have dash (rest : List Char) : EndsNumber ('-' :: rest) := endsNumber_cons.mpr (by decide)
  have letter (rest : List Char) : EndsNumber ('T' :: rest) := endsNumber_cons.mpr (by decide)
  have colon (rest : List Char) : EndsNumber (':' :: rest) := endsNumber_cons.mpr (by decide)
  have month (rest : List Char) := two (n := t.date.month) (by omega) (dash rest)
  have day (rest : List Char) := two (n := t.date.day) (by omega) (letter rest)
  have hour (rest : List Char) := two (n := t.time.hour) (by omega) (colon rest)
  have minute := two (n := t.time.minute) (by omega) ends
  rw [text_date, Date.yearText, if_pos year]
  unfold readInternet readInternetSeconds
  simp only [List.append_assoc, List.cons_append, List.append_nil, first, month, day, hour, minute,
    Except.ok_bind, pure_bind, bind_assoc, exactly, if_true,
    TemporalFields.setNumber_year t.date.natAbs_year_lt,
    TemporalFields.setNumber_month t.date.one_le_month monthLe,
    TemporalFields.setNumber_day t.date.one_le_day dayLe,
    TemporalFields.setNumber_hour hourLt, TemporalFields.setNumber_minute minuteLt]
  rfl

theorem readInternet_text (internet : z.IsInternet) (whole : z.offset.Whole)
    (inCalendar : (Date.ofDayNumber? z.utcTime.2).isSome) :
    readInternet z.text = .ok z.reread := by
  obtain ⟨year, seconds⟩ := internet
  have text : z.text = z.wall.date.text ++ 'T' :: (Decimal.zeroPadded 2 z.wall.time.hour ++ ':' ::
      (Decimal.zeroPadded 2 z.wall.time.minute ++ ':' ::
        (Decimal.zeroPadded 2 z.wall.time.secondOfMinute ++
          ((if z.wall.time.nano = 0 then [] else '.' :: TimeOfDay.fractionText z.wall.time.nano)
            ++ z.zoneText)))) := by
    rw [z.text_eq, LocalDateTime.text, z.wall.time.text_eq, TimeOfDay.secondsText, if_neg seconds]
    simp only [List.append_assoc, List.cons_append]
  have ends := endsTime_zoneText whole
  have secondLt := z.wall.time.secondOfMinute_lt
  have second : readDigits 2 (some 2) (Decimal.zeroPadded 2 z.wall.time.secondOfMinute ++
      ((if z.wall.time.nano = 0 then [] else '.' :: TimeOfDay.fractionText z.wall.time.nano)
        ++ z.zoneText)) = .ok ((z.wall.time.secondOfMinute : Int),
      (if z.wall.time.nano = 0 then [] else '.' :: TimeOfDay.fractionText z.wall.time.nano)
        ++ z.zoneText) := by
    refine readDigits_zeroPadded (by decide) (by omega) (by omega) (by decide) ?_
    split
    · exact ends.endsNumber
    · exact endsNumber_cons.mpr (by decide)
  have offsetLt : ¬ z.offset.seconds.natAbs ≥ 86400 := by
    have := z.offset.bounded
    omega
  rw [text, readInternet_minutes year (endsNumber_cons.mpr (by decide))]
  unfold readInternetSeconds
  simp only [exactly, if_true, Except.ok_bind, second]
  rw [TemporalFields.setNumber_second secondLt rfl, Except.ok_bind,
    readOptionalFraction_fractionText rfl z.wall.time.valid.2 ends, Except.ok_bind]
  simp only [readOffset_zoneText whole, Except.ok_bind, if_neg offsetLt, List.isEmpty_nil, if_true]
  rw [TemporalFields.setOffset_eq _ rfl, Except.ok_bind]
  exact TemporalFields.zoned_eq (TemporalFields.date_eq rfl rfl rfl
    ⟨rfl, rfl, rfl, rfl, rfl, rfl, rfl, rfl, rfl, rfl⟩) (time_reread rfl rfl rfl rfl rfl) rfl rfl
    (ZonedDateTime.ofLocal?_reread inCalendar)

/-- Without four digits of a year at its start a text does not have the internet form. -/
theorem readInternet_signed (c : Char) (digit : c.isDigit = false) (s : List Char) :
    readInternet (c :: s) = .error .mismatch := by
  have none : readDigits 4 (some 4) (c :: s) = .error .mismatch := by
    unfold readDigits
    simp [digit]
  unfold readInternet
  simp only [none]
  rfl

/-- Nor does it without seconds. -/
theorem readInternet_brief (year : 0 ≤ z.wall.date.year ∧ z.wall.date.year ≤ 9999)
    (brief : z.wall.time.nano = 0 ∧ z.wall.time.secondOfMinute = 0) (whole : z.offset.Whole) :
    readInternet z.text = .error .mismatch := by
  obtain ⟨c, cs, zone, hc⟩ := ZonedDateTime.exists_zoneText_eq_cons whole
  have noColon : ∀ c ∈ "-+Z".toList, ¬ ':' = c := List.all_iff_forall_prop.mp (by decide)
  have text : z.text = z.wall.date.text ++ 'T' :: (Decimal.zeroPadded 2 z.wall.time.hour ++ ':' ::
      (Decimal.zeroPadded 2 z.wall.time.minute ++ z.zoneText)) := by
    rw [z.text_eq, LocalDateTime.text, z.wall.time.text_eq, TimeOfDay.secondsText, if_pos brief]
    simp only [List.append_assoc, List.cons_append, List.nil_append]
  rw [text, readInternet_minutes year (endsTime_zoneText whole).endsNumber, zone]
  unfold readInternetSeconds
  simp only [exactly, if_neg (noColon c hc)]
  rfl

/-- Other texts do not have the internet form. -/
theorem readInternet_text_error (other : ¬z.IsInternet) (whole : z.offset.Whole) :
    readInternet z.text = .error .mismatch := by
  by_cases year : 0 ≤ z.wall.date.year ∧ z.wall.date.year ≤ 9999
  · have brief : z.wall.time.nano = 0 ∧ z.wall.time.secondOfMinute = 0 := by
      by_contra seconds
      exact other ⟨year, seconds⟩
    exact readInternet_brief year brief whole
  · have text : z.text = (if z.wall.date.year < 0 then '-' else '+') ::
        (z.text.drop 1) := by
      rw [z.text_eq, LocalDateTime.text, Date.text, Date.yearText, if_neg year]
      rfl
    rw [text]
    refine readInternet_signed _ ?_ _
    split <;> decide

end Pattern

namespace StandardForm

variable {z : ZonedDateTime}

/-- No character of the text begins the name of a region, and there are no blanks around it. -/
theorem withoutRegion_text (whole : z.offset.Whole) :
    withoutRegion (Text.trim z.text) = z.text := by
  have date : ∀ c ∈ "-+:.T".toList, c ∈ "-+:.TZ".toList := List.all_iff_forall_prop.mp (by decide)
  have zone : ∀ c ∈ "-+:Z".toList, c ∈ "-+:.TZ".toList := List.all_iff_forall_prop.mp (by decide)
  have chars : ∀ c ∈ z.text, c.isDigit = true ∨ c ∈ "-+:.TZ".toList := by
    rw [z.text_eq]
    refine List.forall_mem_append.mpr ⟨fun c hc => ?_, fun c hc => ?_⟩
    · exact (mem_dateTimeText z.wall c hc).imp_right (date c)
    · exact (ZoneReading.mem_zoneText whole c hc).imp_right (zone c)
  have kept : ∀ c ∈ z.text, Text.isBlank c = false ∧ c ≠ '[' := fun c hc =>
    forall_digit_or (P := fun c => Text.isBlank c = false ∧ c ≠ '[') (by decide) (by decide)
      (chars c hc)
  have none : z.text.contains '[' = false := by
    simpa using fun h => (kept _ h).2 rfl
  rw [trim_eq fun c hc => (kept c hc).1, withoutRegion, none]
  rfl

/-- A date and time with an offset is read from its text, but for the nanoseconds of a leap second,
if the text has the internet form or the offset is within the limit of the other reader. -/
theorem readZoned?_text (whole : z.offset.Whole)
    (inCalendar : (Date.ofDayNumber? z.utcTime.2).isSome) :
    readZoned? z.text = if z.IsInternet ∨ z.offset.hours ≤ 18 then some z.reread else none := by
  unfold readZoned?
  dsimp only
  rw [withoutRegion_text whole]
  by_cases internet : z.IsInternet
  · rw [Pattern.readInternet_text internet whole inCalendar, if_pos (.inl internet)]
    rfl
  · rw [Pattern.readInternet_text_error internet whole, splitZone_text whole]
    simp only [internet, false_or, Option.bind_eq_bind, Option.bind_some, readDateTime?_text,
      ZoneReading.read_zoneText whole]
    by_cases near : z.offset.hours ≤ 18
    · rw [if_pos near, if_pos near]
      exact ZonedDateTime.ofLocal?_reread inCalendar
    · rw [if_neg near, if_neg near]
      rfl

end StandardForm

end Rowwise
