import Mathlib.Algebra.Ring.Int.Defs
import Mathlib.Data.List.Basic
import Rowwise.Calendar.StandardForm

/-!
# Which texts are zones

A zone is read without the blanks around it and in capital letters.  It is `Z`, a name of universal
time, or a signed distance from it, which may stand behind such a name (`Written`).

Two more kinds of texts do not make the zone unknown.  A `Z` behind a name of universal time does
not count (`NamedTwice`).  And a sign is taken off as one byte, so that reading cannot go on where
the character in its place takes several bytes (`BeginsWide`).  All other texts are unknown
(`read_cases`).
-/

namespace Rowwise.ZoneReading

variable {text name rest digits : List Char} {sign : ℤ} {o : Offset} {hours minutes : ℕ} {c : Char}

/-! ## Written zones -/

/-- The form of a zone that is compared: without blanks around it and in capital letters. -/
def capitals (text : List Char) : List Char := (Text.trim text).map Char.toUpper

/-- The names of universal time. -/
def universalNames : List (List Char) := ["UTC".toList, "GMT".toList, "UT".toList]

/-- Hours as one or two digits, or hours and minutes as two digits each. -/
inductive Clock : List Char → ℕ → ℕ → Prop where
  | hours {h : List Char} (length : h.length = 1 ∨ h.length = 2) : Clock h (Decimal.value h) 0
  | minutes {h m : List Char} (first : h.length = 2) (second : m.length = 2) :
      Clock (h ++ m) (Decimal.value h) (Decimal.value m)

/-- The text behind a sign: digits that are hours, or hours and minutes, of at most 18 hours and 59
minutes.  Colons do not count. -/
structure Distance (text : List Char) (hours minutes : ℕ) : Prop where
  digits : ∀ c ∈ text.filter (· != ':'), c.isDigit = true
  clock : Clock (text.filter (· != ':')) hours minutes
  hours_le : hours ≤ 18
  minutes_le : minutes ≤ 59

/-- A zone in capital letters, with its distance from universal time in seconds: `Z`, a name of
universal time, or a signed distance, which may follow such a name. -/
inductive Written : List Char → ℤ → Prop where
  | zulu : Written ['Z'] 0
  | universal {name : List Char} (named : name ∈ universalNames) : Written name 0
  | east {name text : List Char} {hours minutes : ℕ} (named : name ∈ [] :: universalNames)
      (distance : Distance text hours minutes) :
      Written (name ++ '+' :: text) (hours * 3600 + minutes * 60)
  | west {name text : List Char} {hours minutes : ℕ} (named : name ∈ [] :: universalNames)
      (distance : Distance text hours minutes) :
      Written (name ++ '-' :: text) (-(hours * 3600 + minutes * 60))

/-- A name of universal time with a `Z` behind it. -/
def NamedTwice (upper : List Char) : Prop := ∃ name ∈ universalNames, upper = name ++ ['Z']

/-- At the start, or behind a name of universal time, stands a character of several bytes. -/
def BeginsWide (upper : List Char) : Prop :=
  ∃ name ∈ [] :: universalNames, ∃ c rest, upper = name ++ c :: rest ∧ c.utf8Size ≠ 1

/-! ## Distances -/

theorem Clock.ne_nil (h : Clock text hours minutes) : text ≠ [] := by
  apply List.length_pos_iff.mp
  cases h with
  | hours length => omega
  | minutes first second =>
      rw [List.length_append]
      omega

/-- How digits are divided into hours and minutes. -/
theorem clock_iff (given : text ≠ []) :
    (if text.length ≤ 2 then some (Decimal.value text, 0)
      else if text.length = 4 then
        some (Decimal.value (text.take 2), Decimal.value (text.drop 2))
      else none) = some (hours, minutes) ↔ Clock text hours minutes := by
  have := List.length_pos_iff.mpr given
  constructor
  · intro h
    split at h
    · cases h
      exact .hours (by omega)
    · split at h
      · cases h
        have clock : Clock (text.take 2 ++ text.drop 2) (Decimal.value (text.take 2))
            (Decimal.value (text.drop 2)) :=
          .minutes (by rw [List.length_take]; omega) (by rw [List.length_drop]; omega)
        rwa [List.take_append_drop] at clock
      · cases h
  · intro h
    cases h with
    | hours length => rw [if_pos (by omega)]
    | minutes first second =>
        rw [List.length_append, if_neg (by omega), if_pos (by omega), List.take_left' first,
          List.drop_left' first]

theorem ofDigits_eq_some_iff :
    ofDigits sign text = some o ↔ ∃ hours minutes, Distance text hours minutes ∧
      o.seconds = sign * ((hours : ℤ) * 3600 + minutes * 60) := by
  unfold ofDigits
  dsimp only
  constructor
  · intro h
    split at h
    · cases h
    · next written =>
        rw [Bool.or_eq_true, not_or, List.isEmpty_iff] at written
        obtain ⟨⟨hours, minutes⟩, clock, h⟩ := Option.bind_eq_some_iff.mp h
        dsimp only at h
        split at h
        · cases h
        · next inside =>
            unfold Offset.ofSeconds? at h
            split at h
            · cases h
              refine ⟨hours, minutes, ⟨?_, (clock_iff written.1).mp clock, ?_, ?_⟩, rfl⟩
              · simpa using written.2
              · omega
              · omega
            · cases h
  · rintro ⟨hours, minutes, ⟨digits, clock, hours_le, minutes_le⟩, value⟩
    have numeric : (text.filter (· != ':')).any (fun c => !c.isDigit) = false := by
      simpa using digits
    rw [List.isEmpty_eq_false_iff.mpr clock.ne_nil, numeric, Bool.or_self,
      if_neg Bool.false_ne_true, (clock_iff clock.ne_nil).mpr clock, Option.bind_some]
    dsimp only
    rw [if_neg (by omega), ← value]
    exact dif_pos o.bounded

/-! ## Names of universal time -/

/-- A name of universal time is taken off, with what could be another name behind it left out. -/
theorem afterUniversalName_append (named : name ∈ [] :: universalNames)
    (other : ∀ c ∈ rest.head?, c ≠ 'C' ∧ c ≠ 'U' ∧ c ≠ 'G') :
    afterUniversalName (name ++ rest) = rest := by
  rcases List.mem_cons.mp named with rfl | named
  · refine afterUniversalName.eq_4 rest ?_ ?_ ?_
    · rintro tail rfl
      exact (other 'U' rfl).2.1 rfl
    · rintro tail rfl
      exact (other 'G' rfl).2.2 rfl
    · rintro tail rfl
      exact (other 'U' rfl).2.1 rfl
  · simp only [universalNames, List.mem_cons, List.not_mem_nil, or_false] at named
    rcases named with rfl | rfl | rfl
    · rfl
    · rfl
    · refine afterUniversalName.eq_3 rest ?_
      rintro tail rfl
      exact (other 'C' rfl).1 rfl

theorem exists_universalName (upper : List Char) :
    ∃ name ∈ [] :: universalNames, upper = name ++ afterUniversalName upper := by
  unfold afterUniversalName
  split
  · exact ⟨_, .tail _ (.head _), rfl⟩
  · exact ⟨_, .tail _ (.tail _ (.head _)), rfl⟩
  · exact ⟨_, .tail _ (.tail _ (.tail _ (.head _))), rfl⟩
  · exact ⟨[], .head _, rfl⟩

/-! ## Reading -/

/-- What stands behind the name decides. -/
theorem read_of_ne_nil (given : capitals text ≠ []) :
    read text = match afterUniversalName (capitals text) with
      | [] | ['Z'] => offset Offset.utc
      | '+' :: digits => ((ofDigits 1 digits).map offset).getD unknown
      | '-' :: digits => ((ofDigits (-1) digits).map offset).getD unknown
      | c :: _ => if c.utf8Size = 1 then unknown else cutInsideCharacter :=
  if_neg (Bool.eq_false_iff.mp (List.isEmpty_eq_false_iff.mpr given))

theorem Distance.read (distance : Distance digits hours minutes) (unit : sign = 1 ∨ sign = -1) :
    ∃ o, ((ofDigits sign digits).map offset).getD unknown = .offset o ∧
      o.seconds = sign * ((hours : ℤ) * 3600 + minutes * 60) := by
  have hours_le := distance.hours_le
  have minutes_le := distance.minutes_le
  have bounded : -86400 < sign * ((hours : ℤ) * 3600 + minutes * 60) ∧
      sign * ((hours : ℤ) * 3600 + minutes * 60) < 86400 := by
    rcases unit with rfl | rfl <;> omega
  let o : Offset := ⟨_, bounded⟩
  have made : ofDigits sign digits = some o :=
    ofDigits_eq_some_iff.mpr ⟨hours, minutes, distance, rfl⟩
  rw [made]
  exact ⟨o, rfl, rfl⟩

/-- Otherwise the zone is unknown. -/
theorem distance_or_unknown (sign : ℤ) (digits : List Char) :
    (∃ hours minutes, Distance digits hours minutes) ∨
      ((ofDigits sign digits).map offset).getD unknown = .unknown := by
  cases made : ofDigits sign digits with
  | none => exact .inr rfl
  | some o =>
      obtain ⟨hours, minutes, distance, -⟩ := ofDigits_eq_some_iff.mp made
      exact .inl ⟨hours, minutes, distance⟩

/-- A zone is one of four names or has a sign in it. -/
theorem Written.forms {n : ℤ} (h : Written text n) :
    text = ['Z'] ∨ text ∈ universalNames ∨ '+' ∈ text ∨ '-' ∈ text := by
  cases h with
  | zulu => exact .inl rfl
  | universal named => exact .inr (.inl named)
  | east => exact .inr (.inr (.inl (List.mem_append_right _ (.head _))))
  | west => exact .inr (.inr (.inr (List.mem_append_right _ (.head _))))

theorem Written.ne_nil {n : ℤ} (h : Written text n) : text ≠ [] := by
  rintro rfl
  have forms := h.forms
  revert forms
  decide

theorem Written.read {n : ℤ} (h : Written (capitals text) n) :
    ∃ o, read text = .offset o ∧ o.seconds = n := by
  rw [read_of_ne_nil h.ne_nil]
  generalize capitals text = upper at h
  cases h with
  | zulu => exact ⟨Offset.utc, rfl, rfl⟩
  | universal named =>
      have behind : afterUniversalName (upper ++ []) = [] :=
        afterUniversalName_append (.tail _ named) (by simp)
      rw [List.append_nil] at behind
      rw [behind]
      exact ⟨Offset.utc, rfl, rfl⟩
  | east named distance =>
      rw [afterUniversalName_append named (by simp)]
      obtain ⟨o, reads, value⟩ := distance.read (.inl rfl)
      exact ⟨o, reads, by rw [value, one_mul]⟩
  | west named distance =>
      rw [afterUniversalName_append named (by simp)]
      obtain ⟨o, reads, value⟩ := distance.read (.inr rfl)
      exact ⟨o, reads, by rw [value, neg_one_mul]⟩

theorem NamedTwice.read (h : NamedTwice (capitals text)) : read text = .offset Offset.utc := by
  obtain ⟨name, named, upper_eq⟩ := h
  have given : capitals text ≠ [] := by simp [upper_eq]
  rw [read_of_ne_nil given, upper_eq, afterUniversalName_append (.tail _ named) (by simp)]
  rfl

/-- Letters that names begin with take one byte, as do signs. -/
theorem BeginsWide.read (h : BeginsWide (capitals text)) : read text = .cutInsideCharacter := by
  obtain ⟨name, named, c, rest, upper_eq, wide⟩ := h
  have given : capitals text ≠ [] := by simp [upper_eq]
  have other {d : Char} (narrow : d.utf8Size = 1) : c ≠ d := by
    rintro rfl
    exact wide narrow
  rw [read_of_ne_nil given, upper_eq, afterUniversalName_append named]
  · split <;> rename_i same <;> cases same
    · exact absurd rfl wide
    · exact absurd rfl wide
    · exact absurd rfl wide
    · exact if_neg wide
  · rintro d h
    cases h
    exact ⟨other rfl, other rfl, other rfl⟩

/-- There are no other zones. -/
theorem read_cases (text : List Char) :
    (∃ n, Written (capitals text) n) ∨ NamedTwice (capitals text) ∨ BeginsWide (capitals text) ∨
      read text = .unknown := by
  by_cases given : capitals text = []
  · exact .inr (.inr (.inr (if_pos (List.isEmpty_iff.mpr given))))
  obtain ⟨name, named, upper_eq⟩ := exists_universalName (capitals text)
  rw [read_of_ne_nil given]
  generalize afterUniversalName (capitals text) = rest at upper_eq ⊢
  rw [upper_eq]
  -- What stands behind the name: nothing, `Z`, one of the signs, or another character.
  split
  · rw [List.append_nil] at upper_eq ⊢
    rcases List.mem_cons.mp named with rfl | named
    · exact absurd upper_eq given
    · exact .inl ⟨0, .universal named⟩
  · rcases List.mem_cons.mp named with rfl | named
    · exact .inl ⟨0, .zulu⟩
    · exact .inr (.inl ⟨name, named, rfl⟩)
  · next digits =>
      rcases distance_or_unknown 1 digits with ⟨hours, minutes, distance⟩ | other
      · exact .inl ⟨_, .east named distance⟩
      · exact .inr (.inr (.inr other))
  · next digits =>
      rcases distance_or_unknown (-1) digits with ⟨hours, minutes, distance⟩ | other
      · exact .inl ⟨_, .west named distance⟩
      · exact .inr (.inr (.inr other))
  · next c rest _ _ _ =>
      by_cases narrow : c.utf8Size = 1
      · exact .inr (.inr (.inr (if_pos narrow)))
      · exact .inr (.inr (.inl ⟨name, named, c, rest, rfl, narrow⟩))

end Rowwise.ZoneReading
