import ChangeRelay.Calendar.Timestamp
import ChangeRelay.Proofs.Text.Digits

/-!
# Timestamps are read back

A timestamp is read back as the instant that it was written for, cut to the
precision with which it was written.  This holds for every year, with a sign or
without.
-/

namespace ChangeRelay.Calendar

open Text

namespace Instant

/-! ## Years -/

/-- The digits of a year have a fixed width, four at least, that the year fits. -/
theorem exists_yearDigits_eq (size : Nat) :
    ∃ width, 4 ≤ width ∧ size < 10 ^ width ∧ yearDigits size = fixedWidth width size := by
  unfold yearDigits
  split
  next short => exact ⟨4, Nat.le_refl 4, short, rfl⟩
  next long =>
    obtain ⟨width, fits, digits⟩ := exists_toDigits_eq_fixedWidth size
    have wide : ¬ width < 4 := fun narrow => by
      have bound : 10 ^ width ≤ 10 ^ 4 := Nat.pow_le_pow_right (by decide) (by omega)
      omega
    exact ⟨width, by omega, fits, by simpa using digits⟩

/-- A year of four digits is read back. -/
theorem readYear?_fixedWidth {size : Nat} (fits : size < 10000) (rest : List Char) :
    readYear? (fixedWidth 4 size ++ rest) = some ((size : Int), rest) := by
  have noSign {sign : Char} (noDigit : decimalDigit? sign = none) (after : List Char) :
      fixedWidth 4 size ++ rest ≠ sign :: after := by
    intro same
    have first : decimalDigit (size / 10 / 10 / 10) = sign := (List.cons.inj same).1
    have digit := decimalDigit?_decimalDigit (size / 10 / 10 / 10)
    rw [first, noDigit] at digit
    cases digit
  unfold readYear?
  split
  · exact absurd ‹_› (noSign rfl _)
  · exact absurd ‹_› (noSign rfl _)
  · rw [readFixedWidth?_fixedWidth (by simpa using fits)]
    rfl

/-- The digits behind a sign are read back up to the dash after the year. -/
theorem signed_yearDigits (sign : Int) (size : Nat) (rest : List Char) :
    readYear?.signed sign (yearDigits size ++ '-' :: rest) = some (sign * size, '-' :: rest) := by
  obtain ⟨width, wide, fits, digits⟩ := exists_yearDigits_eq size
  have enough : ¬ width < 4 := by omega
  have span := spanDigits_fixedWidth width size '-' rest (by decide)
  simp only [readYear?.signed, digits, span, length_lastDigits, ofDigits_lastDigits fits,
    if_neg enough]

/-- A year is read back up to the dash after it. -/
theorem readYear?_yearText (year : Int) (rest : List Char) :
    readYear? (yearText year ++ '-' :: rest) = some (year, '-' :: rest) := by
  unfold yearText
  split
  next negative =>
    have size : -1 * (year.natAbs : Int) = year := by omega
    rw [List.cons_append, readYear?, signed_yearDigits, size]
  next =>
    split
    next late =>
      have size : 1 * (year.natAbs : Int) = year := by omega
      rw [List.cons_append, readYear?, signed_yearDigits, size]
    next early =>
      have short : year.natAbs < 10000 := by omega
      have size : (year.natAbs : Int) = year := by omega
      rw [yearDigits, if_pos short, readYear?_fixedWidth short, size]

/-! ## Fractions and offsets -/

/-- Six digits of a fraction are microseconds. -/
theorem nanoseconds_of_length {digits : List Nat} (six : digits.length = 6) :
    nanoseconds digits = ofDigits 10 digits * 1000 := by
  have filled : (digits ++ List.replicate 9 0).take 9 = digits ++ [0, 0, 0] := by
    rw [List.take_append, six, List.take_of_length_le (by omega)]
    rfl
  rw [nanoseconds, filled]
  simp [ofDigits]
  omega

/-- A fraction is read back as far as it was written. -/
theorem readFraction?_fractionText {nanosecond : Nat} (fits : nanosecond < 1000000000)
    (precision : Precision) :
    readFraction? (fractionText nanosecond precision ++ ['Z']) =
      some (nanosecond / precision.unit * precision.unit, ['Z']) := by
  cases precision with
  | seconds => simp [fractionText, readFraction?, Precision.unit, Nat.div_eq_of_lt fits]
  | microseconds =>
      have span := spanDigits_fixedWidth 6 (nanosecond / 1000) 'Z' [] (by decide)
      have length := length_lastDigits 6 (nanosecond / 1000)
      have value := nanoseconds_of_length length
      rw [ofDigits_lastDigits (by omega)] at value
      simp only [fractionText, List.cons_append, readFraction?, span]
      split
      next none =>
        rw [(Prod.mk.inj none).1] at length
        cases length
      next some =>
        obtain ⟨rfl, rfl⟩ := Prod.mk.inj some
        rw [value]
        rfl

theorem ofMinutes_minutes (clock : Clock) : .ofMinutes clock.minutes clock.minutes_lt = clock := by
  obtain ⟨hour, minute, hour_lt, minute_lt⟩ := clock
  simp only [Clock.ofMinutes, Clock.minutes, Clock.mk.injEq]
  omega

theorem toUtc_zero (date : Date) (clock : Clock) (size : (0 : Int).natAbs < 1440) :
    toUtc date clock ⟨0, size⟩ = (date, clock) := by
  have after : ¬ (clock.minutes : Int) - 0 < 0 := by omega
  have before : ¬ 1440 ≤ (clock.minutes : Int) - 0 := by
    have := clock.minutes_lt
    omega
  simp only [toUtc, dif_neg after, dif_neg before]
  simp [ofMinutes_minutes]

/-! ## Timestamps -/

theorem daysInMonth_le (year : Int) (month : Nat) : daysInMonth year month ≤ 31 := by
  unfold daysInMonth
  split
  · split <;> omega
  · split <;> omega

/-- A field of two digits is read back. -/
theorem readFixedWidth?_two {value : Nat} (fits : value < 100) (rest : List Char) :
    readFixedWidth? 2 (fixedWidth 2 value ++ rest) = some (value, rest) :=
  readFixedWidth?_fixedWidth (by simpa using fits) rest

/-- The fields of an instant in UTC make that instant. -/
theorem ofFields?_utc (instant : Instant) (size : (0 : Int).natAbs < 1440) :
    ofFields? instant.date.year instant.date.month instant.date.day instant.clock.hour
      instant.clock.minute instant.second instant.nanosecond ⟨0, size⟩ = some instant := by
  obtain ⟨⟨year, month, day, real⟩, ⟨hour, minute, hour_lt, minute_lt⟩, second, nanosecond,
    second_le, nanosecond_lt⟩ := instant
  simp only [ofFields?, dif_pos real, toUtc_zero]
  rw [dif_pos ⟨hour_lt, minute_lt, second_le, nanosecond_lt⟩]

/-- A timestamp is read back as the instant, cut to its precision. -/
theorem ofTimestamp?_toTimestamp (precision : Precision) (instant : Instant) :
    ofTimestamp? (instant.toTimestamp precision) = some (instant.cutTo precision.unit) := by
  have month : instant.date.month < 100 := Nat.lt_of_le_of_lt instant.date.exists_in_calendar.2.1
    (by decide)
  have day : instant.date.day < 100 := Nat.lt_of_le_of_lt
    (Nat.le_trans instant.date.exists_in_calendar.2.2.2 (daysInMonth_le _ _)) (by decide)
  have hour : instant.clock.hour < 100 := Nat.lt_trans instant.clock.hour_lt (by decide)
  have minute : instant.clock.minute < 100 := Nat.lt_trans instant.clock.minute_lt (by decide)
  have second : instant.second < 100 := Nat.lt_of_le_of_lt instant.second_le (by decide)
  have fraction := readFraction?_fractionText instant.nanosecond_lt precision
  have offset : readOffset? ['Z'] = some ⟨0, by decide⟩ := rfl
  simp only [ofTimestamp?, toTimestamp, String.toList_ofList, List.append_assoc, List.cons_append,
    readYear?_yearText, skip?, if_true, Option.bind_eq_bind, Option.bind_some,
    Option.orElse_eq_orElse, Option.orElse_eq_or, Option.some_or, readFixedWidth?_two month,
    readFixedWidth?_two day, readFixedWidth?_two hour, readFixedWidth?_two minute,
    readFixedWidth?_two second, fraction, offset]
  exact ofFields?_utc (instant.cutTo precision.unit) _

/-- Nothing is written of what is cut away. -/
theorem toTimestamp_cutTo (precision : Precision) (instant : Instant) :
    (instant.cutTo precision.unit).toTimestamp precision = instant.toTimestamp precision := by
  have fraction : fractionText (instant.nanosecond / precision.unit * precision.unit) precision =
      fractionText instant.nanosecond precision := by
    cases precision with
    | seconds => rfl
    | microseconds =>
        rw [fractionText, Precision.unit, Nat.mul_div_cancel _ (by decide)]
        rfl
  simp only [toTimestamp, cutTo, fraction]

/-- Whether an instant is a multiple of a unit. -/
def IsWhole (unit : Nat) (instant : Instant) : Prop :=
  instant.nanosecond % unit = 0

instance (unit : Nat) (instant : Instant) : Decidable (instant.IsWhole unit) :=
  inferInstanceAs (Decidable (_ = _))

theorem cutTo_of_isWhole {unit : Nat} {instant : Instant} (whole : instant.IsWhole unit) :
    instant.cutTo unit = instant := by
  have same : instant.nanosecond / unit * unit = instant.nanosecond :=
    Nat.div_mul_cancel (Nat.dvd_of_mod_eq_zero whole)
  obtain ⟨date, clock, second, nanosecond, second_le, nanosecond_lt⟩ := instant
  simpa only [cutTo, Instant.mk.injEq, true_and] using same

end Instant

end ChangeRelay.Calendar
