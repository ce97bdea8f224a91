/-!
# Dates of the Gregorian calendar

A date carries the proof that it exists.  The calendar runs without a gap in
both directions, year zero and negative years included.
-/

namespace ChangeRelay.Calendar

/-- Whether a year has a 29th of February. -/
def isLeapYear (year : Int) : Bool :=
  year % 4 == 0 && (year % 100 != 0 || year % 400 == 0)

/-- The number of days in a month of a year. -/
def daysInMonth (year : Int) (month : Nat) : Nat :=
  if month = 2 then (if isLeapYear year then 29 else 28)
  else if month = 4 ∨ month = 6 ∨ month = 9 ∨ month = 11 then 30
  else 31

theorem one_le_daysInMonth (year : Int) (month : Nat) : 1 ≤ daysInMonth year month := by
  unfold daysInMonth
  split
  · split <;> omega
  · split <;> omega

/-- Whether year, month and day name a date. -/
def IsDate (year : Int) (month day : Nat) : Prop :=
  1 ≤ month ∧ month ≤ 12 ∧ 1 ≤ day ∧ day ≤ daysInMonth year month

instance (year : Int) (month day : Nat) : Decidable (IsDate year month day) :=
  inferInstanceAs (Decidable (_ ∧ _))

/-- A date. -/
structure Date where
  year : Int
  month : Nat
  day : Nat
  exists_in_calendar : IsDate year month day
deriving DecidableEq

namespace Date

/-- The day after. -/
def next (date : Date) : Date :=
  if last : date.day < daysInMonth date.year date.month then
    ⟨date.year, date.month, date.day + 1,
      date.exists_in_calendar.1, date.exists_in_calendar.2.1, by omega, last⟩
  else if december : date.month < 12 then
    ⟨date.year, date.month + 1, 1, by omega, december, by omega, one_le_daysInMonth _ _⟩
  else
    ⟨date.year + 1, 1, 1, by omega, by omega, by omega, one_le_daysInMonth _ _⟩

/-- The day before. -/
def previous (date : Date) : Date :=
  if first : 1 < date.day then
    ⟨date.year, date.month, date.day - 1,
      date.exists_in_calendar.1, date.exists_in_calendar.2.1, by omega,
      Nat.le_trans (Nat.sub_le _ _) date.exists_in_calendar.2.2.2⟩
  else if january : 1 < date.month then
    ⟨date.year, date.month - 1, daysInMonth date.year (date.month - 1), by omega,
      Nat.le_trans (Nat.sub_le _ _) date.exists_in_calendar.2.1, one_le_daysInMonth _ _,
      Nat.le_refl _⟩
  else
    ⟨date.year - 1, 12, 31, by omega, by omega, by omega, by simp [daysInMonth]⟩

/-- The first day of 1970. -/
def epoch : Date :=
  ⟨1970, 1, 1, by decide⟩

end Date

end ChangeRelay.Calendar
