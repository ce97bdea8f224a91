import ChangeRelay.Calendar.Date

/-!
# Instants

An instant is a date and a time of day in UTC, down to the nanosecond.  Each
instant has one representation, so instants are equal exactly when their
fields are.  A second may be the sixtieth: a leap second is an instant of its
own, between the second before it and the minute after it.
-/

namespace ChangeRelay.Calendar

/-- A time of day down to the minute. -/
structure Clock where
  hour : Nat
  minute : Nat
  hour_lt : hour < 24
  minute_lt : minute < 60
deriving DecidableEq

namespace Clock

/-- Minutes since midnight. -/
def minutes (clock : Clock) : Nat :=
  clock.hour * 60 + clock.minute

/-- The clock at a number of minutes since midnight. -/
def ofMinutes (minutes : Nat) (before_midnight : minutes < 1440) : Clock :=
  ⟨minutes / 60, minutes % 60, by omega, by omega⟩

theorem minutes_lt (clock : Clock) : clock.minutes < 1440 := by
  have hour := clock.hour_lt
  have minute := clock.minute_lt
  unfold minutes
  omega

end Clock

/-- How far a local time is ahead of UTC, in minutes: less than a day. -/
structure Offset where
  minutes : Int
  size_lt : minutes.natAbs < 1440
deriving DecidableEq

/-- An instant in UTC. -/
structure Instant where
  date : Date
  clock : Clock
  second : Nat
  nanosecond : Nat
  second_le : second ≤ 60
  nanosecond_lt : nanosecond < 1000000000
deriving DecidableEq

namespace Instant

/-- The first instant of 1970. -/
def epoch : Instant :=
  ⟨.epoch, ⟨0, 0, by omega, by omega⟩, 0, 0, by omega, by omega⟩

instance : Inhabited Instant :=
  ⟨epoch⟩

/-- The instant with its fraction cut to a multiple of this many nanoseconds. -/
def cutTo (unit : Nat) (instant : Instant) : Instant :=
  { instant with
    nanosecond := instant.nanosecond / unit * unit
    nanosecond_lt := Nat.lt_of_le_of_lt (Nat.div_mul_le_self _ _) instant.nanosecond_lt }

/-- Move a local date and clock to UTC. -/
def toUtc (date : Date) (clock : Clock) (offset : Offset) : Date × Clock :=
  let shifted : Int := (clock.minutes : Int) - offset.minutes
  have size := offset.size_lt
  have local_lt := clock.minutes_lt
  if early : shifted < 0 then
    (date.previous, .ofMinutes (shifted + 1440).toNat (by omega))
  else if late : 1440 ≤ shifted then
    (date.next, .ofMinutes (shifted - 1440).toNat (by omega))
  else
    (date, .ofMinutes shifted.toNat (by omega))

end Instant

end ChangeRelay.Calendar
