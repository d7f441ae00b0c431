import PlayerHub.Calendar.Date

namespace PlayerHub.Calendar

/-- The first year of an instant. -/
def minYear : Int := -262143

/-- The last year of an instant. -/
def maxYear : Int := 262142

/-- What a calendar and a clock in UTC show, to the nanosecond. A leap second is second 60 of its
minute. -/
structure Instant where
  date : Date
  hour : Nat
  minute : Nat
  second : Nat
  nanos : Nat
  year_mem : minYear ≤ date.year ∧ date.year ≤ maxYear
  hour_lt : hour < 24
  minute_lt : minute < 60
  second_le : second ≤ 60
  nanos_lt : nanos < 1000000000
deriving DecidableEq, Repr

namespace Instant

/-- The instant with the given readings, if they are readings of an instant. -/
def of? (date : Date) (hour minute second nanos : Nat) : Option Instant :=
  if h : (minYear ≤ date.year ∧ date.year ≤ maxYear) ∧ hour < 24 ∧ minute < 60 ∧ second ≤ 60 ∧
      nanos < 1000000000 then
    some ⟨date, hour, minute, second, nanos, h.1, h.2.1, h.2.2.1, h.2.2.2.1, h.2.2.2.2⟩
  else none

/-- The instant that lies `seconds` and `nanos` after the start of 1970, leap seconds not counted,
if its year is one of an instant. -/
def ofUnix? (seconds : Int) (nanos : Nat) : Option Instant :=
  let rest := (seconds.fmod 86400).toNat
  of? (Date.ofDayNumber (seconds.fdiv 86400)) (rest / 3600) (rest / 60 % 60) (rest % 60) nanos

/-- The instant at which a clock that runs `minutes` minutes ahead of UTC shows the given readings.
The seconds are those of UTC, since it runs ahead by whole minutes. The year that the clock shows
has to be one of an instant, too. -/
def ofLocal? (date : Date) (hour minute second nanos : Nat) (minutes : Int) : Option Instant :=
  let total : Int := 60 * hour + minute - minutes
  let day :=
    if total < 0 then date.prev
    else if 1440 ≤ total then date.next
    else date
  let rest := (total.fmod 1440).toNat
  if minYear ≤ date.year ∧ date.year ≤ maxYear then of? day (rest / 60) (rest % 60) second nanos
  else none

end Instant

end PlayerHub.Calendar
